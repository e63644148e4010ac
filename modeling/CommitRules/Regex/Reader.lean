import CommitRules.Regex.CharClass
import CommitRules.Regex.Flags

/-!
# CommitRules.Regex.Reader

Reading a pattern. The groups that are open form a stack of frames, innermost first; a frame holds
the finished branches of its group and the items of the branch being read. `Reader.step` takes one
item, bar or parenthesis from what is left of the pattern.
-/

namespace CommitRules.Regex

open CommitRules.Text

/-- What a repetition mark asks about the item before it. -/
inductive Shape where
  /-- Takes up no characters by nature and cannot be repeated. -/
  | place
  /-- Is a repetition and cannot be repeated again. -/
  | repetition
  | other
  deriving DecidableEq, Repr

structure Item where
  node : Node
  width : Width
  shape : Shape
  deriving DecidableEq, Repr

structure Branch where
  node : Node
  width : Width
  deriving DecidableEq, Repr

/-- What an open parenthesis has begun. -/
inductive Opening where
  /-- No parenthesis: the pattern as a whole. -/
  | whole
  | group (index : Nat)
  | plain
  | atomic
  | ahead (negated : Bool)
  /-- A look-behind; `outermost` if it is not inside another one. -/
  | behind (negated outermost : Bool)
  | conditional (index : Nat)
  deriving DecidableEq, Repr

/-- A group that is being read; branches and items are kept last first. -/
structure Frame where
  opening : Opening
  offset : Nat
  options : Options
  branches : List Branch
  items : List Item
  deriving DecidableEq, Repr

/-- The items of one branch, in order, as one pattern. -/
def Branch.ofItems (items : List Item) : Branch :=
  ⟨Node.sequence (items.map (·.node)), items.foldl (fun width item => width.add item.width) .zero⟩

/-- Several branches as one pattern. -/
def Branch.either : List Branch → Branch
  | [] => ⟨.empty, .zero⟩
  | branch :: branches =>
    ⟨Node.alternatives ((branch :: branches).map (·.node)),
      branches.foldl (fun width other => width.either other.width) branch.width⟩

namespace Frame

def begun (opening : Opening) (offset : Nat) (options : Options) : Frame :=
  ⟨opening, offset, options, [], []⟩

def push (frame : Frame) (item : Item) : Frame := { frame with items := item :: frame.items }

def endBranch (frame : Frame) : Frame :=
  { frame with branches := Branch.ofItems frame.items.reverse :: frame.branches, items := [] }

/-- The branches read so far, in order. -/
def allBranches (frame : Frame) : List Branch := frame.endBranch.branches.reverse

/-- The item a closed group amounts to. -/
def item (frame : Frame) : Item :=
  let body := Branch.either frame.allBranches
  match frame.opening with
  | .whole | .plain => ⟨body.node, body.width, .other⟩
  | .group index => ⟨.group index body.node, body.width, .other⟩
  | .atomic => ⟨.atomic body.node, body.width, .other⟩
  | .ahead negated => ⟨.ahead negated body.node, .zero, .other⟩
  | .behind negated _ => ⟨.behind negated body.width body.node, .zero, .other⟩
  | .conditional index =>
    match frame.allBranches with
    | [yes, no] => ⟨.conditional index yes.node no.node, yes.width.either no.width, .other⟩
    | _ => ⟨.conditional index body.node .empty, .zero |>.either body.width, .other⟩

/-- Holds at the start of the whole pattern, where flags for all of it may stand. -/
def atStart (frame : Frame) : Bool :=
  frame.opening = .whole && frame.branches.isEmpty && frame.items.isEmpty

end Frame

/-- The state of reading: the innermost open group, those around it, and the groups so far. -/
structure Reader where
  frame : Frame
  outer : List Frame
  groups : Groups

/-- What reading yields: the reader after a step and what is left. -/
abbrev Step := Except Fault (Reader × Feed)

namespace Reader

def start (options : Options) : Reader := ⟨.begun .whole 0 options, [], .none⟩

def push (reader : Reader) (node : Node) (width : Width) (shape : Shape) : Reader :=
  { reader with frame := reader.frame.push ⟨node, width, shape⟩ }

/-- Opens a group inside the innermost one. -/
def enter (reader : Reader) (opening : Opening) (offset : Nat) (options : Options) : Reader :=
  { reader with
    frame := .begun opening offset options
    outer := reader.frame :: reader.outer }

def pushTest (reader : Reader) (test : CharTest) : Reader := reader.push (.one test) .one .other

/-- One more character of the pattern that stands for itself. -/
def pushCode (reader : Reader) (code : Nat) : Reader :=
  reader.pushTest (.literal reader.frame.options.folding false code)

def pushAnchor (reader : Reader) (anchor : Anchor) : Reader :=
  reader.push (.anchor anchor) .zero .place

def pushReference (reader : Reader) (index : Nat) : Reader :=
  reader.push (.backref reader.frame.options.folding index)
    ((reader.groups.width? index).getD .zero) .other

def pushEscape (reader : Reader) (escape : Escape) : Reader :=
  let options := reader.frame.options
  match escape with
  | .code code => reader.pushCode code
  | .member kind negated =>
    reader.pushTest (.oneOf options.folding options.ascii false [.member kind negated])
  | .textStart => reader.pushAnchor .textStart
  | .textEnd => reader.pushAnchor .textEnd
  | .wordEdge negated => reader.pushAnchor (.wordEdge options.ascii negated)
  | .reference index => reader.pushReference index

end Reader

/-! ## Repetitions -/

/-- A repetition count from here on is too large. -/
def boundLimit : Nat := 4294967295

def readBound (digits : List Char) : Except Fault Nat :=
  if numeralLimit < digits.length then .error (.numeralTooLong digits.length)
  else if boundLimit ≤ decimalNumber digits then .error .boundTooLarge
  else .ok (decimalNumber digits)

/-- Reads counts in braces behind the opening one. Anything else than counts makes that brace a
character like any other, and answers `none`. -/
def takeCounts (feed : Feed) : Except Fault (Option (Bounds × Feed)) := do
  let opened := feed
  let (closesAtOnce, _) ← feed.taking nameCloses
  if closesAtOnce then return none
  let (low, feed) ← feed.takeAll isAsciiDigit
  let (comma, feed) ← feed.taking ','
  let (high, feed) ← if comma then feed.takeAll isAsciiDigit else pure (low, feed)
  let (closes, feed) ← feed.taking nameCloses
  if !closes then return none
  let least ← if low.isEmpty then pure 0 else readBound low
  if high.isEmpty then return some (⟨least, none⟩, feed)
  let most ← readBound high
  if most < least then opened.refuse .badBounds
  return some (⟨least, some most⟩, feed)

/-- Reads a repetition behind its first character `mark`, which starts at `offset`, and applies it
to the latest item. -/
def takeRepetition (reader : Reader) (offset : Nat) (bounds : Bounds) (feed : Feed) : Step := do
  match reader.frame.items with
  | [] => .error (.malformed .nothingToRepeat offset)
  | item :: items =>
    match item.shape with
    | .place => .error (.malformed .nothingToRepeat offset)
    | .repetition => .error (.malformed .repeatedTwice offset)
    | .other =>
      let (isLazy, feed) ← feed.taking '?'
      let (isPossessive, feed) ← if isLazy then pure (false, feed) else feed.taking '+'
      let greed := if isLazy then .lazy else if isPossessive then .possessive else .greedy
      let repeated : Item := ⟨item.node.repeated greed bounds, item.width.times bounds, .repetition⟩
      return ({ reader with frame := { reader.frame with items := repeated :: items } }, feed)

/-! ## Parentheses -/

/-- Opens a group whose match is kept. -/
def openGroup (reader : Reader) (offset : Nat) (name : Option (List Char)) (feed : Feed) : Step :=
  let index := reader.groups.nextIndex
  match name.bind fun name => (reader.groups.named? name).map fun old => (name, old) with
  | some (name, old) => feed.refuseBack (name.length + 1) (.groupNameTaken name index old)
  | none =>
    let reader := reader.enter (.group index) offset reader.frame.options
    .ok ({ reader with groups := reader.groups.opened name }, feed)

/-- Reads a reference to a named group behind the equals sign. -/
def takeNamedReference (reader : Reader) (feed : Feed) : Step := do
  let (name, feed) ← takeGroupName ')' feed
  match reader.groups.named? name with
  | none => feed.refuseBack (name.length + 1) (.unknownGroupName name)
  | some index =>
    if (reader.groups.width? index).isNone then feed.refuseBack (name.length + 1) .openGroup
    else
      reader.groups.checkBehind index feed
      return (reader.pushReference index, feed)

/-- Reads what begins with a question mark and `P`. -/
def takeNamed (reader : Reader) (offset : Nat) (feed : Feed) : Step := do
  match feed.next? with
  | none => feed.refuse .unexpectedEnd
  | some (piece, feed) =>
    let feed ← feed.settled
    if piece = ['<'] then
      let (name, feed) ← takeGroupName '>' feed
      openGroup reader offset (some name) feed
    else if piece = ['='] then takeNamedReference reader feed
    else feed.refuseBack (piece.length + 2) (.unknownExtension ('?' :: 'P' :: piece))

/-- Opens a look-behind. -/
def openBehind (reader : Reader) (offset : Nat) (negated : Bool) : Reader :=
  let outermost := reader.groups.behindFrom.isNone
  let groups :=
    if outermost then { reader.groups with behindFrom := some reader.groups.nextIndex }
    else reader.groups
  { reader.enter (.behind negated outermost) offset reader.frame.options with groups }

/-- Reads what begins with a question mark and `<`. -/
def takeBehind (reader : Reader) (offset : Nat) (feed : Feed) : Step := do
  match feed.next? with
  | none => feed.refuse .unexpectedEnd
  | some (piece, feed) =>
    let feed ← feed.settled
    if piece = ['='] then return (openBehind reader offset false, feed)
    else if piece = ['!'] then return (openBehind reader offset true, feed)
    else feed.refuseBack (piece.length + 2) (.unknownExtension ('?' :: '<' :: piece))

/-- Groups are never numbered this high. -/
def groupLimit : Nat := 2147483647

/-- The group a condition asks about, by name or by number. -/
def conditionGroup (groups : Groups) (name : List Char) (feed : Feed) :
    Except Fault (Nat × Groups) :=
  let refuse (cause : Cause) := feed.refuseBack (name.length + 1) cause
  if isIdentifier name then
    match groups.named? name with
    | some index => .ok (index, groups)
    | none => refuse (.unknownGroupName name)
  else
    match groupNumber? name with
    | none => refuse (.badGroupName name)
    | some index =>
      if index = 0 then refuse .badGroupNumber
      else if groupLimit ≤ index then refuse (.noSuchGroup index)
      else .ok (index, groups.asking index (feed.offset - (name.length + 1)))

/-- Reads the condition of a group behind its parenthesis, and opens the group. -/
def takeCondition (reader : Reader) (offset : Nat) (feed : Feed) : Step := do
  let (name, feed) ← feed.takeName ')' "group name" []
  let (index, groups) ← conditionGroup reader.groups name feed
  groups.checkBehind index feed
  return ({ reader.enter (.conditional index) offset reader.frame.options with groups }, feed)

def applyFlags (reader : Reader) (offset : Nat) (flags : InlineFlags) (feed : Feed) : Step :=
  match flags with
  | .whole on =>
    if reader.frame.atStart then
      let options := reader.frame.options.addAll on
      .ok ({ reader with frame := { reader.frame with options } }, feed)
    else .error (.malformed .flagsNotAtStart offset)
  | .group on off => .ok (reader.enter .plain offset (reader.frame.options.within on off), feed)

/-- Reads what begins with a question mark and the piece `piece`. -/
def takeExtension (reader : Reader) (offset : Nat) (piece : List Char) (feed : Feed) : Step := do
  let options := reader.frame.options
  match piece with
  | ['P'] => takeNamed reader offset feed
  | [':'] => return (reader.enter .plain offset options, feed)
  | ['>'] => return (reader.enter .atomic offset options, feed)
  | ['='] => return (reader.enter (.ahead false) offset options, feed)
  | ['!'] => return (reader.enter (.ahead true) offset options, feed)
  | ['<'] => takeBehind reader offset feed
  | ['('] => takeCondition reader offset feed
  | ['#'] =>
    let (closed, feed) ← feed.skipPast ')'
    if closed then return (reader, feed)
    else .error (.malformed .unterminatedComment offset)
  | ['-'] =>
    let (flags, feed) ← takeFirstFlagOff [] feed
    applyFlags reader offset flags feed
  | _ =>
    match piece.head?.bind Flag.ofLetter? with
    | some flag =>
      let (flags, feed) ← takeFlagsOn [] flag feed (feed.size + 1)
      applyFlags reader offset flags feed
    | none => feed.refuseBack (piece.length + 1) (.unknownExtension ('?' :: piece))

def takeOpening (reader : Reader) (offset : Nat) (feed : Feed) : Step := do
  let (special, feed) ← feed.taking '?'
  if !special then openGroup reader offset none feed
  else
    match feed.next? with
    | none => feed.refuse .unexpectedEnd
    | some (piece, feed) =>
      let feed ← feed.settled
      takeExtension reader offset piece feed

/-- Closes the innermost group; `rest` is what follows its parenthesis. -/
def closeGroup (reader : Reader) (around : Frame) (outer : List Frame) (rest : Feed) : Step := do
  let rest ← rest.settled
  let item := reader.frame.item
  let groups :=
    match reader.frame.opening with
    | .group index => reader.groups.closed index item.width
    | .behind _ true => { reader.groups with behindFrom := none }
    | _ => reader.groups
  return (⟨around.push item, outer, groups⟩, rest)

/-- Ends a branch at a bar; a condition has two branches at most. -/
def takeBar (reader : Reader) (bar rest : Feed) : Step := do
  match reader.frame.opening, reader.frame.branches with
  | .conditional _, _ :: _ => bar.refuse .tooManyBranches
  | _, _ =>
    let rest ← rest.settled
    return ({ reader with frame := reader.frame.endBranch }, rest)

/-! ## The pattern as a whole -/

/-- White space that a verbose pattern does not count. -/
def isFiller (c : Char) : Bool := c = ' ' || ('\t' ≤ c && c ≤ '\r')

/-- Takes a character that starts at `offset`; `rest` is what follows it, in which no loose
backslash comes first. -/
def takeChar (reader : Reader) (offset : Nat) (c : Char) (rest : Feed) : Step := do
  let options := reader.frame.options
  if options.verbose && isFiller c then return (reader, rest)
  else if options.verbose && c = '#' then
    let (_, rest) ← rest.skipPast '\n'
    return (reader, rest)
  else if c = nameOpens then
    match ← takeCounts rest with
    | some (bounds, rest) => takeRepetition reader offset bounds rest
    | none => return (reader.pushCode c.toNat, rest)
  else
    match c with
    | '[' =>
      let (test, rest) ← takeClass options.folding options.ascii offset rest
      return (reader.pushTest test, rest)
    | '*' => takeRepetition reader offset ⟨0, none⟩ rest
    | '+' => takeRepetition reader offset ⟨1, none⟩ rest
    | '?' => takeRepetition reader offset ⟨0, some 1⟩ rest
    | '.' => return (reader.pushTest (.any options.dotAll), rest)
    | '(' => takeOpening reader offset rest
    | '^' =>
      return (reader.pushAnchor (if options.multiLine then .lineStart else .textStart), rest)
    | '$' =>
      return (reader.pushAnchor (if options.multiLine then .lineEnd else .lastLineEnd), rest)
    | c => return (reader.pushCode c.toNat, rest)

/-- Reads until the pattern ends or a parenthesis closes that was never opened. `fuel` bounds the
number of steps. -/
def readAll : Nat → Reader → Feed → Step
  | 0, reader, _ => .error (.malformed .unterminatedGroup reader.frame.offset)
  | fuel + 1, reader, feed =>
    match feed with
    | .done _ | .loose _ =>
      if reader.outer.isEmpty then .ok (reader, feed)
      else .error (.malformed .unterminatedGroup reader.frame.offset)
    | .escape _ c rest => do
      let rest ← rest.settled
      let (escape, rest) ← takeEscape reader.groups c rest
      readAll fuel (reader.pushEscape escape) rest
    | .char offset c rest =>
      if c = '|' then do
        let (reader, rest) ← takeBar reader feed rest
        readAll fuel reader rest
      else if c = ')' then
        match reader.outer with
        | [] => .ok (reader, feed)
        | around :: outer => do
          let (reader, rest) ← closeGroup reader around outer rest
          readAll fuel reader rest
      else do
        let rest ← rest.settled
        let (reader, rest) ← takeChar reader offset c rest
        readAll fuel reader rest

/-- What is wrong with a pattern that was read, if anything: a look-behind without a fixed width, or
a repetition in a template. The first fault from left to right counts, the outer before the
inner. -/
def Node.limit? (template : Bool) : Node → Option Limit
  | .seq first second | .alt first second => first.limit? template <|> second.limit? template
  | .conditional _ yes no => yes.limit? template <|> no.limit? template
  | .group _ body | .atomic body | .ahead _ body => body.limit? template
  | .behind _ width body =>
    if boundLimit < width.least then some .distantBehind
    else if width.least ≠ width.most then some .variableBehind
    else body.limit? template
  | .span greed _ _ => if template then some (operatorLimit greed) else none
  | .rounds greed _ body => if template then some (operatorLimit greed) else body.limit? template
  | _ => none
where
  operatorLimit : Greed → Limit
    | .greedy => .templateRepeat "MAX_REPEAT"
    | .lazy => .templateRepeat "MIN_REPEAT"
    | .possessive => .templateRepeat "POSSESSIVE_REPEAT"

/-- Reads a pattern with flags given from outside; answers it with the flags in force for all of
it. -/
def readPattern (options : Options) (pattern : List Char) : Except Fault (Node × Options) := do
  let feed ← (Feed.ofChars 0 pattern).settled
  let (reader, feed) ← readAll (feed.size + 1) (.start options) feed
  let options := reader.frame.options
  if options.ascii && options.unicode then .error .asciiAndUnicode
  match feed with
  | .done _ =>
    reader.groups.checkAsked
    let node := reader.frame.item.node
    match node.limit? options.template with
    | some limit => .error (.unsupported limit)
    | none => return (node, options)
  | _ => feed.refuse .unbalancedParenthesis

end CommitRules.Regex
