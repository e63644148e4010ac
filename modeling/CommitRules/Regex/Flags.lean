import CommitRules.Regex.Escape

/-!
# CommitRules.Regex.Flags

Flags: letters that change how a pattern is read and matched. They are set for the whole pattern
from outside or at its start, or for one group.
-/

namespace CommitRules.Regex

open CommitRules.Text

/-- What a flag letter inside a pattern names. -/
inductive Flag where
  | ignoreCase
  | locale
  | multiLine
  | dotAll
  | verbose
  | ascii
  | template
  | unicode
  deriving DecidableEq, Repr

def Flag.ofLetter? (c : Char) : Option Flag :=
  match c with
  | 'i' => some .ignoreCase
  | 'L' => some .locale
  | 'm' => some .multiLine
  | 's' => some .dotAll
  | 'x' => some .verbose
  | 'a' => some .ascii
  | 't' => some .template
  | 'u' => some .unicode
  | _ => none

/-- Holds of the flags that say which characters letters and digits are. -/
def Flag.isType : Flag → Bool
  | .ascii | .locale | .unicode => true
  | _ => false

structure Options where
  ignoreCase : Bool
  multiLine : Bool
  dotAll : Bool
  verbose : Bool
  ascii : Bool
  unicode : Bool
  template : Bool
  deriving DecidableEq, Repr

namespace Options

def none : Options := ⟨false, false, false, false, false, false, false⟩

def add (options : Options) : Flag → Options
  | .ignoreCase => { options with ignoreCase := true }
  | .locale => options
  | .multiLine => { options with multiLine := true }
  | .dotAll => { options with dotAll := true }
  | .verbose => { options with verbose := true }
  | .ascii => { options with ascii := true }
  | .template => { options with template := true }
  | .unicode => { options with unicode := true }

def remove (options : Options) : Flag → Options
  | .ignoreCase => { options with ignoreCase := false }
  | .locale => options
  | .multiLine => { options with multiLine := false }
  | .dotAll => { options with dotAll := false }
  | .verbose => { options with verbose := false }
  | .ascii => { options with ascii := false }
  | .template => { options with template := false }
  | .unicode => { options with unicode := false }

/-- The flags for the whole pattern after some were set at its start. -/
def addAll (options : Options) (flags : List Flag) : Options := flags.foldl add options

/-- The flags inside a group that turns some on and some off. One that says which characters are
letters replaces the one in force. -/
def within (options : Options) (on off : List Flag) : Options :=
  let base :=
    if on.any Flag.isType then { options with ascii := false, unicode := false } else options
  off.foldl remove (base.addAll on)

/-- How the case of letters counts. -/
def folding (options : Options) : Folding :=
  if !options.ignoreCase then .exact else if options.ascii then .ascii else .full

/-- The letters of the flags that may be given from outside, in order. -/
def letters (options : Options) : List Char :=
  (if options.ignoreCase then ['i'] else []) ++ (if options.multiLine then ['m'] else []) ++
    (if options.dotAll then ['s'] else []) ++ (if options.verbose then ['x'] else [])

end Options

inductive InlineFlags where
  | whole (on : List Flag)
  | group (on off : List Flag)
  deriving DecidableEq, Repr

/-- Refuses a piece that stands where a flag letter or the end of the flags was to come. -/
def refuseFlag {α : Type} (piece : List Char) (missing : String) (feed : Feed) : Except Fault α :=
  match piece with
  | [c] =>
    feed.refuseBack 1 (if isLetter c.toNat then .unknownFlag else .missing missing)
  | _ => feed.refuseBack piece.length (.missing missing)

/-- Goes on behind the letter of a flag that is turned off. -/
def takeFlagsOff (on off : List Flag) (flag : Flag) (feed : Feed) :
    Nat → Except Fault (InlineFlags × Feed)
  | 0 => feed.refuse (.missing ":")
  | fuel + 1 => do
    if flag.isType then feed.refuse .typeFlagOff
    else
      let off := flag :: off
      match feed.next? with
      | none => feed.refuse (.missing ":")
      | some (piece, feed) =>
        let feed ← feed.settled
        match piece with
        | [':'] =>
          if off.contains .template then feed.refuseBack 1 .globalFlagOff
          else if on.any off.contains then feed.refuseBack 1 .flagOnAndOff
          else return (.group on.reverse off.reverse, feed)
        | [c] =>
          match Flag.ofLetter? c with
          | some flag => takeFlagsOff on off flag feed fuel
          | none => refuseFlag piece ":" feed
        | _ => refuseFlag piece ":" feed

/-- Goes on behind the hyphen that begins the flags turned off. -/
def takeFirstFlagOff (on : List Flag) (feed : Feed) : Except Fault (InlineFlags × Feed) := do
  match feed.next? with
  | none => feed.refuse (.missing "flag")
  | some (piece, feed) =>
    let feed ← feed.settled
    match piece with
    | [c] =>
      match Flag.ofLetter? c with
      | some flag => takeFlagsOff on [] flag feed (feed.size + 1)
      | none => refuseFlag piece "flag" feed
    | _ => refuseFlag piece "flag" feed

/-- The flags that are turned on have been read up to `mark`, which has been taken. -/
def endFlagsOn (on : List Flag) (mark : Char) (feed : Feed) :
    Except Fault (InlineFlags × Feed) :=
  if mark = ')' then .ok (.whole on.reverse, feed)
  else if on.contains .template then feed.refuseBack 1 .globalFlagOn
  else if mark = '-' then takeFirstFlagOff on feed
  else .ok (.group on.reverse [], feed)

/-- Goes on behind the letter of a flag that is turned on. -/
def takeFlagsOn (on : List Flag) (flag : Flag) (feed : Feed) :
    Nat → Except Fault (InlineFlags × Feed)
  | 0 => feed.refuse (.missing "-, : or )")
  | fuel + 1 => do
    let on := flag :: on
    if flag = .locale then feed.refuse .localeFlag
    else if flag.isType && on.any (fun other => other.isType && other != flag) then
      feed.refuse .typeFlagsTogether
    else
      match feed.next? with
      | none => feed.refuse (.missing "-, : or )")
      | some (piece, feed) =>
        let feed ← feed.settled
        match piece with
        | [c] =>
          if c = ')' || c = '-' || c = ':' then endFlagsOn on c feed
          else
            match Flag.ofLetter? c with
            | some flag => takeFlagsOn on flag feed fuel
            | none => refuseFlag piece "-, : or )" feed
        | _ => refuseFlag piece "-, : or )" feed

end CommitRules.Regex
