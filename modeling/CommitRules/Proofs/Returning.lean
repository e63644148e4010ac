import CommitRules.Config.Read
import CommitRules.Proofs.Evaluation
import CommitRules.Proofs.GlobText

/-!
# CommitRules.Proofs.Returning

When the check of files that are there returns: the globs of a rule are read for every file and the
heads of the files it covers are read as far as the rule says, so what can fail is a glob with a
range whose ends are in the wrong order, and a head with too many lines. Neither is refused when a
configuration is read.

* `returns_takes_iff`: the globs that can be applied to a path.
* `returns_applyRule_iff`: the rules that can be applied to files that are there.
* `check_returns_iff`: the checks that return.
-/

namespace CommitRules

open CommitRules.Files

/-! ## Globs -/

namespace Glob

/-- Whether the ranges among the members between brackets have their ends in order. -/
def rangesInOrder : List Char → Bool
  | [] => true
  | low :: '-' :: high :: rest => low ≤ high && rangesInOrder rest
  | _ :: rest => rangesInOrder rest

/-- Whether the ranges of a piece have their ends in order. The class of all characters but those
in brackets begins with a slash, which may be the low end of a range. -/
def Piece.inOrder : Piece → Bool
  | .oneOf true body => rangesInOrder ('/' :: body)
  | .oneOf false body => rangesInOrder body
  | _ => true

/-- A glob without the mark that negates it. -/
def unmarked : List Char → List Char
  | '!' :: glob => glob
  | glob => glob

/-- Whether all ranges of a glob have their ends in order, whatever alternatives are taken. -/
def inOrder (glob : List Char) : Bool :=
  (expand (unmarked glob)).all fun variant => (pieces variant).all Piece.inOrder

theorem returns_members_iff {offset : Nat} {body : List Char} :
    Returns (members offset body) ↔ rangesInOrder body = true := by
  induction body using rangesInOrder.induct generalizing offset with
  | case1 => exact iff_of_true (returns_ok _) rfl
  | case2 low high rest ih =>
    rw [members_range, rangesInOrder, Bool.and_eq_true, decide_eq_true_eq]
    by_cases hbad : high < low
    · rw [if_pos hbad]
      exact iff_of_false not_returns_error fun h => (Char.not_le.2 hbad) h.1
    · rw [if_neg hbad, returns_map_iff, ih]
      exact (and_iff_right (Char.not_lt.1 hbad)).symm
  | case3 c rest hrange ih =>
    rw [members_char _ hrange, returns_map_iff, ih, rangesInOrder]
    exact hrange

theorem returns_node_iff {offset : Nat} {piece : Piece} :
    Returns (piece.node offset) ↔ piece.inOrder = true := by
  cases piece with
  | oneOf negated body =>
    cases negated with
    | true => exact (returns_bind_of_returns fun _ => returns_ok _).trans returns_members_iff
    | false => exact (returns_bind_of_returns fun _ => returns_ok _).trans returns_members_iff
  | _ => exact iff_of_true (returns_ok _) rfl

theorem returns_nodes_iff {offset : Nat} {pieces : List Piece} :
    Returns (nodes offset pieces) ↔ ∀ piece ∈ pieces, piece.inOrder = true := by
  induction pieces generalizing offset with
  | nil => exact iff_of_true (returns_ok _) (List.forall_mem_nil _)
  | cons piece pieces ih =>
    rw [nodes_cons, returns_bind_iff, List.forall_mem_cons, ← returns_node_iff, ← ih]
    constructor
    · rintro ⟨node, hnode, h⟩
      exact ⟨⟨node, hnode⟩, returns_map_iff.1 h⟩
    · rintro ⟨⟨node, hnode⟩, h⟩
      exact ⟨node, hnode, returns_map_iff.2 h⟩

theorem returns_compile_iff {glob : List Char} :
    Returns (compile glob) ↔ (pieces glob).all Piece.inOrder = true := by
  rw [List.all_eq_true, ← @returns_nodes_iff 0, compile]
  cases nodes 0 (pieces glob) with
  | error fault => exact iff_of_false not_returns_error not_returns_error
  | ok found => exact iff_of_true (returns_ok _) (returns_ok _)

theorem returns_mapM_compile_iff {variants : List (List Char)} :
    Returns (variants.mapM compile) ↔
      (variants.all fun variant => (pieces variant).all Piece.inOrder) = true := by
  simp only [returns_mapM_iff, returns_compile_iff, List.all_eq_true (l := variants)]

theorem unmarked_plain {glob : List Char} (h : ∀ rest, glob ≠ '!' :: rest) :
    unmarked glob = glob := by
  unfold unmarked
  split
  · exact absurd rfl (h _)
  · rfl

theorem ofText_eq (glob : List Char) :
    Entry.ofText glob = do
      return ⟨glob.head? = some '!', ← (expand (unmarked glob)).mapM compile⟩ := by
  unfold Entry.ofText
  split
  · rfl
  · next hplain =>
    have hhead : glob.head? ≠ some '!' := fun h =>
      have ⟨rest, hrest⟩ := List.head?_eq_some_iff.1 h
      hplain rest hrest
    rw [unmarked_plain hplain, decide_eq_false hhead]

theorem returns_ofText_iff {glob : List Char} :
    Returns (Entry.ofText glob) ↔ inOrder glob = true := by
  rw [inOrder, ← returns_mapM_compile_iff, ofText_eq]
  exact returns_bind_of_returns fun _ => returns_ok _

theorem returns_takes_iff {globs : List String} {path : String} :
    Returns (takes globs path) ↔ ∀ glob ∈ globs, inOrder glob.toList = true := by
  simp only [← returns_ofText_iff, ← returns_mapM_iff]
  exact returns_bind_of_returns fun _ => returns_ok _

end Glob

/-! ## Rules -/

section Rules

variable {place : Place} {files : List String} {rule : Rule}

theorem read_returns_iff {tree : Tree} {path : Path} :
    Returns (tree.read path) ↔
      path.hasNul = false ∧ ∃ bytes, tree.look path = .ok (.file bytes) := by
  unfold Tree.read
  split
  · next hnul => exact iff_of_false not_returns_error fun h => by rw [h.1] at hnul; cases hnul
  · next hnul =>
    have hnul : path.hasNul = false := Bool.eq_false_iff.2 hnul
    split
    · next bytes hlook => exact iff_of_true (returns_ok _) ⟨hnul, bytes, hlook⟩
    · next hlook =>
      exact iff_of_false not_returns_error fun ⟨_, _, h⟩ => by rw [hlook] at h; cases h
    · next error hlook =>
      exact iff_of_false not_returns_error fun ⟨_, _, h⟩ => by rw [hlook] at h; cases h

theorem exists?_of_read {tree : Tree} {path : Path} (h : Returns (tree.read path)) :
    tree.exists? path = .ok true := by
  obtain ⟨hnul, bytes, hlook⟩ := read_returns_iff.1 h
  rw [Tree.exists?, hnul, hlook]
  rfl

/-- The head of a file that is there is that of its text, unless too many lines are asked for. -/
theorem readHead_of_read {tree : Tree} {file : String} {bytes : List UInt8}
    (h : tree.read (.ofText file) = .ok bytes) (count : Nat) :
    readHead tree file count =
      if headLimit < (count : Int) then .error (.badValue badHeadMessage)
      else .ok (firstLines count (textOf bytes)) := by
  have hthere := exists?_of_read ⟨bytes, h⟩
  have hcount : ¬ (count : Int) < 0 := by omega
  simp only [readHead, hthere, h, bind, Except.bind, hcount, decide_false, Bool.false_or,
    Bool.not_true, decide_eq_true_eq, Int.toNat_natCast]
  rfl

theorem returns_readHead_iff {tree : Tree} {file : String} {count : Nat}
    (h : Returns (tree.read (.ofText file))) :
    Returns (readHead tree file count) ↔ (count : Int) ≤ headLimit := by
  obtain ⟨bytes, hread⟩ := h
  rw [readHead_of_read hread]
  by_cases hlimit : headLimit < (count : Int)
  · rw [if_pos hlimit]
    exact iff_of_false not_returns_error (Int.not_le.2 hlimit)
  · rw [if_neg hlimit]
    exact iff_of_true (returns_ok _) (Int.not_lt.1 hlimit)

theorem returns_inScope_iff {scope : FileScope} {root : Option Path} :
    Returns (inScope scope root files) ↔
      (files ≠ [] → ∀ globs, scope.active? = some globs →
        ∀ glob ∈ globs, Glob.inOrder glob.toList = true) := by
  unfold inScope
  cases scope.active? with
  | none => exact iff_of_true (returns_ok _) fun _ _ h => nomatch h
  | some globs =>
    simp only [returns_filterM_iff, Glob.returns_takes_iff, Option.some.injEq, forall_eq']
    constructor
    · intro h hfiles
      obtain ⟨file, hfile⟩ := List.exists_mem_of_ne_nil files hfiles
      exact h file hfile
    · intro h file hfile
      exact h (List.ne_nil_of_mem hfile)

/-- The files that are not in scope are not looked for. -/
theorem returns_select {tree : Tree} {scope : FileScope} {root : Option Path} :
    Returns (select tree scope root files) ↔
      Returns (inScope scope root files) ∧
        ∀ file ∈ files, scope.admits (Path.shownFrom root file) = true →
          Returns (tree.exists? (.ofText file)) := by
  rw [select, returns_bind_iff]
  constructor
  · rintro ⟨inside, hinside, hpresent⟩
    refine ⟨⟨inside, hinside⟩, fun file hfile hadmits => returns_filterM_iff.1 hpresent file ?_⟩
    rw [inScope_ok hinside]
    exact List.mem_filter.2 ⟨hfile, hadmits⟩
  · rintro ⟨⟨inside, hinside⟩, h⟩
    refine ⟨inside, hinside, returns_filterM_iff.2 fun file hfile => ?_⟩
    rw [inScope_ok hinside] at hfile
    obtain ⟨hfile, hadmits⟩ := List.mem_filter.1 hfile
    exact h file hfile hadmits

theorem returns_select_iff (hfiles : ∀ file ∈ files, Returns (place.tree.read (.ofText file))) :
    Returns (select place.tree rule.files place.root files) ↔
      (files ≠ [] → ∀ globs, rule.files.active? = some globs →
        ∀ glob ∈ globs, Glob.inOrder glob.toList = true) := by
  rw [returns_select, ← @returns_inScope_iff _ _ place.root]
  exact and_iff_left fun file hfile _ => ⟨true, exists?_of_read (hfiles file hfile)⟩

theorem returns_concerned_iff {tree : Tree}
    (hfiles : ∀ file ∈ files, Returns (tree.read (.ofText file))) :
    Returns (concerned tree rule files) ↔
      (files ≠ [] → rule.find ≠ none → (rule.head : Int) ≤ headLimit) := by
  unfold concerned
  cases rule.find with
  | none => exact iff_of_true (returns_ok _) fun _ h => (h rfl).elim
  | some find =>
    have hhead : ∀ file ∈ files, (Returns (headHolds tree find rule.head file) ↔
        (rule.head : Int) ≤ headLimit) := fun file hfile => by
      rw [headHolds, returns_map_iff, returns_readHead_iff (hfiles file hfile)]
    rw [returns_filterM_iff]
    constructor
    · intro h hne _
      obtain ⟨file, hfile⟩ := List.exists_mem_of_ne_nil files hne
      exact (hhead file hfile).1 (h file hfile)
    · intro h file hfile
      exact (hhead file hfile).2 (h (List.ne_nil_of_mem hfile) (Option.some_ne_none find))

/-- Whether a rule can be applied to files that are there: its globs, if there are files to apply
them to, and the number of lines it counts, if it has a file to read. -/
structure Rule.Applies (rule : Rule) (place : Place) (files : List String) : Prop where
  globs : files ≠ [] → ∀ globs, rule.files.active? = some globs →
    ∀ glob ∈ globs, Glob.inOrder glob.toList = true
  head : rule.covered place files ≠ [] → rule.find ≠ none → (rule.head : Int) ≤ headLimit

theorem returns_applyRule_iff {diff : List Char}
    (hfiles : ∀ file ∈ files, Returns (place.tree.read (.ofText file))) :
    Returns (applyRule place diff files rule).outcome ↔ rule.Applies place files := by
  have hcovered : ∀ file ∈ rule.covered place files, Returns (place.tree.read (.ofText file)) :=
    fun file hfile => hfiles file (List.mem_of_mem_filter hfile)
  constructor
  · rintro ⟨result, h⟩
    obtain ⟨matched, hmatched, h⟩ := Run.bind_ok h
    obtain ⟨withMatches, hconcerned, -⟩ := Run.bind_ok h
    obtain rfl := select_ok hmatched
    exact ⟨(returns_select_iff hfiles).1 ⟨_, hmatched⟩,
      (returns_concerned_iff hcovered).1 ⟨_, hconcerned⟩⟩
  · intro happlies
    obtain ⟨matched, hmatched⟩ := (returns_select_iff hfiles).2 happlies.globs
    obtain rfl := select_ok hmatched
    obtain ⟨withMatches, hconcerned⟩ := (returns_concerned_iff hcovered).2 happlies.head
    rw [applyRule_of_ok hmatched hconcerned]
    exact returns_ok _

end Rules

/-! ## Checks -/

/-- A check of files that are there returns, whatever the change, if and only if each of its rules
can be applied to them. -/
theorem check_returns_iff {session : Session} {fetch : String → Run String} {commit diff : String}
    {files : List String} (place : Place) (config : Config)
    (hdiff : (session.cache.get fetch commit).outcome = .ok diff)
    (hfiles : ∀ file ∈ files, Returns (place.tree.read (.ofText file))) :
    Returns (session.check fetch commit place config.rules files).outcome ↔
      ∀ rule ∈ config.rules, rule.Applies place files := by
  rw [check_of_fetched hdiff]
  refine Run.returns_each_iff.trans (forall₂_congr fun rule _ => ?_)
  exact returns_applyRule_iff hfiles

/-- A rule with all that can fail and does not: ranges in order, one of them behind the slash of a
negated class, and as many lines as can be counted. -/
def farRule : Rule :=
  ⟨"no logs", .error, .several ["[a-c].\x7bts,js\x7d", "![!0-9]*"], some (.literal "log"),
    0x7FFFFFFFFFFFFFFF⟩

theorem check_returns_far :
    (Session.start.cache.get (fun _ => .done "+log") "HEAD").outcome = .ok "+log" ∧
    (∀ file ∈ ["/r/b.js", "/r/a.ts"], Returns (threeFiles.read (.ofText file))) ∧
    Returns (Session.start.check (fun _ => .done "+log") "HEAD" ⟨threeFiles, some ⟨.root, ["r"]⟩⟩
      [farRule] ["/r/b.js", "/r/a.ts"]).outcome := by
  have hdiff : (Session.start.cache.get (fun _ => .done "+log") "HEAD").outcome = .ok "+log" := rfl
  have hfiles : ∀ file ∈ ["/r/b.js", "/r/a.ts"], Returns (threeFiles.read (.ofText file)) := by
    decide +kernel
  have hglobs : ∀ globs, farRule.files.active? = some globs →
      ∀ glob ∈ globs, Glob.inOrder glob.toList = true := by
    rintro globs ⟨⟩
    decide +kernel
  refine ⟨hdiff, hfiles,
    (check_returns_iff ⟨threeFiles, some ⟨.root, ["r"]⟩⟩ ⟨[farRule], none⟩ hdiff hfiles).2 ?_⟩
  intro rule hrule
  obtain rfl := List.mem_singleton.1 hrule
  exact ⟨fun _ => hglobs, fun _ _ => by decide⟩

/-- A range with its ends in the wrong order, and one line more than can be counted. -/
def backwardRule : Rule := ⟨"no logs", .error, .one "[z-a].ts", some (.literal "log"), 10⟩

def endlessRule : Rule :=
  ⟨"no logs", .error, .one "*.ts", some (.literal "log"), 0x8000000000000000⟩

/-- Rules that are read without complaint and then break a check off. -/
theorem check_breaks_off :
    Returns (threeFiles.read (.ofText "/r/a.ts")) ∧
    ∀ rule ∈ [backwardRule, endlessRule],
      readConfig [("rules", .list [rule.toValue])] none = .ok ⟨[rule], none⟩ ∧
      ¬ Returns (Session.start.check (fun _ => .done "+log") "HEAD"
        ⟨threeFiles, some ⟨.root, ["r"]⟩⟩ [rule] ["/r/a.ts"]).outcome := by
  refine ⟨by decide +kernel, ?_⟩
  intro rule hrule
  obtain rfl | rfl : rule = backwardRule ∨ rule = endlessRule := by simpa using hrule
  · exact ⟨ok_of_toOption (by decide +kernel), by decide +kernel⟩
  · exact ⟨ok_of_toOption (by decide +kernel), by decide +kernel⟩

end CommitRules
