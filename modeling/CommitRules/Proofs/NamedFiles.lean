import CommitRules.Proofs.GlobLanguage
import CommitRules.Proofs.GlobLists
import CommitRules.Proofs.UnusableConfigs

/-!
# CommitRules.Proofs.NamedFiles

The files that a rule is about, as they follow from the entry for `files` that it was read from. A
rule whose entry names files is about those that its globs take in and that are there, unless the
entry is an empty text: this leaves all files in, as if there were no entry.

* `select_iff`: what is chosen from several files, and when choosing returns.
* `IsFiles.inactive_or_gives`: the entries that leave all files in, and those whose globs count.
* `named_files_kept_iff`: when the files that a rule is about are those that its entry names.
-/

namespace CommitRules

open CommitRules.Files

/-! ## Choosing files -/

namespace Files.Tree

variable {tree : Tree} {path : Path}

/-- Whether a path cannot be looked for, since it or a name in it is too long. -/
def TooLong (tree : Tree) (path : Path) : Prop :=
  path.hasNul = false ∧ tree.look path = .error .nameTooLong

theorem returns_exists?_iff : Returns (tree.exists? path) ↔ ¬ tree.TooLong path := by
  constructor
  · rintro ⟨there, h⟩ ⟨hnul, hlook⟩
    rw [exists?_of_tooLong hnul hlook] at h
    cases h
  · intro h
    cases hexists : tree.exists? path with
    | ok there => exact returns_ok there
    | error failure =>
      obtain ⟨hnul, hlook, -⟩ := exists?_eq_error hexists
      exact (h ⟨hnul, hlook⟩).elim

end Files.Tree

namespace Place

variable (place : Place) (files : List String)

/-- The files that are there. -/
def there : List String := files.filter fun file => place.tree.holds (.ofText file)

/-- The files that are there and that globs take in, as they are called from the root. -/
def taken (globs : List String) : List String :=
  files.filter fun file => place.tree.holds (.ofText file) &&
    decide (Glob.takes globs (Path.shownFrom place.root file) = .ok true)

end Place

theorem filter_eq_filter_iff {α : Type} {test other : α → Bool} {items : List α} :
    items.filter test = items.filter other ↔ ∀ item ∈ items, test item = other item := by
  constructor
  · intro h item hitem
    have hmem : item ∈ items.filter test ↔ item ∈ items.filter other := by rw [h]
    simpa only [List.mem_filter, hitem, true_and, ← Bool.eq_iff_iff] using hmem
  · exact List.filter_congr

section Select

variable {place : Place} {rule : Rule} {files kept globs : List String}

theorem select_iff :
    select place.tree rule.files place.root files = .ok kept ↔
      Returns (inScope rule.files place.root files) ∧
        (∀ file ∈ files, place.tree.TooLong (.ofText file) →
          rule.files.admits (Path.shownFrom place.root file) = false) ∧
        rule.covered place files = kept := by
  have hreturns : Returns (select place.tree rule.files place.root files) ↔
      Returns (inScope rule.files place.root files) ∧
        ∀ file ∈ files, place.tree.TooLong (.ofText file) →
          rule.files.admits (Path.shownFrom place.root file) = false := by
    rw [returns_select]
    refine and_congr_right fun _ => forall₂_congr fun file _ => ?_
    rw [Tree.returns_exists?_iff, imp_not_comm, Bool.not_eq_true]
  rw [← and_assoc, ← hreturns]
  constructor
  · intro h
    exact ⟨⟨kept, h⟩, (select_ok h).symm⟩
  · rintro ⟨⟨chosen, h⟩, rfl⟩
    rw [h, select_ok h]

/-- A scope without globs to be applied. -/
theorem select_inactive_iff (h : rule.files.active? = none) :
    select place.tree rule.files place.root files = .ok kept ↔
      (∀ file ∈ files, ¬ place.tree.TooLong (.ofText file)) ∧ place.there files = kept := by
  have hadmits : ∀ name, rule.files.admits name = true := fun name => by
    rw [FileScope.admits, h]
  have hinside : Returns (inScope rule.files place.root files) := by
    rw [inScope, h]
    exact returns_ok files
  have hcovered : rule.covered place files = place.there files :=
    List.filter_congr fun file _ => by rw [Rule.covers, hadmits, Bool.and_true]
  simp only [select_iff, hinside, hcovered, hadmits, Bool.true_eq_false, true_and, imp_false]

theorem select_active_iff (h : rule.files.active? = some globs)
    (hglobs : ∀ glob ∈ globs, Glob.Compiles glob) :
    select place.tree rule.files place.root files = .ok kept ↔
      (∀ file ∈ files, place.tree.TooLong (.ofText file) →
        Glob.takes globs (Path.shownFrom place.root file) = .ok false) ∧
        place.taken files globs = kept := by
  obtain ⟨entries, hentries⟩ : Returns (globs.mapM fun glob => Glob.Entry.ofText glob.toList) :=
    returns_mapM_iff.2 fun glob hglob => Glob.returns_entry_iff.2 (hglobs glob hglob)
  have htakes := Glob.takes_ok hentries
  have hinside : Returns (inScope rule.files place.root files) := by
    rw [inScope, h]
    exact returns_filterM_iff.2 fun file _ => ⟨_, htakes _⟩
  have hadmits : ∀ name, rule.files.admits name = decide (Glob.takes globs name = .ok true) :=
    fun name => by simp only [FileScope.admits, h, htakes, Except.ok.injEq, Bool.decide_eq_true]
  have hcovered : rule.covered place files = place.taken files globs :=
    List.filter_congr fun file _ => by rw [Rule.covers, hadmits]
  simp only [select_iff, hinside, hcovered, true_and, hadmits, htakes, Except.ok.injEq,
    decide_eq_false_iff_not, Bool.not_eq_true]

end Select

/-! ## Entries for files -/

/-- Every rule of a list comes from the table at its place. -/
theorem IsRules.table_of_getElem? {entry : Option Value} {rules : List Rule} {index : Nat}
    {rule : Rule} (h : IsRules entry rules) (hrule : rules[index]? = some rule) :
    ∃ items table, entry = some (.list items) ∧ items[index]? = some (.table table) ∧
      IsRule table rule := by
  cases h with
  | absent => cases hrule
  | null => cases hrule
  | @list items _ hitems =>
    obtain ⟨hlt, hget⟩ := List.getElem?_eq_some_iff.1 hrule
    have hitemlt : index < items.length := hitems.length_eq ▸ hlt
    have hitem : IsItem items[index] rule := hget ▸ hitems.get hitemlt hlt
    generalize hvalue : items[index] = item at hitem
    cases hitem with
    | table htable => exact ⟨items, _, rfl, List.getElem?_eq_some_iff.2 ⟨hitemlt, hvalue⟩, htable⟩

/-- The globs that an entry gives, which is a text or a list of texts. -/
inductive GivesGlobs : Value → List String → Prop where
  | one (glob : String) : GivesGlobs (.text glob) [glob]
  | several (globs : List String) : GivesGlobs (.list (globs.map .text)) globs

theorem GivesGlobs.unique {given : Value} {globs other : List String} (h : GivesGlobs given globs)
    (hother : GivesGlobs given other) : globs = other := by
  cases h with
  | one glob =>
    cases hother
    rfl
  | several globs =>
    generalize hvalue : Value.list (globs.map .text) = given at hother
    cases hother with
    | one glob => cases hvalue
    | several other =>
      exact (List.map_injective_iff.2 fun _ _ => Value.text.inj) (Value.list.inj hvalue)

theorem IsFiles.inactive_or_gives {entry : Option Value} {scope : FileScope}
    (h : IsFiles entry scope) :
    (entry = none ∨ entry = some .null) ∧ scope.active? = none ∨
      ∃ given globs, entry = some given ∧ GivesGlobs given globs ∧
        (given = .text "" ∧ globs = [""] ∧ scope.active? = none ∨
          given ≠ .text "" ∧ scope.active? = some globs) := by
  cases h with
  | absent => exact .inl ⟨.inl rfl, rfl⟩
  | null => exact .inl ⟨.inr rfl, rfl⟩
  | one glob =>
    refine .inr ⟨_, _, rfl, .one glob, ?_⟩
    by_cases hempty : glob = ""
    · subst hempty
      exact .inl ⟨rfl, rfl, rfl⟩
    · refine .inr ⟨mt Value.text.inj hempty, ?_⟩
      simp [FileScope.active?, hempty]
  | several hsome =>
    refine .inr ⟨_, _, rfl, .several _, .inr ⟨nofun, ?_⟩⟩
    simp [FileScope.active?, hsome]

theorem takes_empty_iff {name : String} : Glob.takes [""] name = .ok true ↔ name = "" := by
  have hbrace : '{' ∉ "".toList := by decide
  obtain ⟨taken, htaken, hspells⟩ := Glob.takes_plain hbrace (by decide) rfl name
  rw [htaken, Except.ok.injEq, hspells]
  exact Glob.spells_nil.trans String.toList_eq_nil_iff

/-- An empty text as an entry names all files, or only those that are called by no name. -/
theorem there_eq_taken_empty_iff {place : Place} {files : List String} :
    place.there files = place.taken files [""] ↔
      ∀ file ∈ files, place.tree.holds (.ofText file) = true →
        Path.shownFrom place.root file = "" := by
  rw [Place.there, Place.taken, filter_eq_filter_iff]
  refine forall₂_congr fun file _ => ?_
  rw [eq_comm, Bool.and_eq_left_iff_imp, decide_eq_true_iff, takes_empty_iff]

/-- Every rule of a configuration comes from a table. If that has no entry for `files`, or null, the
rule is about all files that are there, unless one of them is too long to be looked for. If the
entry gives globs that can be compiled, it is about those files that the globs take in and that are
there, unless a file that is too long is left in, or the entry is an empty text and there are files
that are called by some name. -/
theorem named_files_kept_iff {document : Table} {source : Option String} {config : Config}
    {index : Nat} {rule : Rule} (h : readConfig document source = .ok config)
    (hrule : config.rules[index]? = some rule) :
    ∃ items table, document.lookup "rules" = some (.list items) ∧
      items[index]? = some (.table table) ∧
      ((table.lookup "files" = none ∨ table.lookup "files" = some .null) ∧
          (∀ (place : Place) files,
            select place.tree rule.files place.root files = .ok (place.there files) ↔
              ∀ file ∈ files, ¬ place.tree.TooLong (.ofText file)) ∨
        ∃ given globs, table.lookup "files" = some given ∧ GivesGlobs given globs ∧
          ((∀ glob ∈ globs, Glob.Compiles glob) → ∀ (place : Place) files,
            (select place.tree rule.files place.root files = .ok (place.taken files globs) ↔
              (∀ file ∈ files, place.tree.TooLong (.ofText file) → given ≠ .text "" ∧
                Glob.takes globs (Path.shownFrom place.root file) = .ok false) ∧
              (given = .text "" → ∀ file ∈ files, place.tree.holds (.ofText file) = true →
                Path.shownFrom place.root file = "")))) := by
  obtain ⟨-, -, hrules⟩ := readConfig_iff.1 h
  obtain ⟨items, table, hitems, htable, hread⟩ := hrules.table_of_getElem? hrule
  refine ⟨items, table, hitems, htable, ?_⟩
  obtain ⟨hentry, hscope⟩ | ⟨given, globs, hentry, hgives, hscope⟩ := hread.files.inactive_or_gives
  · refine .inl ⟨hentry, fun place files => ?_⟩
    rw [select_inactive_iff hscope, and_iff_left rfl]
  · refine .inr ⟨given, globs, hentry, hgives, fun hglobs place files => ?_⟩
    obtain ⟨rfl, rfl, hscope⟩ | ⟨hgiven, hscope⟩ := hscope
    · rw [select_inactive_iff hscope, there_eq_taken_empty_iff]
      simp only [ne_eq, not_true_eq_false, false_and, imp_false, forall_const]
    · rw [select_active_iff hscope hglobs]
      simp only [hgiven, ne_eq, not_false_eq_true, true_and, false_imp_iff, and_true]

/-- A list that takes a file out again: what is left of it keeps its order and what is repeated. -/
theorem named_files_kept_scripts :
    let rule : Rule := ⟨"no logs", .error, .several ["*.ts", "!c.*"], none, 10⟩
    readConfig [("rules", .list [rule.toValue])] none = .ok ⟨[rule], none⟩ ∧
    select threeFiles rule.files (some ⟨.root, ["r"]⟩)
      ["/r/c.ts", "/r/a.ts", "/r/b.js", "/r/none.ts", "/r/a.ts"] = .ok ["/r/a.ts", "/r/a.ts"] := by
  intro rule
  have hread : readConfig [("rules", .list [rule.toValue])] none = .ok ⟨[rule], none⟩ :=
    ok_of_toOption (by decide +kernel)
  have hglobs : ∀ glob ∈ ["*.ts", "!c.*"],
      ∀ variant ∈ Glob.variants glob, Returns (Glob.compile variant) := by decide +kernel
  have hnames : ∀ file ∈ ["/r/c.ts", "/r/a.ts", "/r/b.js", "/r/none.ts", "/r/a.ts"],
      ¬ threeFiles.TooLong (.ofText file) := by
    unfold Tree.TooLong
    decide +kernel
  have hrule : [rule][0]? = some rule := rfl
  obtain ⟨items, table, hitems, htable, hfiles⟩ := named_files_kept_iff hread hrule
  cases hitems
  cases htable
  obtain ⟨habsent | hnull, -⟩ | ⟨given, globs, hgiven, hgives, hkept⟩ := hfiles
  · cases habsent
  · cases hnull
  · cases hgiven
    obtain rfl := hgives.unique (.several ["*.ts", "!c.*"])
    refine ⟨hread, ((hkept hglobs ⟨threeFiles, some ⟨.root, ["r"]⟩⟩ _).2 ⟨?_, nofun⟩).trans ?_⟩
    · exact fun file hfile hlong => (hnames file hfile hlong).elim
    · decide +kernel

def unnamedRule : Rule := ⟨"no logs", .error, .one "", none, 10⟩

/-- An empty text names neither of two scripts, and the rule is about both. -/
theorem unnamed_files_kept :
    readConfig [("rules", .list [unnamedRule.toValue])] none = .ok ⟨[unnamedRule], none⟩ ∧
    Glob.Compiles "" ∧
    select threeFiles unnamedRule.files (some ⟨.root, ["r"]⟩) ["/r/a.ts", "/r/b.js"] =
      .ok ["/r/a.ts", "/r/b.js"] ∧
    Place.taken ⟨threeFiles, some ⟨.root, ["r"]⟩⟩ ["/r/a.ts", "/r/b.js"] [""] = [] := by
  have hcompiles : ∀ variant ∈ Glob.variants "", Returns (Glob.compile variant) := by
    decide +kernel
  exact ⟨ok_of_toOption (by decide +kernel), hcompiles, ok_of_toOption (by decide +kernel),
    by decide +kernel⟩

end CommitRules
