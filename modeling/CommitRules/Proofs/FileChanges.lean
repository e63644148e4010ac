import CommitRules.Proofs.Places
import CommitRules.Proofs.Presentation

/-!
# CommitRules.Proofs.FileChanges

What commands do to the files there are. Only the command that writes a configuration to start from
changes any: it makes the directories above its file that are missing, and then the file.

* `makeDirectories_made`: making directories adds them, on the way to the last one, and does nothing
  else.
* `writeTemplate_puts`, `runInit_puts`: what one such command does, whether it succeeds or not.
* `commands_keep_files`: what each command of a sequence does to the tree it finds, and what the
  whole sequence does to the tree at its start.
-/

namespace CommitRules.Command

open CommitRules.Files
open CommitRules.Text

/-! ## Directories -/

/-- A tree in which nothing has changed but that directories have been made on the way to a
place. -/
structure MadeWay (place : List String) (before after : Tree) : Prop where
  cwd : after.cwd = before.cwd
  entries : ∀ other, after.entry? other = before.entry? other ∨
    before.entry? other = none ∧ after.entry? other = some .directory ∧ other <+: place

namespace MadeWay

variable {place : List String} {before between after : Tree}

protected theorem refl (place : List String) (tree : Tree) : MadeWay place tree tree :=
  ⟨rfl, fun _ => .inl rfl⟩

protected theorem trans (h : MadeWay place before between) (h' : MadeWay place between after) :
    MadeWay place before after := by
  refine ⟨h'.cwd.trans h.cwd, fun other => ?_⟩
  rcases h'.entries other with hsame | ⟨hnone, hmade, hway⟩
  · rw [hsame]
    exact h.entries other
  · rcases h.entries other with hsame | ⟨_, hbetween, _⟩
    · exact .inr ⟨hsame ▸ hnone, hmade, hway⟩
    · rw [hbetween] at hnone
      cases hnone

/-- The place itself is none of those on the way to the directory it is in. -/
theorem keeps_end (h : MadeWay place.dropLast before after) :
    after.entry? place = before.entry? place := by
  rcases h.entries place with hsame | ⟨hnone, _, hway⟩
  · exact hsame
  · have hlength := hway.length_le
    rw [List.length_dropLast] at hlength
    rw [List.eq_nil_of_length_eq_zero (by omega : place.length = 0)] at hnone
    cases hnone

end MadeWay

theorem madeWay_put {tree : Tree} (h : tree.Sound) {made : List String} {part : String}
    (hmade : tree.entry? made = some .directory) (hnone : tree.entry? (made ++ [part]) = none)
    (rest : List String) :
    MadeWay (made ++ part :: rest) tree (tree.put (made ++ [part]) .directory) := by
  refine ⟨rfl, fun other => ?_⟩
  rw [h.entry?_put hmade]
  split
  · next hother =>
    subst hother
    exact .inr ⟨hnone, rfl, ⟨rest, by simp⟩⟩
  · exact .inl rfl

/-- A directory is passed, made or refused. -/
theorem makeDirectories_cons (tree : Tree) (made : List String) (part : String)
    (rest : List String) :
    tree.look ⟨.root, made ++ [part]⟩ = .ok .directory ∧
        makeDirectories tree made (part :: rest) = makeDirectories tree (made ++ [part]) rest ∨
      tree.look ⟨.root, made ++ [part]⟩ = .error .noEntry ∧
        makeDirectories tree made (part :: rest) =
          makeDirectories (tree.put (made ++ [part]) .directory) (made ++ [part]) rest ∨
      ∃ failure, makeDirectories tree made (part :: rest) = (tree, some failure) := by
  rw [makeDirectories]
  cases tree.look ⟨.root, made ++ [part]⟩ with
  | ok entry =>
    cases entry with
    | directory => exact .inl ⟨rfl, rfl⟩
    | file bytes =>
      refine .inr (.inr ?_)
      cases rest with
      | nil => exact ⟨_, rfl⟩
      | cons next rest => exact ⟨_, rfl⟩
  | error error =>
    cases error with
    | noEntry => exact .inr (.inl ⟨rfl, rfl⟩)
    | notDirectory | isDirectory | alreadyExists | nameTooLong => exact .inr (.inr ⟨_, rfl⟩)

/-- By induction on the parts that are still to be made; what carries it is that the directory above
them is there. -/
theorem makeDirectories_made {tree : Tree} (h : tree.Sound) {made rest : List String}
    (hmade : tree.entry? made = some .directory) (hrest : ∀ part ∈ rest, Tree.IsName part) :
    (makeDirectories tree made rest).1.Sound ∧
      MadeWay (made ++ rest) tree (makeDirectories tree made rest).1 ∧
      ((makeDirectories tree made rest).2 = none →
        Tree.entry? (makeDirectories tree made rest).1 (made ++ rest) = some .directory) := by
  induction rest generalizing tree made with
  | nil =>
    rw [List.append_nil]
    exact ⟨h, .refl made tree, fun _ => hmade⟩
  | cons part rest ih =>
    obtain ⟨hpart, hrest⟩ := List.forall_mem_cons.1 hrest
    have hassoc : made ++ part :: rest = (made ++ [part]) ++ rest := by simp
    obtain ⟨hlook, hnext⟩ | ⟨hlook, hnext⟩ | ⟨failure, hfails⟩ :=
      makeDirectories_cons tree made part rest
    · rw [hnext, hassoc]
      exact ih h (h.entry?_of_look_child hmade hpart.dots hlook) hrest
    · obtain ⟨hnone, hlimit⟩ := h.missing_of_look_child hmade hpart.dots hlook
      have hput : (tree.put (made ++ [part]) .directory).Sound :=
        h.put hmade ⟨hpart, hlimit⟩ fun _ => rfl
      have hthere : Tree.entry? (tree.put (made ++ [part]) .directory) (made ++ [part]) =
          some .directory := by rw [h.entry?_put hmade, if_pos rfl]
      obtain ⟨hsound, hway, hend⟩ := ih hput hthere hrest
      rw [← hassoc] at hway hend
      rw [hnext]
      exact ⟨hsound, (madeWay_put h hmade hnone rest).trans hway, hend⟩
    · rw [hfails]
      exact ⟨h, .refl _ tree, fun he => nomatch he⟩

/-! ## Writing a configuration -/

/-- What is written. -/
def templateBytes : List UInt8 := Utf8.encode configTemplate

/-- What carrying out the command that writes a configuration at a place does: only the directories
above the place are made, and the place changes only if all goes well. Then the file is there and
can be read, and no directory has made room for it. -/
structure Puts (place : List String) (before : Tree) (ending : Ending) : Prop where
  sound : ending.tree.Sound
  cwd : ending.tree.cwd = before.cwd
  others : ∀ other, other ≠ place → ending.tree.entry? other = before.entry? other ∨
    before.entry? other = none ∧ ending.tree.entry? other = some .directory ∧ other <+: place
  written : ending.status = 0 → before.entry? place ≠ some .directory ∧
    ending.tree.entry? place = some (.file templateBytes) ∧
    ending.tree.read ⟨.root, place⟩ = .ok templateBytes
  unwritten : ending.status ≠ 0 → ending.tree.entry? place = before.entry? place

theorem Puts.of_unchanged {place : List String} {before : Tree} {ending : Ending}
    (h : before.Sound) (htree : ending.tree = before) (hstatus : ending.status ≠ 0) :
    Puts place before ending where
  sound := htree ▸ h
  cwd := congrArg Tree.cwd htree
  others := fun other _ => .inl (congrArg (fun tree => tree.entry? other) htree)
  written := fun hzero => absurd hzero hstatus
  unwritten := fun _ => congrArg (fun tree => tree.entry? place) htree

/-- A file that can be looked up by its parts can be read. -/
theorem read_of_entry? {tree : Tree} (h : tree.Sound) {place : List String} {bytes : List UInt8}
    (hentry : tree.entry? place = some (.file bytes))
    (hlength : (Path.text ⟨.root, place⟩).utf8ByteSize < pathLimit) :
    tree.read ⟨.root, place⟩ = .ok bytes := by
  rw [Tree.read, h.hasNul_eq_false hentry, h.look_of_entry? hentry,
    if_neg (Nat.not_le.2 hlength)]
  rfl

/-- The file is not written, or it is added to the tree in which its directories have been made. -/
theorem writeTemplate_cases (world : World) (place : List String) :
    (∃ failure, writeTemplate world ⟨.root, place⟩ =
      { Ending.broken world (.failure failure) with
        tree := (makeDirectories world.tree [] place.dropLast).1 }) ∨
    (makeDirectories world.tree [] place.dropLast).2 = none ∧
      (makeDirectories world.tree [] place.dropLast).1.look ⟨.root, place⟩ ≠ .ok .directory ∧
      (∀ error, (makeDirectories world.tree [] place.dropLast).1.look ⟨.root, place⟩ =
        .error error → error = .noEntry) ∧
      writeTemplate world ⟨.root, place⟩ =
        { Ending.success world ("Wrote starter config: " ++ Path.text ⟨.root, place⟩) with
          tree := (makeDirectories world.tree [] place.dropLast).1.put place
            (.file templateBytes) } := by
  have hparent : Path.parent ⟨.root, place⟩ = ⟨.root, place.dropLast⟩ := rfl
  rw [writeTemplate, hparent]
  split
  · next tree failure hmade =>
    rw [hmade]
    exact .inl ⟨failure, rfl⟩
  · next tree hmade =>
    rw [hmade]
    dsimp only
    cases hlook : tree.look ⟨.root, place⟩ with
    | ok entry =>
      cases entry with
      | directory => exact .inl ⟨_, rfl⟩
      | file bytes => exact .inr ⟨rfl, nofun, nofun, rfl⟩
    | error error =>
      cases error with
      | noEntry => exact .inr ⟨rfl, nofun, fun _ he => by cases he; rfl, rfl⟩
      | notDirectory | isDirectory | alreadyExists | nameTooLong => exact .inl ⟨_, rfl⟩

/-- Where a file can be written: not onto a directory, and under a name that is not too long. -/
theorem place_of_look {tree : Tree} (h : tree.Sound) {above : List String} {part : String}
    (habove : tree.entry? above = some .directory) (hpart : part ≠ "..")
    (hdirectory : tree.look ⟨.root, above ++ [part]⟩ ≠ .ok .directory)
    (herror : ∀ error, tree.look ⟨.root, above ++ [part]⟩ = .error error → error = .noEntry) :
    (Path.text ⟨.root, above ++ [part]⟩).utf8ByteSize < pathLimit ∧
      part.utf8ByteSize ≤ partLimit ∧ tree.entry? (above ++ [part]) ≠ some .directory := by
  rw [h.look_child habove hpart] at hdirectory herror
  split at herror
  · cases herror _ rfl
  · next hlength =>
    split at herror
    · cases herror _ rfl
    · next hlimit =>
      rw [if_neg hlength, if_neg hlimit] at hdirectory
      refine ⟨Nat.lt_of_not_le hlength, Nat.le_of_not_lt hlimit, fun hentry => hdirectory ?_⟩
      rw [hentry]

/-- Once the directories are made, the file is added below the last one. -/
theorem puts_file {before tree : Tree} {above : List String} {part : String} {ending : Ending}
    (h : tree.Sound) (hway : MadeWay (above ++ [part]).dropLast before tree)
    (habove : tree.entry? above = some .directory) (hpart : Tree.IsName part)
    (hdirectory : tree.look ⟨.root, above ++ [part]⟩ ≠ .ok .directory)
    (herror : ∀ error, tree.look ⟨.root, above ++ [part]⟩ = .error error → error = .noEntry)
    (hstatus : ending.status = 0)
    (htree : ending.tree = tree.put (above ++ [part]) (.file templateBytes)) :
    Puts (above ++ [part]) before ending := by
  obtain ⟨hlength, hlimit, hnot⟩ := place_of_look h habove hpart.dots hdirectory herror
  have hput : (tree.put (above ++ [part]) (.file templateBytes)).Sound :=
    h.put habove ⟨hpart, hlimit⟩ fun hentry => absurd hentry hnot
  have hentry : Tree.entry? (tree.put (above ++ [part]) (.file templateBytes)) (above ++ [part]) =
      some (.file templateBytes) := by rw [h.entry?_put habove, if_pos rfl]
  constructor
  · rw [htree]
    exact hput
  · rw [htree]
    exact hway.cwd
  · intro other hother
    rw [htree, h.entry?_put habove, if_neg hother]
    exact (hway.entries other).imp_right fun ⟨hnone, hnew, hmade⟩ =>
      ⟨hnone, hnew, hmade.trans (List.dropLast_prefix _)⟩
  · intro _
    rw [htree]
    exact ⟨hway.keeps_end ▸ hnot, hentry, read_of_entry? hput hentry hlength⟩
  · exact fun hfails => absurd hstatus hfails

theorem writeTemplate_puts {world : World} (h : world.tree.Sound) {place : List String}
    (hplace : ∀ part ∈ place, Tree.IsName part) :
    Puts place world.tree (writeTemplate world ⟨.root, place⟩) ∧
      (writeTemplate world ⟨.root, place⟩).status ≠ 2 := by
  obtain ⟨hsound, hway, hend⟩ := makeDirectories_made h (Tree.root_entry world.tree)
    fun part hpart => hplace part ((List.dropLast_prefix place).subset hpart)
  rw [List.nil_append] at hway hend
  obtain ⟨failure, hfails⟩ | ⟨hmade, hdirectory, herror, hwrites⟩ := writeTemplate_cases world place
  · rw [hfails]
    refine ⟨⟨hsound, hway.cwd, fun other _ => ?_, nofun, fun _ => hway.keeps_end⟩, nofun⟩
    exact (hway.entries other).imp_right fun ⟨hnone, hnew, hother⟩ =>
      ⟨hnone, hnew, hother.trans (List.dropLast_prefix place)⟩
  · rw [hwrites]
    obtain rfl | ⟨above, part, rfl⟩ := List.eq_nil_or_concat' place
    · exact absurd rfl hdirectory
    · have habove := hend hmade
      nth_rewrite 2 [List.dropLast_concat] at habove
      exact ⟨puts_file hsound hway habove (hplace part (by simp)) hdirectory herror rfl rfl, nofun⟩

/-- What the command does at a place. It refuses to write where something stands unless it is forced
to, and then it leaves the tree as it was. -/
structure Inits (place : List String) (force : Bool) (before : Tree) (ending : Ending) : Prop
    extends Puts place before ending where
  refuses : ending.status = 2 ↔ force = false ∧ before.exists? ⟨.root, place⟩ = .ok true
  refused : ending.status = 2 → ending.tree = before
  kept : force = false → before.entry? place ≠ none → ending.tree = before

theorem exists?_ne_false {tree : Tree} (h : tree.Sound) {place : List String}
    (hthere : tree.entry? place ≠ none) : tree.exists? ⟨.root, place⟩ ≠ .ok false := by
  obtain ⟨entry, hentry⟩ := Option.ne_none_iff_exists'.1 hthere
  rw [Tree.exists?, h.hasNul_eq_false hentry, h.look_of_entry? hentry]
  by_cases hlength : pathLimit ≤ (Path.text ⟨.root, place⟩).utf8ByteSize
  · rw [if_pos hlength]
    simp
  · rw [if_neg hlength]
    simp

theorem runInit_inits (world : World) (h : world.tree.Sound) {out : Path} {place : List String}
    (hout : out.resolve world.tree.cwd = ⟨.root, place⟩)
    (hplace : ∀ part ∈ place, Tree.IsName part) (force : Bool) :
    Inits place force world.tree (runInit world out force) := by
  obtain ⟨hputs, hstatus⟩ := writeTemplate_puts h hplace
  rw [runInit, hout]
  cases hfound : world.tree.exists? ⟨.root, place⟩ with
  | error failure =>
    refine ⟨.of_unchanged h rfl nofun, iff_of_false nofun ?_, fun _ => rfl, fun _ _ => rfl⟩
    rw [hfound]
    nofun
  | ok found =>
    cases force with
    | true =>
      dsimp only
      rw [Bool.not_true, Bool.and_false, if_neg Bool.false_ne_true]
      exact ⟨hputs, iff_of_false hstatus nofun, fun h2 => absurd h2 hstatus, nofun⟩
    | false =>
      cases found with
      | true =>
        exact ⟨.of_unchanged h rfl nofun, iff_of_true rfl ⟨rfl, hfound⟩, fun _ => rfl,
          fun _ _ => rfl⟩
      | false =>
        refine ⟨hputs, iff_of_false hstatus ?_, fun h2 => absurd h2 hstatus, fun _ hthere => ?_⟩
        · rw [hfound]
          nofun
        · exact absurd hfound (exists?_ne_false h hthere)

/-! ## Command lines -/

theorem readCommand_out {command : CommandName} {rest : List String} {out : Path} {force : Bool}
    (h : readCommand command rest = .ok (.initConfig out force)) :
    ∃ text, out = Path.ofText text ∧ Char.ofNat 0 ∉ text.toList := by
  rw [readCommand] at h
  split at h
  · cases h
  · next arguments _ =>
    split at h
    · cases h
    · split at h
      · cases h
      · next hbad =>
        split at h
        · cases h
        · cases command with
          | check | config | configValidate => cases h
          | configInit =>
            cases h
            refine ⟨_, rfl, ?_⟩
            cases hvalue : arguments.value? "--out" with
            | none => decide
            | some value => simpa [hasBadPath, CommandName.pathOptions, hvalue] using hbad

theorem readRequest_out {line : List String} {out : Path} {force : Bool}
    (h : readRequest line = .ok (.initConfig out force)) :
    ∃ text, out = Path.ofText text ∧ Char.ofNat 0 ∉ text.toList := by
  rw [readRequest] at h
  split at h
  · cases h
  · split at h
    · cases h
    · split at h
      · cases h
      · split at h
        · cases h
        · split at h
          · cases h
          · split at h
            · exact readCommand_out h
            · split at h
              · cases h
              · cases h

/-- A path that is given on a command line means a place where a file can be. -/
theorem isName_of_mem_resolve {tree : Tree} (h : tree.Sound) {text part : String}
    (hnul : Char.ofNat 0 ∉ text.toList)
    (hpart : part ∈ ((Path.ofText text).resolve tree.cwd).parts) : Tree.IsName part := by
  obtain ⟨hpart, hdots⟩ := Path.mem_resolveDots hpart
  have hgiven : part ∈ (Path.ofText text).parts → Tree.IsName part := by
    intro hmem
    obtain ⟨hnonempty, hdot, hslash⟩ := Path.clean_ofText text part hmem
    refine ⟨hnonempty, hdot, hdots, hslash, fun hchar => hnul ?_⟩
    rw [← List.count_pos_iff, ← Path.count_parts (by decide) (by decide), List.count_pos_iff]
    exact List.mem_flatMap.2 ⟨part, hmem, hchar⟩
  split at hpart
  · exact hgiven hpart
  · rcases List.mem_append.1 hpart with hmem | hmem
    · exact (h.named h.here part hmem).1
    · exact hgiven hmem

/-! ## Sequences of commands -/

/-- A command line, and the git and the time it is carried out with. -/
structure Call where
  line : List String
  git : Git.Tool
  now : Moment

namespace Call

def run (call : Call) (tree : Tree) : Ending := runLine ⟨tree, call.git, call.now⟩ call.line

/-- The place of the file that a command line asks to write, and whether to force it. -/
def target? (call : Call) (cwd : List String) : Option (List String × Bool) :=
  match readRequest call.line with
  | .ok (.initConfig out force) => some ((out.resolve cwd).parts, force)
  | _ => none

/-- What a command does to the tree it finds: nothing, unless it asks to write a file. -/
def Keeps (call : Call) (tree : Tree) : Prop :=
  match call.target? tree.cwd with
  | none => (call.run tree).tree = tree
  | some (place, force) => Inits place force tree (call.run tree)

end Call

/-- The tree that commands leave, one after the other. -/
def treeAfter (tree : Tree) (calls : List Call) : Tree :=
  calls.foldl (fun tree call => (call.run tree).tree) tree

theorem treeAfter_concat (tree : Tree) (calls : List Call) (call : Call) :
    treeAfter tree (calls ++ [call]) = (call.run (treeAfter tree calls)).tree := by
  simp [treeAfter]

theorem withConfig_tree {world : World} {repo : Path} {format : String} {config : Option Path}
    {carryOut : Format → Config → Ending}
    (h : ∀ format config, (carryOut format config).tree = world.tree) :
    (withConfig world repo format config carryOut).tree = world.tree := by
  unfold withConfig
  split
  · rfl
  · split
    · rfl
    · exact h _ _

theorem runShow_tree (world : World) (format : Format) (config : Config) :
    (runShow world format config).tree = world.tree := by
  cases format <;> rfl

theorem runValidate_tree (world : World) (format : Format) (config : Config) :
    (runValidate world format config).tree = world.tree := by
  cases format <;> rfl

theorem execute_tree {world : World} {request : Request}
    (h : ∀ out force, request ≠ .initConfig out force) :
    (execute world request).tree = world.tree := by
  cases request with
  | help | version => rfl
  | check commit repo format config verbose =>
    exact withConfig_tree fun format config => congrArg Ending.tree (runCheck_eq ..)
  | showConfig repo format config => exact withConfig_tree (runShow_tree world)
  | initConfig out force => exact absurd rfl (h out force)
  | validateConfig repo format config => exact withConfig_tree (runValidate_tree world)

theorem call_keeps {tree : Tree} (h : tree.Sound) (call : Call) : call.Keeps tree := by
  unfold Call.Keeps Call.target? Call.run runLine
  cases hread : readRequest call.line with
  | error problem => rfl
  | ok request =>
    cases request with
    | initConfig out force =>
      obtain ⟨text, rfl, hnul⟩ := readRequest_out hread
      have hplace : ∀ part ∈ ((Path.ofText text).resolve tree.cwd).parts, Tree.IsName part :=
        fun part => isName_of_mem_resolve h hnul
      exact runInit_inits ⟨tree, call.git, call.now⟩ h rfl hplace force
    | help | version => rfl
    | check | showConfig | validateConfig => exact execute_tree nofun

/-- What holds of a sequence of commands. -/
structure KeepFiles (tree : Tree) (calls : List Call) : Prop where
  sound : (treeAfter tree calls).Sound
  cwd : (treeAfter tree calls).cwd = tree.cwd
  /-- Each command, in the tree that those before it have left. -/
  each : ∀ {earlier call later}, calls = earlier ++ call :: later →
    call.Keeps (treeAfter tree earlier)
  /-- What is there at the start stays, unless it is a file and is overwritten by force. -/
  stays : ∀ {place entry}, tree.entry? place = some entry →
    (∀ call ∈ calls, call.target? tree.cwd = some (place, true) → entry = .directory) →
    Tree.entry? (treeAfter tree calls) place = some entry
  /-- Every file at the end was there at the start, or was written where a command asked for it. -/
  files : ∀ {place bytes}, Tree.entry? (treeAfter tree calls) place = some (.file bytes) →
    tree.entry? place = some (.file bytes) ∨
      bytes = templateBytes ∧ ∃ call ∈ calls, ∃ force, call.target? tree.cwd = some (place, force)

theorem Call.Keeps.sound {call : Call} {tree : Tree} (h : tree.Sound) (hcall : call.Keeps tree) :
    (call.run tree).tree.Sound ∧ (call.run tree).tree.cwd = tree.cwd := by
  unfold Call.Keeps at hcall
  split at hcall
  · rw [hcall]
    exact ⟨h, rfl⟩
  · exact ⟨hcall.sound, hcall.cwd⟩

/-- Nothing is lost in one step, except to force. -/
theorem Call.Keeps.stays {call : Call} {tree : Tree} {place : List String} {entry : Entry}
    (hcall : call.Keeps tree) (hentry : tree.entry? place = some entry)
    (hforced : call.target? tree.cwd = some (place, true) → entry = .directory) :
    (call.run tree).tree.entry? place = some entry := by
  unfold Call.Keeps at hcall
  split at hcall
  · rw [hcall, hentry]
  · next other force htarget =>
    by_cases hother : place = other
    · subst hother
      cases force with
      | false => rw [hcall.kept rfl (by rw [hentry]; nofun), hentry]
      | true =>
        cases hforced htarget
        rw [hcall.unwritten fun hstatus => (hcall.written hstatus).1 hentry, hentry]
    · rcases hcall.others place hother with hsame | ⟨hnone, _⟩
      · rw [hsame, hentry]
      · rw [hentry] at hnone
        cases hnone

/-- Nothing is added in one step, except where it is asked for. -/
theorem Call.Keeps.files {call : Call} {tree : Tree} {place : List String} {bytes : List UInt8}
    (hcall : call.Keeps tree)
    (hentry : (call.run tree).tree.entry? place = some (.file bytes)) :
    tree.entry? place = some (.file bytes) ∨
      bytes = templateBytes ∧ ∃ force, call.target? tree.cwd = some (place, force) := by
  unfold Call.Keeps at hcall
  split at hcall
  · rw [hcall] at hentry
    exact .inl hentry
  · next other force htarget =>
    by_cases hother : place = other
    · subst hother
      by_cases hstatus : (call.run tree).status = 0
      · have hwritten := hcall.written hstatus
        rw [hwritten.2.1] at hentry
        cases hentry
        exact .inr ⟨rfl, force, htarget⟩
      · rw [hcall.unwritten hstatus] at hentry
        exact .inl hentry
    · rcases hcall.others place hother with hsame | ⟨_, hnew, _⟩
      · rw [hsame] at hentry
        exact .inl hentry
      · rw [hnew] at hentry
        cases hentry

/-- In every sequence of commands each does to the tree that it finds what it may do, and so the
sequence loses no file and adds none but those it is asked for. By induction from the last command
back; the tree before it is sound. -/
theorem commands_keep_files {tree : Tree} (h : tree.Sound) (calls : List Call) :
    KeepFiles tree calls := by
  induction calls using List.reverseRecOn with
  | nil =>
    exact ⟨h, rfl, fun hcalls => by simp at hcalls, fun hentry _ => hentry, .inl⟩
  | append_singleton calls call ih =>
    have hkeeps := call_keeps ih.sound call
    have hnext := hkeeps.sound ih.sound
    have hafter := treeAfter_concat tree calls call
    refine ⟨hafter ▸ hnext.1, ?_, ?_, ?_, ?_⟩
    · rw [hafter, hnext.2, ih.cwd]
    · intro earlier last later hcalls
      obtain rfl | ⟨more, final, rfl⟩ := List.eq_nil_or_concat' later
      · obtain ⟨rfl, hlast⟩ := List.append_inj' hcalls rfl
        cases hlast
        exact hkeeps
      · rw [← List.cons_append, ← List.append_assoc] at hcalls
        exact ih.each (List.append_inj' hcalls rfl).1
    · intro place entry hentry hforced
      rw [hafter]
      refine hkeeps.stays (ih.stays hentry fun other hother => hforced other ?_) ?_
      · exact List.mem_append_left _ hother
      · rw [ih.cwd]
        exact hforced call (by simp)
    · intro place bytes hentry
      rw [hafter] at hentry
      rcases hkeeps.files hentry with hbefore | ⟨hbytes, force, htarget⟩
      · exact (ih.files hbefore).imp_right fun ⟨hbytes, other, hother, hforce⟩ =>
          ⟨hbytes, other, List.mem_append_left _ hother, hforce⟩
      · rw [ih.cwd] at htarget
        exact .inr ⟨hbytes, call, by simp, force, htarget⟩

/-- A check, a configuration that is there already, and another one written twice, below a directory
that is made and then by force. -/
def scriptCalls : List Call :=
  [["check", "--repo", "r"], ["config-init", "--out", "r/x/../scanva.toml"],
    ["config-init", "--out", "r/new/scanva.toml"],
    ["config-init", "--out", "r/new/scanva.toml", "--force"]].map
      fun line => ⟨line, scriptWorld.git, scriptWorld.now⟩

theorem commands_keep_files_script :
    scriptWorld.tree.Sound ∧ KeepFiles scriptWorld.tree scriptCalls ∧
    Tree.entry? (treeAfter scriptWorld.tree scriptCalls) ["r", "scanva.toml"] =
      scriptWorld.tree.entry? ["r", "scanva.toml"] := by
  have hsound : scriptWorld.tree.Sound :=
    Tree.sound_of_entries (by decide +kernel) (by decide +kernel) (by decide +kernel)
  have hkeeps := commands_keep_files hsound scriptCalls
  have hunforced : ∀ call ∈ scriptCalls, call.target? [] ≠ some (["r", "scanva.toml"], true) := by
    decide +kernel
  obtain ⟨entry, hentry⟩ : ∃ entry, scriptWorld.tree.entry? ["r", "scanva.toml"] = some entry :=
    ⟨_, rfl⟩
  refine ⟨hsound, hkeeps, ?_⟩
  rw [hentry]
  exact hkeeps.stays hentry fun call hcall hforced => absurd hforced (hunforced call hcall)

end CommitRules.Command
