import CommitRules.Proofs.Encoding
import CommitRules.Proofs.Evaluation
import CommitRules.Proofs.Git
import CommitRules.Proofs.Paths

/-!
# CommitRules.Proofs.Names

What becomes of the root directory and of the names of the files that git prints. The names come
apart at the NULs behind them, so nothing in a name can be taken for its end; but carriage returns
are read as line feeds, and the white space at the end of the root is taken off.

* `count_parts`: the parts of a path hold every character of its text but slashes and single dots.
* `root_of_printed`, `files_of_printed`: the root and the files, from what git prints.
* `names_arrive_iff`: when both are what git has printed.
-/

namespace CommitRules

open CommitRules.Files
open CommitRules.Text

/-! ## Line ends -/

theorem unifyNewlines_of_not_mem {text : List Char} (h : '\r' ∉ text) :
    unifyNewlines text = text := by
  fun_induction unifyNewlines text with
  | case1 => rfl
  | case2 rest ih => exact absurd List.mem_cons_self h
  | case3 rest _ ih => exact absurd List.mem_cons_self h
  | case4 c rest _ _ ih => rw [ih fun hr => h (List.mem_cons_of_mem c hr)]

theorem unifyNewlines_eq_nil {text : List Char} (h : unifyNewlines text = []) : text = [] := by
  fun_cases unifyNewlines text with
  | case1 => rfl
  | case2 | case3 | case4 => simp [unifyNewlines] at h

theorem mem_of_mem_unifyNewlines {text : List Char} {c : Char} (hc : c ≠ '\n')
    (h : c ∈ unifyNewlines text) : c ∈ text := by
  fun_induction unifyNewlines text with
  | case1 => exact h
  | case2 rest ih =>
    have hrest := (List.mem_cons.1 h).resolve_left hc
    exact List.mem_cons_of_mem _ (List.mem_cons_of_mem _ (ih hrest))
  | case3 rest _ ih => exact List.mem_cons_of_mem _ (ih ((List.mem_cons.1 h).resolve_left hc))
  | case4 d rest _ _ ih =>
    rcases List.mem_cons.1 h with rfl | h
    · exact List.mem_cons_self
    · exact List.mem_cons_of_mem d (ih h)

theorem unifyNewlines_cons {c : Char} (hreturn : c ≠ '\r') (rest : List Char) :
    unifyNewlines (c :: rest) = c :: unifyNewlines rest := by
  rw [unifyNewlines]
  · exact fun _ h _ => hreturn h
  · exact hreturn

/-- What stands behind a character that is no part of a line end is read on its own. -/
theorem unifyNewlines_append {c : Char} (hfeed : c ≠ '\n') (hreturn : c ≠ '\r')
    (first second : List Char) :
    unifyNewlines (first ++ c :: second) = unifyNewlines first ++ c :: unifyNewlines second := by
  fun_induction unifyNewlines first with
  | case1 => exact unifyNewlines_cons hreturn second
  | case2 rest ih =>
    simp only [List.cons_append, unifyNewlines, ih]
  | case3 rest hrest ih =>
    have hnext : ∀ more, rest ++ c :: second = '\n' :: more → False := by
      intro more h
      cases rest with
      | nil => exact hfeed (List.cons.inj h).1
      | cons d rest => exact hrest rest (by rw [(List.cons.inj h).1])
    rw [List.cons_append, unifyNewlines, ih]
    · rfl
    · exact hnext
  | case4 d rest hpair hd ih =>
    rw [List.cons_append, unifyNewlines_cons (fun h => hd h), ih]
    rfl

theorem head?_unifyNewlines (text : List Char) :
    (unifyNewlines text).head? = some '/' ↔ text.head? = some '/' := by
  fun_cases unifyNewlines text with
  | case1 => rfl
  | case2 | case3 | case4 => simp

/-! ## White space at the end -/

theorem stripChars_blank {c : Char} (h : isBlank c = true) (text : List Char) :
    stripChars (text ++ [c]) = stripChars text := by
  unfold stripChars
  rw [List.dropWhile_append]
  cases hrest : text.dropWhile isBlank with
  | nil => simp [h]
  | cons d rest => simp [h]

theorem stripChars_of_ends {text : List Char} (hfirst : ∀ c ∈ text.head?, isBlank c = false)
    (hlast : ∀ c ∈ text.getLast?, isBlank c = false) : stripChars text = text := by
  have hkeep : ∀ {chars : List Char}, (∀ c ∈ chars.head?, isBlank c = false) →
      chars.dropWhile isBlank = chars := by
    intro chars h
    cases chars with
    | nil => rfl
    | cons c rest =>
      rw [List.dropWhile_cons, h c rfl]
      rfl
  rw [stripChars, hkeep hfirst, hkeep, List.reverse_reverse]
  rwa [List.head?_reverse]

theorem stripChars_sublist (text : List Char) : (stripChars text).Sublist text := by
  have hfront : (text.dropWhile isBlank).Sublist text := List.dropWhile_sublist _
  have hback := List.dropWhile_sublist isBlank (l := (text.dropWhile isBlank).reverse)
  have hboth := List.reverse_sublist.2 hback
  rw [List.reverse_reverse] at hboth
  exact hboth.trans hfront

/-! ## The characters of a path -/

theorem flatten_splitAt (mark : Char) (text : List Char) :
    (splitAt mark text).flatten = text.filter (· ≠ mark) := by
  induction text with
  | nil => rfl
  | cons c rest ih =>
    rw [splitAt]
    by_cases hc : c = mark
    · rw [if_pos hc, List.flatten_cons, ih]
      simp [hc]
    · rw [if_neg hc]
      split
      · next hs => exact absurd hs (splitAt_ne_nil mark rest)
      · next piece pieces hs =>
        rw [hs] at ih
        rw [List.filter_cons_of_pos (by simpa using hc), ← ih]
        rfl

namespace Files.Path

theorem count_parts {c : Char} (hslash : c ≠ '/') (hdot : c ≠ '.') (text : String) :
    ((ofText text).parts.flatMap String.toList).count c = text.toList.count c := by
  have hkept : ∀ pieces : List (List Char),
      ((pieces.filter fun part => !part.isEmpty && part != ['.']).flatten).count c =
        pieces.flatten.count c := by
    intro pieces
    induction pieces with
    | nil => rfl
    | cons piece pieces ih =>
      rw [List.filter_cons, List.flatten_cons, List.count_append]
      split
      · rw [List.flatten_cons, List.count_append, ih]
      · next hdropped =>
        have hpiece : piece = [] ∨ piece = ['.'] := by
          simpa [Classical.or_iff_not_imp_left] using hdropped
        have hnone : piece.count c = 0 := by
          rcases hpiece with rfl | rfl
          · rfl
          · simp [Ne.symm hdot]
        rw [ih, hnone, Nat.zero_add]
  have hparts : (ofText text).parts.flatMap String.toList =
      ((splitAt '/' text.toList).filter fun part => !part.isEmpty && part != ['.']).flatten := by
    simp [ofText, partsOf, List.flatMap_def]
  rw [hparts, hkept, flatten_splitAt, List.count_filter (by simpa using hslash)]

theorem isAbsolute_ofText (text : String) :
    (ofText text).isAbsolute = true ↔ text.toList.head? = some '/' := by
  have hanchor : (ofText text).isAbsolute = true ↔ anchorOf text.toList ≠ .relative :=
    decide_eq_true_iff
  rw [hanchor]
  unfold anchorOf
  split
  · simp_all
  · simp_all
  · simp_all
  · next hother =>
    refine iff_of_false (fun h => h rfl) fun h => ?_
    obtain ⟨rest, hrest⟩ := List.head?_eq_some_iff.1 h
    exact hother rest hrest

theorem join_parts_inj {base path other : Path} (h : base.join path = base.join other)
    (hsame : path.isAbsolute = other.isAbsolute) : path.parts = other.parts := by
  unfold join at h
  rw [hsame] at h
  split at h
  · rw [h]
  · injection h with _ hparts
    exact List.append_cancel_left hparts

end Files.Path

/-! ## What git prints -/

namespace Git

/-- Git prints a text and ends well, whatever it writes beside it. -/
def Prints (answer : List String → Reply) (arguments : List String) (text : String) : Prop :=
  ∃ complaint, answer arguments = ⟨Utf8.encode text, Utf8.encode complaint, 0⟩

/-- Git can be started in a directory. -/
structure Starts (tree : Tree) (repo : Path) : Prop where
  noNul : repo.hasNul = false
  there : startFailure? tree repo = none

/-- How a printed text is read. -/
def readBack (text : String) : String := String.ofList (unifyNewlines text.toList)

variable {answer : List String → Reply} {tree : Tree} {repo : Path} {commit : String}

theorem streamText_encode (text : String) :
    streamText (Utf8.encode text) = .ok (readBack text) := by
  rw [streamText, Utf8.decodeChars_encode]
  rfl

/-- A question is put to git, if there is git. -/
theorem call_of_starts {tool : Tool} {arguments : List String} (hstart : Starts tree repo)
    (harguments : ∀ argument ∈ arguments, Char.ofNat 0 ∉ argument.toList) :
    call tool tree repo arguments =
      match tool with
      | none => .ofExcept (.error (notFound (quoted "git")))
      | some answer => ⟨[.asked arguments], replyText arguments (answer arguments)⟩ := by
  have hnul : ¬ (repo.hasNul || arguments.any (·.toList.contains (Char.ofNat 0))) = true := by
    simpa [hstart.noNul] using harguments
  unfold call
  rw [if_neg hnul, hstart.there]
  cases tool <;> rfl

theorem call_of_printed {arguments : List String} {text : String} (hstart : Starts tree repo)
    (harguments : ∀ argument ∈ arguments, Char.ofNat 0 ∉ argument.toList)
    (hprints : Prints answer arguments text) :
    (call (some answer) tree repo arguments).outcome = .ok (readBack text) := by
  obtain ⟨complaint, hreply⟩ := hprints
  rw [call_of_starts hstart harguments]
  dsimp only
  rw [hreply, replyText, streamText_encode, streamText_encode]
  rfl

/-- The root is what git prints without the line end behind it. -/
theorem root_of_printed {text : String} (hstart : Starts tree repo)
    (hprints : Prints answer ["rev-parse", "--show-toplevel"] text) :
    (root (some answer) tree repo).outcome =
      if (strip (readBack text)).isEmpty then .error (.git "Could not determine git root directory")
      else .ok (.ofText (strip (readBack text))) := by
  have hcall := call_of_printed hstart (by decide) hprints
  rw [root, Run.bind_of_ok hcall]
  dsimp only
  split <;> rfl

theorem readBack_of_not_mem {text : String} (h : '\r' ∉ text.toList) : readBack text = text := by
  rw [readBack, unifyNewlines_of_not_mem h, String.ofList_toList]

theorem not_mem_readBack (text : String) : '\r' ∉ (readBack text).toList := by
  rw [readBack, String.toList_ofList]
  exact not_mem_unifyNewlines text.toList

theorem strip_printed {text : String} (hreturn : '\r' ∉ text.toList) :
    strip (readBack (text ++ "\n")) = String.ofList (stripChars text.toList) := by
  have hline : '\r' ∉ (text ++ "\n").toList := by simpa using hreturn
  have hend : "\n".toList = ['\n'] := rfl
  rw [readBack_of_not_mem hline, strip, String.toList_append, hend, stripChars_blank (by decide)]

theorem ne_of_blank {c : Char} (h : isBlank c = true) : c ≠ '/' ∧ c ≠ '.' := by
  refine ⟨?_, ?_⟩ <;> rintro rfl <;> exact absurd h (by decide)

theorem root_arrives_iff {text : String} (hstart : Starts tree repo)
    (habsolute : (Path.ofText text).isAbsolute = true)
    (hprints : Prints answer ["rev-parse", "--show-toplevel"] (text ++ "\n")) :
    (root (some answer) tree repo).outcome = .ok (.ofText text) ↔
      '\r' ∉ text.toList ∧ ∀ c ∈ text.toList.getLast?, isBlank c = false := by
  have hroot := root_of_printed hstart hprints
  constructor
  · intro h
    rw [h] at hroot
    have hpath : Path.ofText text = .ofText (strip (readBack (text ++ "\n"))) := by
      split at hroot
      · cases hroot
      · exact Except.ok.inj hroot
    have hcount : ∀ {c : Char}, c ≠ '/' → c ≠ '.' →
        text.toList.count c = (strip (readBack (text ++ "\n"))).toList.count c := by
      intro c hslash hdot
      rw [← Path.count_parts hslash hdot, hpath, Path.count_parts hslash hdot]
    have hreturn : '\r' ∉ text.toList := by
      rw [← List.count_eq_zero, hcount (by decide) (by decide), List.count_eq_zero, strip,
        String.toList_ofList]
      exact fun hmem => not_mem_readBack _ ((stripChars_sublist _).subset hmem)
    refine ⟨hreturn, fun c hc => ?_⟩
    rw [← Bool.not_eq_true]
    intro hblank
    obtain ⟨hslash, hdot⟩ := ne_of_blank hblank
    obtain ⟨front, hfront⟩ := List.getLast?_eq_some_iff.1 hc
    -- the white space that is taken off is missing from the parts
    have hless := (stripChars_sublist front).count_le c
    have hsame := hcount hslash hdot
    rw [strip_printed hreturn, String.toList_ofList, hfront, stripChars_blank hblank,
      List.count_append, List.count_singleton_self] at hsame
    omega
  · rintro ⟨hreturn, hlast⟩
    obtain ⟨rest, hrest⟩ := List.head?_eq_some_iff.1 ((Path.isAbsolute_ofText text).1 habsolute)
    have hfirst : ∀ c ∈ text.toList.head?, isBlank c = false := by
      rw [hrest]
      rintro c ⟨⟩
      decide
    have hstrip : strip (readBack (text ++ "\n")) = text := by
      rw [strip_printed hreturn, stripChars_of_ends hfirst hlast, String.ofList_toList]
    have hne : ¬ text.isEmpty = true := by
      rw [String.isEmpty_iff]
      rintro rfl
      cases hrest
    rw [hroot, hstrip, if_neg hne]

/-- A name is found below the root as it was printed unless it holds a carriage return. -/
theorem join_readBack_iff {found : Path} (hfound : found.Clean) (name : String) :
    (found.join (.ofText (readBack name))).text = (found.join (.ofText name)).text ↔
      '\r' ∉ name.toList := by
  constructor
  · intro h
    have hpaths : found.join (.ofText (readBack name)) = found.join (.ofText name) := by
      rw [← Path.ofText_text (hfound.join (Path.clean_ofText (readBack name))), h,
        Path.ofText_text (hfound.join (Path.clean_ofText name))]
    have habsolute : (Path.ofText (readBack name)).isAbsolute = (Path.ofText name).isAbsolute := by
      rw [Bool.eq_iff_iff, Path.isAbsolute_ofText, Path.isAbsolute_ofText, readBack,
        String.toList_ofList, head?_unifyNewlines]
    have hparts := Path.join_parts_inj hpaths habsolute
    have hnone := List.count_eq_zero.2 (not_mem_readBack name)
    rw [← List.count_eq_zero, ← Path.count_parts (by decide) (by decide), ← hparts,
      Path.count_parts (by decide) (by decide), hnone]
  · intro h
    rw [readBack_of_not_mem h]

theorem readBack_names {names : List String} (h : ∀ name ∈ names, Char.ofNat 0 ∉ name.toList) :
    splitAt (Char.ofNat 0) (readBack (String.join (names.map (· ++ "\x00")))).toList =
      names.map (fun name => unifyNewlines name.toList) ++ [[]] := by
  induction names with
  | nil => rfl
  | cons name names ih =>
    obtain ⟨hname, hnames⟩ := List.forall_mem_cons.1 h
    have hjoin : (String.join ((name :: names).map (· ++ "\x00"))).toList =
        name.toList ++ Char.ofNat 0 :: (String.join (names.map (· ++ "\x00"))).toList := by
      simp [String.join_cons]
    have hread : Char.ofNat 0 ∉ unifyNewlines name.toList :=
      fun hmem => hname (mem_of_mem_unifyNewlines (by decide) hmem)
    have ih := ih hnames
    rw [readBack, String.toList_ofList] at ih ⊢
    rw [hjoin, unifyNewlines_append (by decide) (by decide), splitAt_append hread, ih]
    rfl

theorem namesOf_printed {names : List String}
    (h : ∀ name ∈ names, name ≠ "" ∧ Char.ofNat 0 ∉ name.toList) :
    namesOf (readBack (String.join (names.map (· ++ "\x00")))) = names.map readBack := by
  have hkept : ∀ piece ∈ names.map (fun name => unifyNewlines name.toList),
      (!piece.isEmpty) = true := by
    intro piece hpiece
    obtain ⟨name, hname, rfl⟩ := List.mem_map.1 hpiece
    have hne : name.toList ≠ [] := fun he => (h name hname).1 (String.toList_inj.1 he)
    simpa using fun he => hne (unifyNewlines_eq_nil he)
  rw [namesOf, readBack_names fun name hname => (h name hname).2, List.filter_append,
    List.filter_eq_self.2 hkept]
  simp [readBack, Function.comp_def]

/-- Git prints an absolute root and a line end, and names that are not empty and hold no NUL, with a
NUL behind each of them. The root and the files below it are what git has printed if and only if
there is no carriage return in them and no white space at the end of the root. -/
theorem names_arrive_iff {text : String} {names : List String} (hstart : Starts tree repo)
    (hcommit : Char.ofNat 0 ∉ commit.toList) (habsolute : (Path.ofText text).isAbsolute = true)
    (hnames : ∀ name ∈ names, name ≠ "" ∧ Char.ofNat 0 ∉ name.toList)
    (hroot : Prints answer ["rev-parse", "--show-toplevel"] (text ++ "\n"))
    (hlist : Prints answer ["diff-tree", "-z", "--no-commit-id", "--name-only", "-r", commit]
      (String.join (names.map (· ++ "\x00")))) :
    ((root (some answer) tree repo).outcome = .ok (.ofText text) ∧
      (files (some answer) tree repo commit).outcome =
        .ok (names.map fun name => ((Path.ofText text).join (.ofText name)).text)) ↔
      ('\r' ∉ text.toList ∧ ∀ c ∈ text.toList.getLast?, isBlank c = false) ∧
        ∀ name ∈ names, '\r' ∉ name.toList := by
  rw [root_arrives_iff hstart habsolute hroot]
  refine and_congr_right fun hends => ?_
  have hfound := (root_arrives_iff hstart habsolute hroot).2 hends
  have hcall := call_of_printed hstart (by simpa using hcommit) hlist
  rw [files_of_root hfound hcall, namesOf_printed hnames, List.map_map, Except.ok.injEq,
    List.map_inj_left]
  refine forall₂_congr fun name _ => ?_
  rw [Function.comp_apply, join_readBack_iff (Path.clean_ofText text) name]

/-- A git that prints a root and names. -/
def printing (root names : String) (arguments : List String) : Reply :=
  ⟨Utf8.encode (if arguments.head? = some "rev-parse" then root else names), Utf8.encode "", 0⟩

theorem names_arrive_unusual :
    Starts threeFiles ⟨.root, ["r"]⟩ ∧ Char.ofNat 0 ∉ "HEAD".toList ∧
    (Path.ofText "//a b\n/./ü").isAbsolute = true ∧
    (∀ name ∈ ["x\ty/ z.ts ", "\n"], name ≠ "" ∧ Char.ofNat 0 ∉ name.toList) ∧
    (root (some (printing "//a b\n/./ü\n" "x\ty/ z.ts \x00\n\x00")) threeFiles
      ⟨.root, ["r"]⟩).outcome = .ok ⟨.doubleRoot, ["a b\n", "ü"]⟩ ∧
    (files (some (printing "//a b\n/./ü\n" "x\ty/ z.ts \x00\n\x00")) threeFiles
      ⟨.root, ["r"]⟩ "HEAD").outcome = .ok ["//a b\n/ü/x\ty/ z.ts ", "//a b\n/ü/\n"] := by
  have hstart : Starts threeFiles ⟨.root, ["r"]⟩ := ⟨by decide +kernel, by decide +kernel⟩
  have hcommit : Char.ofNat 0 ∉ "HEAD".toList := by decide +kernel
  have habsolute : (Path.ofText "//a b\n/./ü").isAbsolute = true := by decide +kernel
  have hnames : ∀ name ∈ ["x\ty/ z.ts ", "\n"], name ≠ "" ∧ Char.ofNat 0 ∉ name.toList := by
    decide +kernel
  have hroot : Prints (printing "//a b\n/./ü\n" "x\ty/ z.ts \x00\n\x00")
      ["rev-parse", "--show-toplevel"] ("//a b\n/./ü" ++ "\n") := ⟨"", rfl⟩
  have hlist : Prints (printing "//a b\n/./ü\n" "x\ty/ z.ts \x00\n\x00")
      ["diff-tree", "-z", "--no-commit-id", "--name-only", "-r", "HEAD"]
      (String.join (["x\ty/ z.ts ", "\n"].map (· ++ "\x00"))) := ⟨"", rfl⟩
  refine ⟨hstart, hcommit, habsolute, hnames, ?_⟩
  have hlast : "//a b\n/./ü".toList.getLast? = some 'ü' := by decide +kernel
  have hends : ∀ c ∈ "//a b\n/./ü".toList.getLast?, isBlank c = false := by
    rw [hlast]
    rintro c ⟨⟩
    decide +kernel
  have harrive := (names_arrive_iff hstart hcommit habsolute hnames hroot hlist).2
    ⟨⟨by decide +kernel, hends⟩, by decide +kernel⟩
  have hpath : Path.ofText "//a b\n/./ü" = ⟨.doubleRoot, ["a b\n", "ü"]⟩ := by decide +kernel
  have hfiles : (["x\ty/ z.ts ", "\n"].map fun name =>
      ((Path.ofText "//a b\n/./ü").join (.ofText name)).text) =
      ["//a b\n/ü/x\ty/ z.ts ", "//a b\n/ü/\n"] := by decide +kernel
  rw [hfiles, hpath] at harrive
  exact harrive

/-- A blank at the end of a root and a carriage return in a name do not arrive. -/
theorem names_changed :
    ((root (some (printing "/r \n" "")) threeFiles ⟨.root, ["r"]⟩).outcome = .ok ⟨.root, ["r"]⟩ ∧
      Path.ofText "/r " = ⟨.root, ["r "]⟩) ∧
    ((files (some (printing "/r\n" "a\r.ts\x00")) threeFiles ⟨.root, ["r"]⟩ "HEAD").outcome =
        .ok ["/r/a\n.ts"] ∧
      ((Path.ofText "/r").join (.ofText "a\r.ts")).text = "/r/a\r.ts") :=
  ⟨⟨ok_of_toOption (by decide +kernel), by decide +kernel⟩, ok_of_toOption (by decide +kernel),
    by decide +kernel⟩

end Git

end CommitRules
