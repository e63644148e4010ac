import CommitRules.Text.Lines

/-!
# CommitRules.Glob.Braces

Alternatives in braces. The first opening brace of a glob and the brace that closes it hold options
separated by commas; every option gives a glob of its own, in which further braces are expanded in
turn. Braces without a comma between them stand for themselves, and so does everything from an
opening brace on that is never closed.
-/

namespace CommitRules.Glob

/-- Reads the options behind an opening brace, up to the brace that closes it, and what follows.
`depth` counts the braces opened since, `option` holds the current option, last character first. -/
def takeOptions (depth : Nat) (option : List Char) :
    List Char → Option (List (List Char) × List Char)
  | [] => none
  | c :: rest =>
    if c = '{' then takeOptions (depth + 1) (c :: option) rest
    else if c = '}' then
      match depth with
      | 0 => some ([option.reverse], rest)
      | depth + 1 => takeOptions depth (c :: option) rest
    else if c = ',' && depth = 0 then
      match takeOptions 0 [] rest with
      | none => none
      | some (options, after) => some (option.reverse :: options, after)
    else takeOptions depth (c :: option) rest

/-- The globs a glob with at most `braces` opening braces stands for, in order. -/
def expandWithin : Nat → List Char → List (List Char)
  | 0, glob => [glob]
  | braces + 1, glob =>
    match glob.span (· != '{') with
    | (_, []) => [glob]
    | (before, brace :: inner) =>
      match takeOptions 0 [] inner with
      | none => [glob]
      | some ([option], after) =>
        (expandWithin braces after).map fun rest => before ++ brace :: option ++ '}' :: rest
      | some (options, after) =>
        options.flatMap fun option => expandWithin braces (before ++ option ++ after)

/-- The globs without alternatives that a glob stands for, in order. -/
def expand (glob : List Char) : List (List Char) := expandWithin (glob.count '{') glob

/-- A glob without opening braces stands for itself. -/
theorem expand_of_not_mem {glob : List Char} (h : '{' ∉ glob) : expand glob = [glob] := by
  rw [expand, List.count_eq_zero.2 h, expandWithin]

end CommitRules.Glob
