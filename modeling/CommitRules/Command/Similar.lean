/-!
# CommitRules.Command.Similar

Words that resemble a word: those that share at least three fifths of their characters with it,
counting the longest common piece, and then the longest ones to its left and to its right in turn.
-/

namespace CommitRules.Command

def commonStart : List Char → List Char → Nat
  | c :: cs, d :: ds => if c = d then commonStart cs ds + 1 else 0
  | _, _ => 0

/-- A common piece of two words: where it starts in each of them, and its length. -/
structure Piece where
  first : Nat
  second : Nat
  length : Nat

/-- The longest common piece; of several the leftmost in the first word, then in the second. -/
def longestPiece (a b : List Char) : Piece :=
  let starts := (List.range a.length).flatMap fun i => (List.range b.length).map fun j => (i, j)
  starts.foldl (fun best (i, j) =>
    let length := commonStart (a.drop i) (b.drop j)
    if best.length < length then ⟨i, j, length⟩ else best) ⟨0, 0, 0⟩

/-- The number of characters two words share; `fuel` bounds the number of pieces. -/
def sharedCount : Nat → List Char → List Char → Nat
  | 0, _, _ => 0
  | fuel + 1, a, b =>
    let piece := longestPiece a b
    if piece.length = 0 then 0
    else
      piece.length + sharedCount fuel (a.take piece.first) (b.take piece.second) +
        sharedCount fuel (a.drop (piece.first + piece.length))
          (b.drop (piece.second + piece.length))

/-- How similar a word is to another one: twice the number of shared characters, of all
characters. -/
structure Score where
  shared : Nat
  all : Nat
  word : String

/-- The score of `word` in comparison with `given`. -/
def scoreOf (given word : String) : Score :=
  ⟨2 * sharedCount (word.length + 1) word.toList given.toList, word.length + given.length, word⟩

/-- Whether a score is three fifths or better. -/
def Score.isClose (score : Score) : Bool := 3 * score.all ≤ 5 * score.shared

/-- Whether a score comes before another one: the better first, then the greater word. -/
def Score.precedes (a b : Score) : Bool :=
  if a.shared * b.all = b.shared * a.all then !(a.word < b.word)
  else b.shared * a.all < a.shared * b.all

/-- At most three of the words that resemble a word, in alphabetical order. -/
def similar (given : String) (words : List String) : List String :=
  let close := (words.map (scoreOf given)).filter Score.isClose
  let best := (close.mergeSort Score.precedes).take 3
  (best.map (·.word)).mergeSort fun a b => !(b < a)

end CommitRules.Command
