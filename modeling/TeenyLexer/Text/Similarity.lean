/-! # Similar words

Two words are compared by their matching blocks: the longest common block, then the same to
its left and to its right. A word counts as close when at least three fifths of the
characters of both words together lie in matching blocks.
-/

namespace TeenyLexer.Text

def commonStart : List Char → List Char → Nat
  | a :: as, b :: bs => if a = b then commonStart as bs + 1 else 0
  | _, _ => 0

/-- A block of equal characters: its offset in either text and its length. -/
structure Block where
  left : Nat
  right : Nat
  length : Nat

/-- The longest common block, the one furthest to the left in the first text and then in the
second where several are equally long. -/
def longestBlock (as bs : List Char) : Block :=
  let blocks := (List.range as.length).flatMap fun i =>
    (List.range bs.length).map fun j => ⟨i, j, commonStart (as.drop i) (bs.drop j)⟩
  blocks.foldl (fun best block => if best.length < block.length then block else best) ⟨0, 0, 0⟩

/-- The number of characters of the first text that lie in matching blocks. -/
def matchedLength (as bs : List Char) : Nat :=
  if _h : 0 < (longestBlock as bs).length ∧ (longestBlock as bs).left < as.length then
    let block := longestBlock as bs
    matchedLength (as.take block.left) (bs.take block.right) + block.length +
      matchedLength (as.drop (block.left + block.length)) (bs.drop (block.right + block.length))
  else 0
termination_by as.length
decreasing_by all_goals simp; omega

/-- At least three fifths of both texts lie in matching blocks. -/
def areClose (as bs : List Char) : Bool :=
  3 * (as.length + bs.length) ≤ 5 * (2 * matchedLength as bs)

/-- Orders by similarity to a word, the more similar first, and then by name downwards. The
similarities, of different denominators, are compared crosswise. -/
def closerThan (word : List Char) (a b : String) : Bool :=
  let x := matchedLength a.toList word * (b.length + word.length)
  let y := matchedLength b.toList word * (a.length + word.length)
  y < x || (y == x && b ≤ a)

/-- The candidates close to a word, the three closest at most, in alphabetical order. -/
def closeMatches (word : String) (candidates : List String) : List String :=
  let close := candidates.filter fun candidate => areClose candidate.toList word.toList
  ((close.mergeSort (closerThan word.toList)).take 3).mergeSort (· ≤ ·)

end TeenyLexer.Text
