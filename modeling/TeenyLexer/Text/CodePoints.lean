/-! # Sets of code points

Character classes above ASCII are held as lists of closed intervals of code points.
-/

namespace TeenyLexer.Text

def inRanges (ranges : List (Nat × Nat)) (c : Char) : Bool :=
  ranges.any fun range => range.1 ≤ c.toNat && c.toNat ≤ range.2

end TeenyLexer.Text
