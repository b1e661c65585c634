/-! # Lines of a text

Reading a file turns each of the three line endings into a newline. Counting the lines of a
text recognises more breaks than that, among them the form feed and the Unicode separators.
-/

namespace TeenyLexer.Text

/-- Turns `\r\n` and a lone `\r` into a newline. -/
def unifyNewlines : List Char → List Char
  | [] => []
  | '\r' :: '\n' :: rest => '\n' :: unifyNewlines rest
  | '\r' :: rest => '\n' :: unifyNewlines rest
  | c :: rest => c :: unifyNewlines rest

/-- A character that ends a line when lines are counted. -/
def isLineBreak (c : Char) : Bool :=
  c ∈ ['\n', '\x0b', '\x0c', '\r', '\x1c', '\x1d', '\x1e', '\u0085', '\u2028', '\u2029']

/-- The number of lines begun in a text, of which the first is already open unless `fresh`.
A `\r` directly before a newline belongs to that newline's break. -/
def linesBegun (fresh : Bool) : List Char → Nat
  | [] => 0
  | c :: rest =>
    (if fresh then 1 else 0) +
      linesBegun (isLineBreak c && !(c == '\r' && rest.head? == some '\n')) rest

/-- The number of lines of a text. A break at the very end begins no further line. -/
def lineCount (text : List Char) : Nat :=
  linesBegun true text

end TeenyLexer.Text
