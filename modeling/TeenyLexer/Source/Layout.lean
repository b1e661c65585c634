/-! # Layout

Blanks and comments separate words and have no meaning of their own. A comment runs from a
number sign up to the newline, which is a word and so no part of the comment.
-/

namespace TeenyLexer

def isBlank (c : Char) : Bool :=
  c == ' ' || c == '\t' || c == '\r'

/-- The comment at the start of a text, empty if there is none. -/
def comment : List Char → List Char
  | [] => []
  | c :: rest => if c = '#' then c :: rest.takeWhile (· ≠ '\n') else []

/-- The layout at the start of a text: blanks and then at most one comment. -/
def layout (text : List Char) : List Char :=
  text.takeWhile isBlank ++ comment (text.dropWhile isBlank)

end TeenyLexer
