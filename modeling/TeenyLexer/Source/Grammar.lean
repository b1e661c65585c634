import TeenyLexer.Source.Layout
import TeenyLexer.Source.Reading

/-! # The grammar of programs

What a program is, said without a scanner: which texts spell a word of which kind, what may
stand between two words, and how a program falls into words. A word is always taken in its
longest spelling.
-/

namespace TeenyLexer

inductive Spells : Kind → List Char → Prop
  | newline : Spells .newline ['\n']
  | operator (o : Operator) : Spells (.operator o) o.text.toList
  | keyword (k : Keyword) : Spells (.keyword k) k.text.toList
  | string {body : List Char} (open_body : '"' ∉ body) : Spells .string ('"' :: body ++ ['"'])
  | number {text : List Char} (nonempty : text ≠ [])
      (digits : ∀ c ∈ text, c.isDigit = true ∨ c = '.') (one_point : text.count '.' ≤ 1) :
      Spells .number text
  | identifier {first : Char} {more : List Char}
      (start : first.isAlpha = true ∨ first = '_')
      (tail : ∀ c ∈ more, Text.isAlphanumeric c = true)
      (free : ∀ k : Keyword, k.text.toList ≠ first :: more) :
      Spells .identifier (first :: more)

def Word.IsSpelled (w : Word) : Prop :=
  ∃ spelling, Spells w.kind spelling ∧ w = .ofSpelling w.kind spelling

/-- How a word is written: a string as its body between quotes, any other word as its
lexeme. -/
def Word.spelling (w : Word) : List Char :=
  if w.kind = .string then '"' :: (Escape.decode w.lexeme.toList).getD [] ++ ['"']
  else w.lexeme.toList

/-- A spelling at the start of a text such that no longer start of the text spells a word. -/
structure IsLongestSpelling (text : List Char) (kind : Kind) (spelling : List Char) : Prop where
  spells : Spells kind spelling
  isPrefix : spelling <+: text
  longest : ∀ kind' spelling', Spells kind' spelling' → spelling' <+: text →
    spelling'.length ≤ spelling.length

/-- What may stand before a word: blanks, and before a newline a comment after them. -/
inductive IsGap : List Char → Kind → Prop
  | blanks {gap : List Char} {kind : Kind} (blank : ∀ c ∈ gap, isBlank c = true) :
      IsGap gap kind
  | comment {gap note : List Char} (blank : ∀ c ∈ gap, isBlank c = true)
      (one_line : '\n' ∉ note) : IsGap (gap ++ '#' :: note) .newline

/-- A word of a text together with what stands before it. -/
structure Piece where
  gap : List Char
  kind : Kind
  spelling : List Char

namespace Piece

def text (p : Piece) : List Char :=
  p.gap ++ p.spelling

def word (p : Piece) : Word :=
  .ofSpelling p.kind p.spelling

end Piece

inductive FallsInto : List Char → List Piece → Prop
  | nil : FallsInto [] []
  | cons {piece : Piece} {rest : List Char} {pieces : List Piece}
      (between : IsGap piece.gap piece.kind)
      (word : IsLongestSpelling (piece.spelling ++ rest) piece.kind piece.spelling)
      (more : FallsInto rest pieces) :
      FallsInto (piece.text ++ rest) (piece :: pieces)

end TeenyLexer
