import TeenyLexer.Diagnostic.Basic
import TeenyLexer.Source.Cursor
import TeenyLexer.Text.Alphanumeric
import TeenyLexer.Token.Basic
import TeenyLexer.Token.Escape

/-! # Readings

A reading is what stands at the start of a text whose layout has been skipped: a word in
its longest spelling, a fault, or nothing because the text is at its end.
-/

namespace TeenyLexer

inductive Reading
  | word (kind : Kind) (spelling : List Char)
  | fault (fault : Fault)
  | endOfInput

/-- The word written by a spelling. The lexeme of a string is its body, without the quotes
and with its escapes; any other lexeme is the spelling. -/
def Word.ofSpelling (kind : Kind) (spelling : List Char) : Word :=
  if kind = .string then ⟨kind, String.ofList (Escape.encode spelling.tail.dropLast)⟩
  else ⟨kind, String.ofList spelling⟩

def Word.endOfInput : Word :=
  ⟨.endOfInput, String.ofList [nul]⟩

namespace Reading

/-- The words of one character that cannot be the start of a longer one. -/
def single? (c : Char) : Option Kind :=
  match c with
  | '\n' => some .newline
  | '+' => some (.operator .plus)
  | '-' => some (.operator .minus)
  | '*' => some (.operator .asterisk)
  | '/' => some (.operator .slash)
  | _ => none

/-- The operators of one character to which an equals sign may be joined, alone and joined. -/
def joinable? (c : Char) : Option (Operator × Operator) :=
  match c with
  | '=' => some (.assign, .equals)
  | '<' => some (.less, .lessEquals)
  | '>' => some (.greater, .greaterEquals)
  | _ => none

def isNumberStart (c : Char) : Bool :=
  c.isDigit || c == '.'

def isIdentifierStart (c : Char) : Bool :=
  c.isAlpha || c == '_'

/-- The longest number at the start of a text: digits with at most one point among them. -/
def numeral (text : List Char) : List Char :=
  text.takeWhile Char.isDigit ++
    match text.dropWhile Char.isDigit with
    | '.' :: rest => '.' :: rest.takeWhile Char.isDigit
    | _ => []

/-- A name is a keyword if it is spelled like one, and an identifier otherwise. -/
def kindOfName (name : List Char) : Kind :=
  match Keyword.ofText? (String.ofList name) with
  | some k => .keyword k
  | none => .identifier

def ofExclamation (rest : List Char) : Reading :=
  if rest.head? = some '=' then .word (.operator .notEquals) ['!', '=']
  else .fault (.malformedOperator (.ofChar (rest.headD nul)))

def ofQuote (rest : List Char) : Reading :=
  if '"' ∈ rest then .word .string ('"' :: rest.takeWhile (· ≠ '"') ++ ['"'])
  else .fault .unterminatedString

def ofText : List Char → Reading
  | [] => .endOfInput
  | c :: rest =>
    match single? c, joinable? c with
    | some kind, _ => .word kind [c]
    | none, some (alone, joined) =>
      if rest.head? = some '=' then .word (.operator joined) [c, '=']
      else .word (.operator alone) [c]
    | none, none =>
      if c = '!' then ofExclamation rest
      else if c = '"' then ofQuote rest
      else if isNumberStart c then .word .number (numeral (c :: rest))
      else if isIdentifierStart c then
        let name := c :: rest.takeWhile Text.isAlphanumeric
        .word (kindOfName name) name
      else .fault (.unexpectedCharacter (.ofChar c))

/-- How far a reading of a text moves the cursor. A string that is not closed takes all that
is left, any other fault takes nothing, and the end of the input is stepped over. -/
def extent (text : List Char) : Reading → Nat
  | word _ spelling => spelling.length
  | fault .unterminatedString => text.length
  | fault _ => 0
  | endOfInput => 1

theorem numeral_ne_nil {c : Char} {rest : List Char} (h : isNumberStart c = true) :
    numeral (c :: rest) ≠ [] := by
  by_cases hd : c.isDigit = true
  · simp [numeral, hd]
  · have hc : c = '.' := by simpa [isNumberStart, hd] using h
    subst hc
    simp [numeral]

theorem spelling_ne_nil {text : List Char} {kind : Kind} {spelling : List Char}
    (h : ofText text = word kind spelling) : spelling ≠ [] := by
  unfold ofText at h
  split at h
  · cases h
  next c rest =>
    split at h
    · cases h; simp
    · split at h <;> cases h <;> simp
    · split at h
      · unfold ofExclamation at h
        split at h <;> cases h
        simp
      split at h
      · unfold ofQuote at h
        split at h <;> cases h
        simp
      split at h
      next hn => cases h; exact numeral_ne_nil hn
      split at h <;> cases h
      simp

end Reading

end TeenyLexer
