import TeenyLexer.Text.Hex
import TeenyLexer.Text.Printable

/-! # Quoted text

A text is shown between single quotes, or between double quotes when it holds a single
quote and no double one. Backslashes, the quote in use and everything that is not
printable are escaped, so a quoted text is printable whatever it quotes.
-/

namespace TeenyLexer.Text

/-- The quote put around a text. -/
def delimiter (text : List Char) : Char :=
  if '\'' ∈ text ∧ '"' ∉ text then '"' else '\''

def escapeChar (delimiter c : Char) : List Char :=
  if c = delimiter ∨ c = '\\' then ['\\', c]
  else if c = '\t' then ['\\', 't']
  else if c = '\n' then ['\\', 'n']
  else if c = '\r' then ['\\', 'r']
  else if isPrintable c then [c]
  else if c.toNat < 0x100 then '\\' :: 'x' :: hex 2 c.toNat
  else if c.toNat < 0x10000 then '\\' :: 'u' :: hex 4 c.toNat
  else '\\' :: 'U' :: hex 8 c.toNat

def quoteChars (text : List Char) : List Char :=
  delimiter text :: text.flatMap (escapeChar (delimiter text)) ++ [delimiter text]

def quote (text : String) : String :=
  String.ofList (quoteChars text.toList)

end TeenyLexer.Text
