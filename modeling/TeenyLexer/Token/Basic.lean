import TeenyLexer.Location
import TeenyLexer.Token.Kind

/-! # Tokens

A word is a kind with a lexeme. A token is a word with the location of its first character.
Tokens are compared by their words: where they stand does not matter.
-/

namespace TeenyLexer

structure Word where
  kind : Kind
  lexeme : String
  deriving DecidableEq

structure Token extends Word where
  location : Location

namespace Token

instance : BEq Token where
  beq a b := a.toWord == b.toWord

def countDistinct (tokens : List Token) : Nat :=
  (tokens.map Token.toWord).eraseDups.length

def position (t : Token) : String :=
  toString t.location.line ++ ":" ++ toString t.location.column

/-- A token as it is written to the log. Line zero means that the position is not known. -/
def text (t : Token) : String :=
  let word := t.kind.name ++ ", " ++ Text.quote t.lexeme
  if t.location.line = 0 then "Token(" ++ word ++ ")"
  else "Token(" ++ word ++ ", " ++ t.position ++ ")"

end Token

end TeenyLexer
