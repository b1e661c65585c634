/-! # Terminal control sequences

A control sequence is an escape character, a left bracket, any number of digits, semicolons
and question marks, and one ASCII letter. Text shown to the user is freed of them.
-/

namespace TeenyLexer.Text

/-- A character between the bracket of a control sequence and its final letter. -/
def isControlParameter (c : Char) : Bool :=
  c.isDigit || c == ';' || c == '?'

/-- The length of the control sequence at the start of a text, zero if there is none. -/
def controlSequenceLength : List Char → Nat
  | '\x1b' :: '[' :: rest =>
    match rest.dropWhile isControlParameter with
    | last :: _ => if last.isAlpha then (rest.takeWhile isControlParameter).length + 3 else 0
    | [] => 0
  | _ => 0

/-- Drops `skip` characters and after them every control sequence. -/
def stripControlAfter (skip : Nat) : List Char → List Char
  | [] => []
  | c :: rest =>
    match skip with
    | skip + 1 => stripControlAfter skip rest
    | 0 =>
      match controlSequenceLength (c :: rest) with
      | 0 => c :: stripControlAfter 0 rest
      | n + 1 => stripControlAfter n rest

def stripControl (text : String) : String :=
  String.ofList (stripControlAfter 0 text.toList)

end TeenyLexer.Text
