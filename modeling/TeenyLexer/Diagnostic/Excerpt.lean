import TeenyLexer.Text.Hex
import TeenyLexer.Text.Printable

/-! # Excerpts

An excerpt is the piece of a program that a diagnostic shows. It is a single character, or
else it is printable, so that it can always be described: a newline by its name, printable
text in quotes, and any other character by its code point.
-/

namespace TeenyLexer

structure Excerpt where
  text : List Char
  describable : text.length = 1 ∨ Text.allPrintable text = true
  deriving DecidableEq

namespace Excerpt

def ofChar (c : Char) : Excerpt :=
  ⟨[c], .inl rfl⟩

/-- A text that is too long to be shown by a code point, given by its length. -/
structure TooLong where
  length : Nat
  deriving DecidableEq

def TooLong.message (e : TooLong) : String :=
  "ord() expected a character, but string of length " ++ toString e.length ++ " found"

def ofString (text : String) : Except TooLong Excerpt :=
  if h : text.toList.length = 1 ∨ Text.allPrintable text.toList = true then
    .ok ⟨text.toList, h⟩
  else .error ⟨text.length⟩

def isPrintable (e : Excerpt) : Bool :=
  Text.allPrintable e.text

def toString (e : Excerpt) : String :=
  String.ofList e.text

def describe (e : Excerpt) : String :=
  if e.text = ['\n'] then "newline"
  else if e.isPrintable then "'" ++ e.toString ++ "'"
  else String.join (e.text.map Text.codePoint)

end Excerpt

end TeenyLexer
