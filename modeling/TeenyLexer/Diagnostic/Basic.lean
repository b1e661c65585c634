import TeenyLexer.Diagnostic.Excerpt
import TeenyLexer.Location

/-! # Diagnostics

A diagnostic says what is wrong with a program, where, and shows the line that is at fault
with a caret under the place. Each fault has a short name, a description and in most cases
a hint.
-/

namespace TeenyLexer

inductive Fault
  | unexpectedCharacter (found : Excerpt)
  | malformedOperator (following : Excerpt)
  | unterminatedString
  /-- A fault stated in words. -/
  | general (description : String) (hint : Option String)
  deriving DecidableEq

namespace Fault

def name : Fault → String
  | unexpectedCharacter _ => "unexpected-character"
  | malformedOperator _ => "malformed-operator"
  | unterminatedString => "unterminated-string"
  | general _ _ => "lex-error"

def description : Fault → String
  | unexpectedCharacter found => "unexpected character " ++ found.describe
  | malformedOperator following =>
    if following.isPrintable then "expected '!=', got '!" ++ following.toString ++ "'"
    else "expected '!=', got '!' followed by " ++ following.describe
  | unterminatedString => "unterminated string literal"
  | general description _ => description

def hint : Fault → Option String
  | unexpectedCharacter _ =>
    some "only letters, digits, '\"', '#' and the operators + - * / = < > ! start a token"
  | malformedOperator _ => some "Teeny has no '!' operator; use '!=' for inequality"
  | unterminatedString => some "add closing '\"' to complete the string"
  | general _ hint => hint

def excerpt : Fault → Option Excerpt
  | unexpectedCharacter found => some found
  | malformedOperator following => some following
  | unterminatedString | general _ _ => none

end Fault

/-- A fault with the place where it was found and the text of that line. -/
structure Diagnostic where
  fault : Fault
  location : Option Location
  sourceLine : Option String
  deriving DecidableEq

namespace Diagnostic

def indent : Nat := 4

/-- The source line and, if the column is on the line, a caret under the column. -/
def exhibit (location : Location) (sourceLine : String) : List String :=
  let shown := String.ofList (List.replicate indent ' ') ++ sourceLine
  if location.column > 0 then
    [shown, String.ofList (List.replicate (indent + location.column - 1).toNat ' ') ++ "^"]
  else [shown]

def lines (d : Diagnostic) : List String :=
  let error := "error: " ++ d.fault.description
  let header :=
    match d.location with
    | some location => location.text ++ ": " ++ error
    | none => error
  let exhibited :=
    match d.location, d.sourceLine with
    | some location, some sourceLine => exhibit location sourceLine
    | _, _ => []
  let hint :=
    match d.fault.hint with
    | some hint => if hint = "" then [] else ["hint: " ++ hint]
    | none => []
  header :: exhibited ++ hint

def message (d : Diagnostic) : String :=
  String.intercalate "\n" d.lines

end Diagnostic

end TeenyLexer
