import TeenyLexer.CommandLine.Transcript
import TeenyLexer.Scanner.Basic
import TeenyLexer.Text.Align
import TeenyLexer.Text.Lines
import TeenyLexer.Text.Utf8

/-! # Listings of statements

A statement is a run of tokens up to a newline token or the end of the input. A listing
shows every statement that has any tokens, with the line of its first token and the names
and lexemes of all of them. A statement under way when the program fails is not shown.
-/

namespace TeenyLexer.CommandLine.Listing

def endsStatement (t : Token) : Bool :=
  t.kind == .newline || t.kind == .endOfInput

/-- The statements ended by some tokens, where the tokens `pending` precede the first. -/
def statementsFrom (pending : List Token) : List Token → List (List Token)
  | [] => []
  | t :: rest =>
    if endsStatement t then
      if pending = [] then statementsFrom [] rest else pending :: statementsFrom [] rest
    else statementsFrom (pending ++ [t]) rest

def statements (tokens : List Token) : List (List Token) :=
  statementsFrom [] tokens

def item (t : Token) : String :=
  t.kind.name ++ "(" ++ t.lexeme ++ ")"

/-- The entry of a statement, which is headed by the line of its first token. -/
def entry : List Token → String
  | [] => ""
  | first :: more =>
    Text.alignRight 3 (toString first.location.line) ++ ": " ++
      String.intercalate " " ((first :: more).map item) ++ "\n"

def ofSource (filename : String) (source : List Char) : Transcript :=
  let pulls := (Scanner.ofSource (String.ofList source) (some filename) {}).pulls
  let stdout := String.join ((statements (Scanner.delivered pulls)).map entry)
  match Scanner.failure? pulls with
  | none => { stdout := stdout }
  | some d => { stdout := stdout, stderr := d.message ++ "\n", exitCode := 1 }

inductive Obstacle
  | refused (refusal : Refusal) (path : String)
  | undecodable (malformed : Text.Utf8.Malformed)
  deriving DecidableEq

def Obstacle.message : Obstacle → String
  | refused refusal path => refusal.message path
  | undecodable malformed => malformed.message

/-- The listing of the bytes of a file, in which any line ending counts as a newline. -/
def ofBytes (filename : String) (bytes : List UInt8) : Except Obstacle Transcript :=
  match Text.Utf8.decode bytes with
  | .ok text => .ok (ofSource filename (Text.unifyNewlines text))
  | .error malformed => .error (.undecodable malformed)

/-- The listing of a file, which is named and opened by the normal form of its path. -/
def ofFile (find : String → Entry) (path : String) : Except Obstacle Transcript :=
  let name := Path.normalize path
  match (find name).read with
  | .ok bytes => ofBytes name bytes
  | .error refusal => .error (.refused refusal name)

end TeenyLexer.CommandLine.Listing
