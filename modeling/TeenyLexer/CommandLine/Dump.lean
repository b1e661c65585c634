import TeenyLexer.CommandLine.Transcript
import TeenyLexer.Scanner.Basic
import TeenyLexer.Text.Align
import TeenyLexer.Text.Lines
import TeenyLexer.Text.Utf8

/-! # Token dumps

A dump shows every token of a program on a line of its own, with its position, its kind and
its lexeme in quotes. On request a summary of the number of tokens, lines and kinds follows.
If the program has a fault, the tokens before it are shown, then the fault.
-/

namespace TeenyLexer.CommandLine.Dump

def row (t : Token) : String :=
  let position := Text.alignLeft 8 t.position ++ " "
  if t.kind = .endOfInput then position ++ t.kind.name
  else position ++ Text.alignLeft 15 t.kind.name ++ " " ++ Text.quote t.lexeme

/-- The kinds that occur among some tokens, in the order of the kinds, each with the number
of its tokens. -/
def countKinds (tokens : List Token) : List (Kind × Nat) :=
  (Kind.all.map fun kind => (kind, tokens.countP fun t => t.kind == kind)).filter
    fun entry => entry.2 ≠ 0

def countRow (entry : Kind × Nat) : String :=
  "  " ++ Text.alignLeft 15 entry.1.name ++ " " ++ toString entry.2

/-- The lines of the summary. An empty line sets it off from the tokens. -/
def summary (path : String) (source : List Char) (tokens : List Token) : List String :=
  ("\nScanned " ++ path ++ ": " ++ toString tokens.length ++ " tokens, " ++
      toString (Text.lineCount source) ++ " lines") ::
    (countKinds tokens).map countRow

def echoAll (lines : List String) : String :=
  String.join (lines.map echo)

/-- Some records as they are written to the log, which is not freed of anything. -/
def log (records : List Record) : String :=
  String.join (records.map fun r => r.line ++ "\n")

def ofSource (settings : Settings) (verbose : Bool) (source : List Char) : Transcript :=
  let scanner := Scanner.ofSource (String.ofList source) none settings
  let pulls := scanner.pulls
  let tokens := Scanner.delivered pulls
  let log :=
    if settings.trace then log (scanner.openingRecord :: Scanner.recorded pulls) else ""
  match Scanner.failure? pulls with
  | none =>
    let lines := if verbose then summary settings.filename source tokens else []
    { stdout := echoAll (tokens.map row ++ lines), stderr := log }
  | some d =>
    let report := (Failure.diagnosed d).report verbose
    { report with stdout := echoAll (tokens.map row), stderr := log ++ report.stderr }

/-- The dump of the bytes of a file, in which any line ending counts as a newline. -/
def ofBytes (settings : Settings) (verbose : Bool) (bytes : List UInt8) : Transcript :=
  match Text.Utf8.decode bytes with
  | .ok text => ofSource settings verbose (Text.unifyNewlines text)
  | .error malformed => (Failure.undecodable malformed.cause.message).report verbose

def failureOf (refusal : Refusal) (path : String) : Failure :=
  match refusal with
  | .missing => .unavailable (refusal.message path)
  | .notDirectory | .nameTooLong | .isDirectory => .internal (refusal.message path)

/-- The dump of a file, which is named and opened by the normal form of its path. -/
def ofFile (env : Environment) (find : String → Entry) (path : String) (verbose trace : Bool) :
    Transcript :=
  let name := Path.normalize path
  let settings : Settings := ⟨name, (Settings.ofEnvironment env).trace || trace⟩
  match (find name).read with
  | .ok bytes => ofBytes settings verbose bytes
  | .error refusal => (failureOf refusal name).report verbose

def version : String :=
  "1.0.0"

def help : String :=
  usage ++ "\n" ++
  "\n" ++
  "  Dump the tokens of a Teeny source file.\n" ++
  "\n" ++
  "  INPUT_FILE is the Teeny program to scan.\n" ++
  "\n" ++
  "  Each token is printed on its own line with its position, kind and lexeme. On a\n" ++
  "  lexical error the tokens scanned so far are printed, followed by the error on\n" ++
  "  stderr, and the exit code is 1.\n" ++
  "\n" ++
  "  Examples:\n" ++
  "      ttlex hello.teeny            # Token dump\n" ++
  "      ttlex -v hello.teeny         # With a summary\n" ++
  "\n" ++
  "Options:\n" ++
  "  -v, --verbose  Print a summary after the tokens\n" ++
  "  --trace        Log every token as it is scanned (to stderr)\n" ++
  "  --version      Show the version and exit.\n" ++
  "  --help         Show this message and exit.\n"

def run (arguments : List String) (env : Environment) (find : String → Entry) : Transcript :=
  match Request.ofList find arguments with
  | .ok .help => { stdout := help }
  | .ok .version => { stdout := "ttlex, version " ++ version ++ "\n" }
  | .ok (.dump path verbose trace) => ofFile env find path verbose trace
  | .error mistake => mistake.report

end TeenyLexer.CommandLine.Dump
