import TeenyLexer.CommandLine.Arguments
import TeenyLexer.Diagnostic.Basic
import TeenyLexer.Text.ControlSequence

/-! # Transcripts

A transcript is all that a run of the command shows: the two output streams and the exit
code. The exit code is one for a fault in the program, two for arguments or input that
cannot be used, and three for anything unforeseen.
-/

namespace TeenyLexer.CommandLine

structure Transcript where
  stdout : String := ""
  stderr : String := ""
  exitCode : Nat := 0
  deriving DecidableEq

/-- A text as it is shown: freed of control sequences, and ended by a newline. -/
def echo (text : String) : String :=
  Text.stripControl text ++ "\n"

/-- Why a run ends early. -/
inductive Failure
  | diagnosed (d : Diagnostic)
  | refused (message : String)
  | undecodable (reason : String)
  | unavailable (message : String)
  | internal (message : String)

namespace Failure

def exitCode : Failure → Nat
  | diagnosed _ | refused _ => 1
  | undecodable _ | unavailable _ => 2
  | internal _ => 3

def message : Failure → String
  | diagnosed d => d.message
  | refused message => message
  | undecodable reason => "Error: input is not valid UTF-8 (" ++ reason ++ ")"
  | unavailable message => "Error: " ++ message
  | internal message => "Internal error: " ++ message

/-- What is shown of the course of an unforeseen failure. There is never anything to tell. -/
def trail : Failure → String
  | internal _ => "NoneType: None\n"
  | _ => ""

/-- The transcript of a run that shows nothing but a failure. -/
def report (f : Failure) (verbose : Bool) : Transcript where
  stderr := echo f.message ++ if verbose then f.trail else ""
  exitCode := f.exitCode

end Failure

def usage : String :=
  "Usage: ttlex [OPTIONS] INPUT_FILE"

def UsageError.report (e : UsageError) : Transcript where
  stderr :=
    (if e.showsUsage then echo (usage ++ "\nTry 'ttlex --help' for help.\n") else "") ++
      echo ("Error: " ++ e.message)
  exitCode := 2

end TeenyLexer.CommandLine
