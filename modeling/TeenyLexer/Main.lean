import TeenyLexer.CommandLine.Dump

/-! # The command

Looks at the file named by the arguments and shows the transcript of the run.
-/

namespace TeenyLexer.CommandLine

def lookUp (path : String) : IO Entry := do
  try
    let bytes ← IO.FS.readBinFile path
    return .file bytes.toList
  catch
    | .inappropriateType _ number _ =>
      return if number.toNat = Refusal.isDirectory.number then .directory else .notDirectory
    | _ => return .missing

/-- What the file named by the arguments leads to, by its path as typed and in normal form. -/
def lookUpOperand (arguments : List String) : IO (String → Entry) := do
  match Arguments.ofList arguments with
  | .ok { operands := path :: _, .. } =>
    let typed ← lookUp path
    let opened ← lookUp (Path.normalize path)
    return fun other => if other = path then typed else opened
  | _ => return fun _ => .missing

def environment : IO Environment := do
  return { filename := ← IO.getEnv "TEENY_FILENAME", trace := ← IO.getEnv "TEENY_TRACE" }

end TeenyLexer.CommandLine

open TeenyLexer.CommandLine in
def main (arguments : List String) : IO UInt32 := do
  let find ← lookUpOperand arguments
  let transcript := Dump.run arguments (← environment) find
  IO.print transcript.stdout
  IO.eprint transcript.stderr
  return transcript.exitCode.toUInt32
