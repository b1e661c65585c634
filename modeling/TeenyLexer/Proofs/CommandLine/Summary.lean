import Mathlib
import TeenyLexer.Proofs.CommandLine.Decoding
import TeenyLexer.Proofs.CommandLine.Tracing
import TeenyLexer.Proofs.Rendering.Newlines
import TeenyLexer.Proofs.Text.ControlSequence

/-! # The summary of a dump

What is asked for by the verbose flag sums up the rows above it: their number, and a table of the
kinds that occur in them, in the order of the kinds and each with the number of its rows. One row is
for the end of the input, and the rows for newlines are those of the program outside of its strings,
with one more for the newline that ends the program.
-/

namespace TeenyLexer.CommandLine.Dump

/-- The line of a summary on a whole program, below an empty line. -/
def heading (path : String) (tokens lines : Nat) : String :=
  "\nScanned " ++ path ++ ": " ++ toString tokens ++ " tokens, " ++ toString lines ++ " lines\n"

/-- Some kinds with their numbers, each on a line of its own. -/
def tableText (table : List (Kind × Nat)) : String :=
  String.join (table.map fun entry => countRow entry ++ "\n")

section Table

variable (tokens : List Token)

end Table

section Shown

theorem echoAll_cons (line : String) (lines : List String) :
    echoAll (line :: lines) = echo line ++ echoAll lines := by
  rw [echoAll, List.map_cons, String.join_cons, echoAll]

theorem echo_countRow (entry : Kind × Nat) : echo (countRow entry) = countRow entry ++ "\n" := by
  have hIndent : Text.allPrintable "  ".toList = true := rfl
  have hSpace : Text.allPrintable " ".toList = true := rfl
  have hName := Text.allPrintable_alignLeft 15 entry.1.allPrintable_name
  have hRow : Text.allPrintable (countRow entry).toList = true := by
    simp only [countRow, String.toList_append, Text.allPrintable_append, hIndent, hSpace, hName,
      Text.allPrintable_toString_nat, Bool.and_self]
  rw [echo, Text.stripControl_of_not_mem (Text.not_mem_of_allPrintable hRow rfl)]

theorem echoAll_countRow (table : List (Kind × Nat)) :
    echoAll (table.map countRow) = tableText table := by
  have hRows : (table.map countRow).map echo = table.map fun entry => countRow entry ++ "\n" := by
    rw [List.map_map]
    exact List.map_congr_left fun entry _ => echo_countRow entry
  rw [echoAll, tableText, hRows]

/-- The path is all of a summary that can hold a control sequence. -/
theorem echoAll_summary (path : String) (source : List Char) (tokens : List Token) :
    echoAll (summary path source tokens) =
      heading (Text.stripControl path) tokens.length (Text.lineCount source) ++
        tableText (countKinds tokens) := by
  have hAbove : '\x1b' ∉ "\nScanned ".toList := by decide
  have hColon : Text.IsBarrier ':' := ⟨by decide, by decide, by decide⟩
  let numbers := ": " ++ toString tokens.length ++ " tokens, " ++
    toString (Text.lineCount source) ++ " lines"
  have hHead : numbers.toList.head? = some ':' := by
    simp [numbers]
  have hNumbers : Text.allPrintable numbers.toList = true := by
    have hParts : Text.allPrintable ": ".toList = true ∧
        Text.allPrintable " tokens, ".toList = true ∧
        Text.allPrintable " lines".toList = true := by decide
    simp only [numbers, String.toList_append, Text.allPrintable_append, hParts,
      Text.allPrintable_toString_nat, Bool.and_self]
  have hLine : "\nScanned " ++ path ++ ": " ++ toString tokens.length ++ " tokens, " ++
      toString (Text.lineCount source) ++ " lines" = "\nScanned " ++ (path ++ numbers) := by
    simp only [numbers, String.append_assoc]
  have hShown : "\nScanned " ++ (Text.stripControl path ++ numbers) ++ "\n" =
      heading (Text.stripControl path) tokens.length (Text.lineCount source) := by
    simp only [numbers, heading, String.append_assoc]
    rfl
  rw [summary, echoAll_cons, echoAll_countRow, hLine, echo,
    Text.stripControl_append_of_not_mem hAbove, Text.stripControl_append hColon hHead,
    Text.stripControl_of_not_mem (Text.not_mem_of_allPrintable hNumbers rfl), hShown]

end Shown

theorem tokenize_eq_of_trace (source name : String) (trace : Bool) :
    tokenize source none ⟨name, trace⟩ = tokenize source none ⟨name, false⟩ :=
  (Scanner.ofSource source none ⟨name, false⟩).tokens_traced trace

section Request

variable {find : String → Entry} {path : String} {bytes : List UInt8} {arguments : List String}
  {flags : List Flag}

theorem run_of_tokenize_eq_ok {text : List Char} {tokens : List Token}
    (hTokens : tokenize (programOf text) none ⟨Path.normalize path, false⟩ = .ok tokens)
    (hFile : Path.Opens find path (Text.Utf8.encode text))
    (hArguments : Arguments.ofList arguments = .ok ⟨flags, [path]⟩)
    (hFlags : ∀ flag ∈ flags, flag = .verbose ∨ flag = .trace) (hVerbose : .verbose ∈ flags)
    (env : Environment) :
    (run arguments env find).exitCode = 0 ∧
      (run arguments env find).stdout = rows tokens ++
        (heading (Text.stripControl (Path.normalize path)) tokens.length
          (Text.lineCount (Text.unifyNewlines text)) ++ tableText (countKinds tokens)) := by
  rw [← tokenize_eq_of_trace _ _ ((Settings.ofEnvironment env).trace || .trace ∈ flags)] at hTokens
  rw [run_of_file hFile hArguments hFlags, ofBytes, Text.Utf8.decode_eq_ok_iff.mpr rfl,
    decide_eq_true hVerbose]
  simp only [ofSource_of_ok _ _ hTokens, if_pos]
  exact ⟨trivial, congrArg (rows tokens ++ ·) (echoAll_summary _ _ _)⟩

/-- What is shown by a verbose run that finds no fault: all tokens, and below them the summary. -/
theorem exists_tokens_of_verbose (hFile : Path.Opens find path bytes)
    (hArguments : Arguments.ofList arguments = .ok ⟨flags, [path]⟩)
    (hFlags : ∀ flag ∈ flags, flag = .verbose ∨ flag = .trace) (hVerbose : .verbose ∈ flags)
    {env : Environment} (hScanned : (run arguments env find).exitCode = 0) :
    ∃ text tokens, Text.Utf8.encode text = bytes ∧
      tokenize (programOf text) none ⟨Path.normalize path, false⟩ = .ok tokens ∧
      (run arguments env find).stdout = rows tokens ++
        (heading (Text.stripControl (Path.normalize path)) tokens.length
          (Text.lineCount (Text.unifyNewlines text)) ++ tableText (countKinds tokens)) := by
  rw [run_of_file hFile hArguments hFlags] at hScanned
  obtain ⟨text, rfl, -, hOk, -⟩ := exists_tokenize_of_exitCode _ _ (by
    rw [hScanned]
    decide)
  obtain ⟨tokens, hTokens⟩ := hOk hScanned
  rw [tokenize_eq_of_trace] at hTokens
  exact ⟨text, tokens, rfl, hTokens,
    (run_of_tokenize_eq_ok hTokens hFile hArguments hFlags hVerbose env).2⟩

end Request

end TeenyLexer.CommandLine.Dump
