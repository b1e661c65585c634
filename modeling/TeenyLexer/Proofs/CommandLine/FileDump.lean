import TeenyLexer.Proofs.CommandLine.Row
import TeenyLexer.Proofs.FileTree.Normal
import TeenyLexer.Proofs.Scanner.Stream
import TeenyLexer.Proofs.Text.Utf8

/-! # The dump of a file

For every file the command shows one of three things: a refusal where the bytes are no text, the
rows of all tokens, or the rows of the tokens before a fault and then the fault.
-/

namespace TeenyLexer.CommandLine

theorem Failure.report_of_trail {f : Failure} (h : f.trail = "") (verbose : Bool) :
    f.report verbose = { stderr := echo f.message, exitCode := f.exitCode } := by
  rw [report, h, ite_self, String.append_empty]

namespace Dump

/-- The program in a file, in which any line ending counts as a newline. -/
def programOf (text : List Char) : String :=
  String.ofList (Text.unifyNewlines text)

/-- What the command owes for a file with some bytes, which it calls by a name. -/
structure Answers (name : String) (verbose : Bool) (bytes : List UInt8) (shown : Transcript) :
    Prop where
  refused : (∀ text, Text.Utf8.encode text ≠ bytes) →
    ∃ malformed, Text.Utf8.decode bytes = .error malformed ∧
      '\n' ∉ malformed.cause.message.toList ∧
        shown = { stderr := "Error: input is not valid UTF-8 (" ++ malformed.cause.message ++ ")\n"
                  exitCode := 2 }
  dumped : ∀ text, Text.Utf8.encode text = bytes →
    ∀ tokens, tokenize (programOf text) none ⟨name, false⟩ = .ok tokens →
      shown = { stdout := rows tokens ++
                  if verbose then echoAll (summary name (Text.unifyNewlines text) tokens) else "" }
  /-- The tokens before a fault are those that the pulls before the failing one hand out. -/
  diagnosed : ∀ text, Text.Utf8.encode text = bytes →
    ∀ d, tokenize (programOf text) none ⟨name, false⟩ = .error d →
      ∃ before, (Scanner.ofSource (programOf text) none ⟨name, false⟩).outcomes
            (before.length + 1) = before.map .ok ++ [.error d] ∧
        shown = { stdout := rows before
                  stderr := Text.stripControl d.message ++ "\n"
                  exitCode := 1 }
  foreseen : shown.exitCode ≠ 3

/-- What a dump logs of a program. -/
def journal (settings : Settings) (source : List Char) : String :=
  let scanner := Scanner.ofSource (String.ofList source) none settings
  if settings.trace then log (scanner.openingRecord :: Scanner.recorded scanner.pulls) else ""

theorem ofSource_of_ok (settings : Settings) (verbose : Bool) {source : List Char}
    {tokens : List Token} (h : tokenize (String.ofList source) none settings = .ok tokens) :
    ofSource settings verbose source =
      { stdout := rows tokens ++
          if verbose then echoAll (summary settings.filename source tokens) else ""
        stderr := journal settings source } := by
  obtain ⟨hFailure, hDelivered⟩ := Scanner.delivered_of_tokens_eq_ok h
  simp only [ofSource, hFailure, hDelivered, echoAll_append, echoAll_rows]
  cases verbose <;> rfl

theorem ofSource_of_error (settings : Settings) (verbose : Bool) {source : List Char}
    {d : Diagnostic} (h : tokenize (String.ofList source) none settings = .error d) :
    ofSource settings verbose source =
      { stdout := rows (Scanner.delivered
          (Scanner.ofSource (String.ofList source) none settings).pulls)
        stderr := journal settings source ++ echo d.message
        exitCode := 1 } := by
  obtain ⟨hFailure, -⟩ := Scanner.delivered_of_tokens_eq_error h
  have hReport := Failure.report_of_trail (f := .diagnosed d) rfl verbose
  simp only [ofSource, hFailure, echoAll_rows, hReport]
  rfl

theorem allPrintable_message (cause : Text.Utf8.Cause) :
    Text.allPrintable cause.message.toList = true := by
  cases cause <;> decide

theorem report_undecodable (cause : Text.Utf8.Cause) (verbose : Bool) :
    (Failure.undecodable cause.message).report verbose =
      { stderr := "Error: input is not valid UTF-8 (" ++ cause.message ++ ")\n", exitCode := 2 } := by
  rw [Failure.report_of_trail rfl]
  cases cause <;> decide

theorem answers_ofBytes (name : String) (verbose : Bool) (bytes : List UInt8) :
    Answers name verbose bytes (ofBytes ⟨name, false⟩ verbose bytes) := by
  cases hDecode : Text.Utf8.decode bytes with
  | error malformed =>
    have hText := Text.Utf8.encode_ne_of_decode_eq_error hDecode
    have hShown : ofBytes ⟨name, false⟩ verbose bytes =
        { stderr := "Error: input is not valid UTF-8 (" ++ malformed.cause.message ++ ")\n"
          exitCode := 2 } := by
      simp only [ofBytes, hDecode, report_undecodable]
    constructor
    case refused =>
      intro _
      refine ⟨malformed, hDecode, ?_, hShown⟩
      exact Text.not_mem_of_allPrintable (allPrintable_message malformed.cause) rfl
    case dumped => exact fun text hEncode => absurd hEncode (hText text)
    case diagnosed => exact fun text hEncode => absurd hEncode (hText text)
    case foreseen =>
      rw [hShown]
      exact nofun
  | ok text =>
    have hEncode := Text.Utf8.decode_eq_ok_iff.mp hDecode
    have hShown : ofBytes ⟨name, false⟩ verbose bytes =
        ofSource ⟨name, false⟩ verbose (Text.unifyNewlines text) := by
      simp only [ofBytes, hDecode]
    have hOnly : ∀ text', Text.Utf8.encode text' = bytes → text' = text := by
      intro text' hEncode'
      cases hDecode.symm.trans (Text.Utf8.decode_eq_ok_iff.mpr hEncode')
      rfl
    rw [hShown]
    constructor
    case refused => exact fun hNone => absurd hEncode (hNone text)
    case dumped =>
      intro text' hEncode' tokens hTokens
      cases hOnly text' hEncode'
      exact ofSource_of_ok _ verbose hTokens
    case diagnosed =>
      intro text' hEncode' d hFailed
      cases hOnly text' hEncode'
      refine ⟨_, (Scanner.delivered_of_tokens_eq_error hFailed).2, ?_⟩
      rw [ofSource_of_error _ verbose hFailed]
      exact congrArg (Transcript.mk _ · 1) String.empty_append
    case foreseen =>
      cases hTokens : tokenize (programOf text) none ⟨name, false⟩ with
      | ok tokens =>
        rw [ofSource_of_ok _ verbose hTokens]
        exact nofun
      | error d =>
        rw [ofSource_of_error _ verbose hTokens]
        exact nofun

/-- The exit code tells how a file has been scanned, if it could be read. -/
theorem exists_tokenize_of_exitCode (settings : Settings) (verbose : Bool) {bytes : List UInt8}
    (h : (ofBytes settings verbose bytes).exitCode ≠ 2) :
    ∃ text, Text.Utf8.encode text = bytes ∧
      ofBytes settings verbose bytes = ofSource settings verbose (Text.unifyNewlines text) ∧
      ((ofBytes settings verbose bytes).exitCode = 0 →
        ∃ tokens, tokenize (programOf text) none settings = .ok tokens) ∧
      ((ofBytes settings verbose bytes).exitCode = 1 →
        ∃ d, tokenize (programOf text) none settings = .error d) := by
  cases hDecode : Text.Utf8.decode bytes with
  | error malformed =>
    simp only [ofBytes, hDecode, report_undecodable] at h
    exact absurd rfl h
  | ok text =>
    have hShown : ofBytes settings verbose bytes =
        ofSource settings verbose (Text.unifyNewlines text) := by
      simp only [ofBytes, hDecode]
    refine ⟨text, Text.Utf8.decode_eq_ok_iff.mp hDecode, hShown, ?_⟩
    rw [hShown]
    cases hTokens : tokenize (programOf text) none settings with
    | ok tokens =>
      rw [ofSource_of_ok _ verbose hTokens]
      exact ⟨fun _ => ⟨tokens, rfl⟩, nofun⟩
    | error d =>
      rw [ofSource_of_error _ verbose hTokens]
      exact ⟨nofun, fun _ => ⟨d, rfl⟩⟩

section Request

variable {find : String → Entry} {env : Environment} {path : String} {bytes : List UInt8}
  {arguments : List String} {flags : List Flag}

theorem run_of_file (hFile : Path.Opens find path bytes)
    (hArguments : Arguments.ofList arguments = .ok ⟨flags, [path]⟩)
    (hFlags : ∀ flag ∈ flags, flag = .verbose ∨ flag = .trace) :
    run arguments env find =
      ofBytes ⟨Path.normalize path, (Settings.ofEnvironment env).trace || .trace ∈ flags⟩
        (.verbose ∈ flags) bytes := by
  have hEager : flags.find? Flag.isEager = none := by
    apply List.find?_eq_none.mpr
    intro flag hFlag
    rcases hFlags flag hFlag with rfl | rfl <;> decide
  have hRequest : Request.ofList find arguments =
      .ok (.dump path (.verbose ∈ flags) (.trace ∈ flags)) := by
    rw [Request.ofList, hArguments]
    change Request.ofArguments find ⟨flags, [path]⟩ = _
    simp only [Request.ofArguments, hEager, Request.ofOperands, hFile.typed, if_pos]
  simp only [run, hRequest, ofFile, hFile.normal, Entry.read]

theorem run_of_opens (hFile : Path.Opens find path bytes)
    (hArguments : Arguments.ofList arguments = .ok ⟨flags, [path]⟩)
    (hFlags : ∀ flag ∈ flags, flag = .verbose)
    (hTrace : (Settings.ofEnvironment env).trace = false) :
    run arguments env find = ofBytes ⟨Path.normalize path, false⟩ (.verbose ∈ flags) bytes := by
  have hQuiet : Flag.trace ∉ flags := by
    intro hMem
    cases hFlags _ hMem
  rw [run_of_file hFile hArguments fun flag hFlag => .inl (hFlags flag hFlag), hTrace,
    decide_eq_false hQuiet, Bool.or_false]

theorem run_answers_file (hFile : Path.Opens find path bytes)
    (hArguments : Arguments.ofList arguments = .ok ⟨flags, [path]⟩)
    (hFlags : ∀ flag ∈ flags, flag = .verbose)
    (hTrace : (Settings.ofEnvironment env).trace = false) :
    (∀ t, '\n' ∉ (row t).toList) ∧
      Answers (Path.normalize path) (.verbose ∈ flags) bytes (run arguments env find) := by
  constructor
  · exact newline_not_mem_row
  · rw [run_of_opens hFile hArguments hFlags hTrace]
    exact answers_ofBytes _ _ _

/-- A path with segments that lead nowhere, and a program whose second line has a fault. -/
theorem run_answers_file_with_fault :
    (∀ t, '\n' ∉ (row t).toList) ∧
      Answers (Path.normalize "src//./p.teeny") (Flag.verbose ∈ [Flag.verbose])
        (Text.Utf8.encode "PRINT \"é\"\r\n!x".toList)
        (run ["-v", "src//./p.teeny"] {}
          (FileTree.ofPaths
            [("src/p.teeny", .file (Text.Utf8.encode "PRINT \"é\"\r\n!x".toList))]).find) := by
  have hFind : (FileTree.ofPaths
      [("src/p.teeny", .file (Text.Utf8.encode "PRINT \"é\"\r\n!x".toList))]).find
        "src//./p.teeny" = .file (Text.Utf8.encode "PRINT \"é\"\r\n!x".toList) := by
    generalize Text.Utf8.encode "PRINT \"é\"\r\n!x".toList = bytes
    cbv
  have hArguments : Arguments.ofList ["-v", "src//./p.teeny"] =
      .ok ⟨[.verbose], ["src//./p.teeny"]⟩ := by decide
  exact run_answers_file (FileTree.opens hFind) hArguments (by decide) (by decide)

end Request

end Dump

end TeenyLexer.CommandLine
