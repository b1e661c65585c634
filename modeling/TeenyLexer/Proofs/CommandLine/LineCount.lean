import Mathlib
import TeenyLexer.Proofs.CommandLine.Summary
import TeenyLexer.Proofs.Text.Lines

/-! # The number of lines in a summary

A summary counts the lines of a program by every line break, and a scanner numbers them by the
newlines alone. The summary shows more lines than the scanner numbers wherever a comment or a string
holds another line break.
-/

namespace TeenyLexer.CommandLine.Dump

open Text

variable {find : String → Entry} {path : String} {bytes : List UInt8} {arguments : List String}
  {flags : List Flag}

/-- The lines that are numbered by the newlines are those up to the end of the input, which stands
on an empty line behind the newline that ends the program. The summary shows one line more for each
other line break that is not the last character of the program. -/
theorem run_counts_every_line_break (hFile : Path.Opens find path bytes)
    (hArguments : Arguments.ofList arguments = .ok ⟨flags, [path]⟩)
    (hFlags : ∀ flag ∈ flags, flag = .verbose ∨ flag = .trace) (hVerbose : .verbose ∈ flags)
    {env : Environment} (hScanned : (run arguments env find).exitCode = 0) :
    ∃ (source : List Char) (tokens before : List Token) (last : Token) (lines : Nat),
      (∃ text, Utf8.encode text = bytes ∧ source = unifyNewlines text) ∧
      tokenize (String.ofList source) none ⟨Path.normalize path, false⟩ = .ok tokens ∧
      (run arguments env find).stdout = rows tokens ++
        (heading (stripControl (Path.normalize path)) tokens.length lines ++
          tableText (countKinds tokens)) ∧
      tokens = before ++ [last] ∧ last.toWord = .endOfInput ∧
      newlineLines source =
        last.location.line - 1 - (if source = [] ∨ source.getLast? = some '\n' then 1 else 0) ∧
      lines = newlineLines source + source.dropLast.countP isOtherBreak ∧
      (lines = newlineLines source ↔
        ∀ c ∈ source.dropLast, isLineBreak c = true → c = '\n') := by
  obtain ⟨text, tokens, hText, hTokens, hStdout⟩ :=
    exists_tokens_of_verbose hFile hArguments hFlags hVerbose hScanned
  have hReturns := return_not_mem_unifyNewlines text
  obtain ⟨before, last, hLast, hEnd, hLine⟩ := exists_end_of_tokenize hTokens
  rw [programOf, String.toList_ofList] at hLine
  refine ⟨unifyNewlines text, tokens, before, last, lineCount (unifyNewlines text),
    ⟨text, hText, rfl⟩, hTokens, hStdout, hLast, hEnd, ?_, lineCount_eq hReturns,
    lineCount_eq_newlineLines_iff hReturns⟩
  have hNumbered := newlineLines_add (unifyNewlines text)
  rw [hLine]
  split at hNumbered <;> rename_i hEnded
  · rw [if_pos hEnded]
    omega
  · rw [if_neg hEnded]
    omega

/-- A form feed in a comment and a line separator in a string, on two lines of three. -/
theorem run_counts_every_line_break_of_separators :
    let bytes := Utf8.encode "# 1\x0c\r\nLET s = \"\u2028\"\r\nPRINT s".toList
    let shown := run ["-v", "p.teeny"] {} (FileTree.ofPaths [("p.teeny", .file bytes)]).find
    ∃ (tokens before : List Token) (last : Token),
      shown.stdout = rows tokens ++
        (heading "p.teeny" tokens.length 5 ++ tableText (countKinds tokens)) ∧
      tokens = before ++ [last] ∧ last.toWord = .endOfInput ∧ last.location.line - 1 = 3 := by
  intro bytes shown
  have hFile : Path.Opens (FileTree.ofPaths [("p.teeny", .file bytes)]).find "p.teeny" bytes :=
    FileTree.opens_singleton "p.teeny" bytes (by decide) (by decide) (by decide) (by decide)
  have hArguments : Arguments.ofList ["-v", "p.teeny"] = .ok ⟨[.verbose], ["p.teeny"]⟩ := by decide
  have hTokens : tokenize (programOf "# 1\x0c\r\nLET s = \"\u2028\"\r\nPRINT s".toList) none
      ⟨Path.normalize "p.teeny", false⟩ = .ok
      [⟨⟨.newline, "\n"⟩, ⟨"p.teeny", 1, 5⟩⟩, ⟨⟨.keyword .let, "LET"⟩, ⟨"p.teeny", 2, 1⟩⟩,
        ⟨⟨.identifier, "s"⟩, ⟨"p.teeny", 2, 5⟩⟩, ⟨⟨.operator .assign, "="⟩, ⟨"p.teeny", 2, 7⟩⟩,
        ⟨⟨.string, "\u2028"⟩, ⟨"p.teeny", 2, 9⟩⟩, ⟨⟨.newline, "\n"⟩, ⟨"p.teeny", 2, 12⟩⟩,
        ⟨⟨.keyword .print, "PRINT"⟩, ⟨"p.teeny", 3, 1⟩⟩, ⟨⟨.identifier, "s"⟩, ⟨"p.teeny", 3, 7⟩⟩,
        ⟨⟨.newline, "\n"⟩, ⟨"p.teeny", 3, 8⟩⟩, ⟨.endOfInput, ⟨"p.teeny", 4, 1⟩⟩] := by cbv
  obtain ⟨hScanned, -⟩ :=
    run_of_tokenize_eq_ok hTokens hFile hArguments (by decide) (by decide) {}
  obtain ⟨_, tokens, before, last, lines, ⟨text, hText, rfl⟩, -, hStdout, hLast, hEnd, hNumbered,
    hLines, -⟩ := run_counts_every_line_break hFile hArguments (by decide) (by decide) hScanned
  obtain rfl := Utf8.encode_injective hText
  have hShown : lines = 5 := hLines.trans (by decide)
  have hThree :
      newlineLines (unifyNewlines "# 1\x0c\r\nLET s = \"\u2028\"\r\nPRINT s".toList) = 3 := by
    decide
  rw [hShown] at hStdout
  rw [hThree, if_neg (by decide), sub_zero] at hNumbered
  exact ⟨tokens, before, last, hStdout, hLast, hEnd, hNumbered.symm⟩

/-- A form feed in a comment counts as the end of a line, and no newline tells that line apart. -/
theorem run_counts_form_feed_of_comment :
    (run ["-v", "p.teeny"] {}
        (FileTree.ofPaths [("p.teeny", .file (Utf8.encode "# a\x0cb\n".toList))]).find).stdout =
      "1:6      NEWLINE         '\\n'\n2:1      NEWLINE         '\\n'\n3:1      END_OF_INPUT\n" ++
        ("\nScanned p.teeny: 3 tokens, 2 lines\n" ++
          "  END_OF_INPUT    1\n  NEWLINE         2\n") ∧
      newlineLines "# a\x0cb\n".toList = 1 := by
  have hFile := FileTree.opens_singleton "p.teeny" (Utf8.encode "# a\x0cb\n".toList)
    (by decide) (by decide) (by decide) (by decide)
  have hArguments : Arguments.ofList ["-v", "p.teeny"] = .ok ⟨[.verbose], ["p.teeny"]⟩ := by decide
  let tokens : List Token := [⟨⟨.newline, "\n"⟩, ⟨"p.teeny", 1, 6⟩⟩,
    ⟨⟨.newline, "\n"⟩, ⟨"p.teeny", 2, 1⟩⟩, ⟨.endOfInput, ⟨"p.teeny", 3, 1⟩⟩]
  have hTokens : tokenize (programOf "# a\x0cb\n".toList) none ⟨Path.normalize "p.teeny", false⟩ =
      .ok tokens := by cbv
  have hRows : rows tokens =
      "1:6      NEWLINE         '\\n'\n2:1      NEWLINE         '\\n'\n3:1      END_OF_INPUT\n" :=
    by cbv
  have hHeading : heading (stripControl (Path.normalize "p.teeny")) tokens.length
      (lineCount (unifyNewlines "# a\x0cb\n".toList)) =
      "\nScanned p.teeny: 3 tokens, 2 lines\n" := by cbv
  have hTable : tableText (countKinds tokens) =
      "  END_OF_INPUT    1\n  NEWLINE         2\n" := by cbv
  obtain ⟨-, hStdout⟩ := run_of_tokenize_eq_ok hTokens hFile hArguments (by decide) (by decide) {}
  rw [hRows, hHeading, hTable] at hStdout
  exact ⟨hStdout, by decide⟩

end TeenyLexer.CommandLine.Dump
