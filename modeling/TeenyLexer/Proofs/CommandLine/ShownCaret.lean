import Mathlib
import TeenyLexer.Proofs.CommandLine.FileDump
import TeenyLexer.Proofs.Diagnostic.Printable
import TeenyLexer.Proofs.Scanner.Escapes

/-! # The caret on the terminal

A diagnostic puts its caret under the character at fault. The command takes control sequences out of
what it shows, after the caret has been placed. So the caret stays under that character as long as
no control sequence is in front of it on its line, whatever follows; and it stands too far to the
right by all that is taken out in front.
-/

namespace TeenyLexer

open Reading Text

/-- A line with a character at fault behind `before`, and what is printed of it. -/
structure PrintsLine (before after printed : List Char) (removed : Nat) : Prop where
  parts : printed = stripControlAfter 0 before ++ stripControlAfter 0 after
  length : (stripControlAfter 0 before).length + removed = before.length
  /-- The character at fault is printed further left by what has been taken out before it, or is
  taken out with a control sequence that it begins. -/
  place : controlSequenceLength after = 0 →
    (shownLine printed)[4 + before.length - removed]? = after.head?
  unmoved_iff : removed = 0 ↔ stripControlAfter 0 before = before
  aligned : '\x1b' ∉ before → '\x1b' ∉ after.head? →
    (shownLine printed)[4 + before.length]? = after.head?

theorem getElem?_shownLine_stripControl (before : List Char) {after : List Char}
    (h : controlSequenceLength after = 0) :
    (shownLine (stripControlAfter 0 before ++ stripControlAfter 0 after))[
      4 + (stripControlAfter 0 before).length]? = after.head? := by
  have hIndex : 4 + (stripControlAfter 0 before).length =
      (List.replicate 4 ' ' ++ stripControlAfter 0 before).length := by
    rw [List.length_append, List.length_replicate]
  rw [shownLine, ← List.append_assoc, hIndex, List.getElem?_append_right le_rfl, Nat.sub_self,
    ← List.head?_eq_getElem?]
  cases after with
  | nil => rfl
  | cons c after =>
    rw [stripControlAfter_cons h]
    rfl

theorem ClosesEscapes.printsLine {before : List Char} (h : ClosesEscapes before)
    (after : List Char) :
    ∃ removed, PrintsLine before after (stripControlAfter 0 (before ++ after)) removed := by
  have hSublist := stripControlAfter_sublist 0 before
  obtain ⟨removed, hRemoved⟩ := Nat.exists_eq_add_of_le hSublist.length_le
  rw [stripControlAfter_append_of_closesEscapes h]
  refine ⟨removed, rfl, hRemoved.symm, ?_, ?_, ?_⟩
  · intro hPlain
    have hIndex : 4 + before.length - removed = 4 + (stripControlAfter 0 before).length := by omega
    rw [hIndex, getElem?_shownLine_stripControl before hPlain]
  · constructor
    · intro hNone
      exact hSublist.eq_of_length (by omega)
    · intro hSame
      rw [hSame] at hRemoved
      omega
  · intro hEscape hHead
    have hPlain : controlSequenceLength after = 0 := by
      cases after with
      | nil => rfl
      | cons c after =>
        apply controlSequenceLength_eq_zero
        rintro rfl
        exact hHead rfl
    have hShown := getElem?_shownLine_stripControl before hPlain
    rwa [stripControlAfter_of_not_mem hEscape] at hShown ⊢

/-- A message as it is printed has four lines. -/
theorem Exhibits.exists_printed_lines {source : String} {d : Diagnostic} {filename : String}
    {line column : Nat} {text : List Char} {hint : String}
    (h : Exhibits source d filename line column text hint)
    (hName : allPrintable filename.toList = true) :
    ∃ lines, lines =
        [filename ++ ":" ++ toString line ++ ":" ++ toString column ++ ": error: " ++
            d.fault.description,
          String.ofList (shownLine (stripControlAfter 0 text)), String.ofList (caretLine column),
          "hint: " ++ hint] ∧
      (∀ shown ∈ lines, '\n' ∉ shown.toList) ∧
      stripControl d.message = String.intercalate "\n" lines := by
  have hHeader := h.allPrintable_header hName
  have hHint := h.allPrintable_hintLine
  have hSpaces : '\x1b' ∉ List.replicate 4 ' ' := by decide
  have hLine : stripControl (String.ofList (shownLine text)) =
      String.ofList (shownLine (stripControlAfter 0 text)) := by
    rw [stripControl, String.toList_ofList, shownLine, stripControlAfter_append_of_not_mem hSpaces,
      shownLine]
  have hCaret : ∀ c, c ≠ ' ' → c ≠ '^' → c ∉ (String.ofList (caretLine column)).toList := by
    intro c hSpace hMark
    simp [caretLine, hSpace, hMark]
  refine ⟨_, rfl, ?_, ?_⟩
  · have hShown : '\n' ∉ (String.ofList (shownLine (stripControlAfter 0 text))).toList := by
      rw [String.toList_ofList, shownLine, List.mem_append, not_or]
      exact ⟨by decide, fun hNewline =>
        h.oneLine ((stripControlAfter_sublist 0 text).subset hNewline)⟩
    simp only [List.forall_mem_cons]
    exact ⟨not_mem_of_allPrintable hHeader rfl, hShown, hCaret _ (by decide) (by decide),
      not_mem_of_allPrintable hHint rfl, List.forall_mem_nil _⟩
  · rw [h.message, stripControl_intercalate]
    simp only [List.map_cons, List.map_nil, hLine,
      stripControl_of_not_mem (not_mem_of_allPrintable hHeader rfl),
      stripControl_of_not_mem (hCaret _ (by decide) (by decide)),
      stripControl_of_not_mem (not_mem_of_allPrintable hHint rfl)]

/-- A failed run shows its line from what has been passed of it on. -/
theorem exists_exhibits_of_tokenize {source : String} {filename : Option String}
    {settings : Settings} {d : Diagnostic}
    (h : tokenize source filename settings = .error d) :
    ∃ line before after hint, ClosesEscapes before ∧
      Exhibits source d (Settings.filenameOr settings.filename filename) line (before.length + 1)
        (before ++ after) hint := by
  have hCursor : (Scanner.ofSource source filename settings).cursor =
      .between [] (programText source) := (Cursor.atOffset_zero _).symm
  obtain ⟨passed, rest, hSplit, hEscapes, hFault, hLocation, hLine⟩ :=
    Scanner.exists_passed_of_tokens_eq_error hCursor (terminated_programText source)
      (closesEscapes_of_not_mem List.not_mem_nil) h
  rw [List.nil_append] at hSplit
  have hTake : (programText source).take passed.length = passed := by
    rw [hSplit, List.take_left]
  have hDrop : (programText source).drop passed.length = rest := by
    rw [hSplit, List.drop_left]
  have hText : Place.lineText (programText source) passed.length =
      Place.lastLine passed ++ rest.takeWhile (· ≠ '\n') := by
    rw [Place.lineText, hTake, hDrop]
  have hAt : FaultAt (programText source) passed.length d.fault := by
    rw [← ofText_drop_eq_fault_iff ((terminated_programText source).drop _), hDrop, hFault]
  obtain ⟨hint, hExhibits⟩ := exhibits_of_faultAt hAt (by rw [hTake]; exact hLocation)
    (by rw [hText, hLine])
  rw [hTake, hText] at hExhibits
  refine ⟨_, Place.lastLine passed, _, hint, ?_, hExhibits⟩
  have hPassed : passed.rdropWhile (· ≠ '\n') ++ Place.lastLine passed = passed :=
    List.rdropWhile_append_rtakeWhile
  rw [← hPassed] at hEscapes
  exact hEscapes.of_append

namespace CommandLine.Dump

variable {find : String → Entry} {path : String} {bytes : List UInt8} {arguments : List String}
  {flags : List Flag}

theorem run_of_tokenize_eq_error {text : List Char} {d : Diagnostic}
    (hTokens : tokenize (programOf text) none ⟨Path.normalize path, false⟩ = .error d)
    (hFile : Path.Opens find path (Utf8.encode text))
    (hArguments : Arguments.ofList arguments = .ok ⟨flags, [path]⟩)
    (hFlags : ∀ flag ∈ flags, flag = .verbose) (env : Environment)
    (hTrace : (Settings.ofEnvironment env).trace = false) :
    (run arguments env find).exitCode = 1 ∧
      (run arguments env find).stderr = stripControl d.message ++ "\n" := by
  rw [run_of_opens hFile hArguments hFlags hTrace, ofBytes, Utf8.decode_eq_ok_iff.mpr rfl]
  simp only [ofSource_of_error _ _ hTokens]
  exact ⟨trivial, String.empty_append⟩

/-- A failed run that is not traced prints four lines. The caret is under the character at fault, or
as many columns to the right of it as characters have been taken out before it. -/
theorem run_prints_caret (hFile : Path.Opens find path bytes)
    (hArguments : Arguments.ofList arguments = .ok ⟨flags, [path]⟩)
    (hFlags : ∀ flag ∈ flags, flag = .verbose) (env : Environment)
    (hTrace : (Settings.ofEnvironment env).trace = false)
    (hPath : allPrintable path.toList = true) (hFails : (run arguments env find).exitCode = 1) :
    ∃ text d line before after hint printed removed lines, Utf8.encode text = bytes ∧
      tokenize (programOf text) none ⟨Path.normalize path, false⟩ = .error d ∧
      Exhibits (programOf text) d (Path.normalize path) line (before.length + 1) (before ++ after)
        hint ∧
      PrintsLine before after printed removed ∧
      lines =
        [Path.normalize path ++ ":" ++ toString line ++ ":" ++ toString (before.length + 1) ++
            ": error: " ++ d.fault.description,
          String.ofList (shownLine printed), String.ofList (caretLine (before.length + 1)),
          "hint: " ++ hint] ∧
      (∀ shown ∈ lines, '\n' ∉ shown.toList) ∧
      (run arguments env find).stderr = String.intercalate "\n" lines ++ "\n" := by
  rw [run_of_opens hFile hArguments hFlags hTrace] at hFails
  obtain ⟨text, rfl, -, -, hError⟩ := exists_tokenize_of_exitCode _ _ (by
    rw [hFails]
    decide)
  obtain ⟨d, hTokens⟩ := hError hFails
  obtain ⟨line, before, after, hint, hEscapes, hExhibits⟩ := exists_exhibits_of_tokenize hTokens
  obtain ⟨removed, hPrints⟩ := ClosesEscapes.printsLine hEscapes after
  obtain ⟨lines, hLines, hNewlines, hPrinted⟩ :=
    hExhibits.exists_printed_lines (Path.allPrintable_normalize hPath)
  refine ⟨text, d, line, before, after, hint, _, removed, lines, rfl, hTokens, hExhibits, hPrints,
    hLines, hNewlines, ?_⟩
  rw [(run_of_tokenize_eq_error hTokens hFile hArguments hFlags env hTrace).2, hPrinted]

/-- A control sequence in a string in front of the fault, and one behind it. -/
theorem run_prints_caret_behind_sequence :
    let shown := run ["p.teeny"] {} (FileTree.ofPaths
      [("p.teeny", .file (Utf8.encode "\"\x1b[1;31m\"%\x1b[0m\n".toList))]).find
    ∃ printed removed, PrintsLine "\"\x1b[1;31m\"".toList "%\x1b[0m".toList printed removed ∧
      removed = 7 ∧
      shown.stderr = String.intercalate "\n"
        ["p.teeny:1:10: error: unexpected character '%'", String.ofList (shownLine printed),
          String.ofList (caretLine 10),
          "hint: only letters, digits, '\"', '#' and the operators + - * / = < > ! start a token"]
        ++ "\n" := by
  intro shown
  have hFile := FileTree.opens_singleton "p.teeny" (Utf8.encode "\"\x1b[1;31m\"%\x1b[0m\n".toList)
    (by decide) (by decide) (by decide) (by decide)
  have hArguments : Arguments.ofList ["p.teeny"] = .ok ⟨[], ["p.teeny"]⟩ := by decide
  have hTokens : tokenize (programOf "\"\x1b[1;31m\"%\x1b[0m\n".toList) none
      ⟨Path.normalize "p.teeny", false⟩ = .error ⟨.unexpectedCharacter (.ofChar '%'),
        some ⟨"p.teeny", 1, 10⟩, some "\"\x1b[1;31m\"%\x1b[0m"⟩ := by cbv
  obtain ⟨hFails, -⟩ :=
    run_of_tokenize_eq_error hTokens hFile hArguments (by decide) {} rfl
  obtain ⟨text, d, line, before, after, hint, printed, removed, lines, hText, hError, hExhibits,
    hPrints, rfl, -, hStderr⟩ := run_prints_caret hFile hArguments (by decide) {}
      rfl (by decide) hFails
  obtain rfl := Utf8.encode_injective hText
  cases hTokens.symm.trans hError
  obtain ⟨rfl, hColumn⟩ : line = 1 ∧ before.length = 9 := by
    have hLocation := Option.some.inj hExhibits.location
    have hLine : (1 : Int) = line := congrArg Location.line hLocation
    have hColumn : (10 : Int) = (before.length + 1 : Nat) := congrArg Location.column hLocation
    omega
  have hSplit : "\"\x1b[1;31m\"".toList ++ "%\x1b[0m".toList = before ++ after := by
    have hSource := congrArg String.toList (Option.some.inj hExhibits.sourceLine)
    exact hSource.trans String.toList_ofList
  obtain ⟨rfl, rfl⟩ := List.append_inj hSplit hColumn.symm
  have hStripped : stripControlAfter 0 "\"\x1b[1;31m\"".toList = ['"', '"'] := by decide
  have hHint : hint =
      "only letters, digits, '\"', '#' and the operators + - * / = < > ! start a token" :=
    (Option.some.inj hExhibits.hints).symm
  have hHeader : Path.normalize "p.teeny" ++ ":" ++ toString 1 ++ ":" ++ toString (9 + 1) ++
      ": error: " ++ (Fault.unexpectedCharacter (.ofChar '%')).description =
      "p.teeny:1:10: error: unexpected character '%'" := by
    rw [Fault.description_unexpectedCharacter]
    cbv
  refine ⟨printed, removed, hPrints, ?_, ?_⟩
  · have hLength := hPrints.length
    rw [hStripped, hColumn] at hLength
    exact Nat.add_left_cancel hLength
  · rw [hColumn, hHeader, hHint] at hStderr
    exact hStderr

/-- The sequence is taken out of the string in front of the fault, and the caret stands behind all
that is left of the line. -/
theorem run_prints_caret_beside_fault :
    (run ["p.teeny"] {} (FileTree.ofPaths
        [("p.teeny", .file (Utf8.encode "\"\x1b[31m\" @".toList))]).find).stderr =
      "p.teeny:1:9: error: unexpected character '@'\n    \"\" @\n            ^\n" ++
        "hint: only letters, digits, '\"', '#' and the operators + - * / = < > ! start a token\n" ∧
      "            ^".toList[12]? = some '^' ∧ "    \"\" @".toList[12]? ≠ some '@' := by
  have hFile := FileTree.opens_singleton "p.teeny" (Utf8.encode "\"\x1b[31m\" @".toList)
    (by decide) (by decide) (by decide) (by decide)
  have hArguments : Arguments.ofList ["p.teeny"] = .ok ⟨[], ["p.teeny"]⟩ := by decide
  let d : Diagnostic := ⟨.unexpectedCharacter (.ofChar '@'), some ⟨"p.teeny", 1, 9⟩,
    some "\"\x1b[31m\" @"⟩
  have hTokens : tokenize (programOf "\"\x1b[31m\" @".toList) none
      ⟨Path.normalize "p.teeny", false⟩ = .error d := by cbv
  have hPlace : d.location = some ⟨"p.teeny", (1 : Nat), (9 : Nat)⟩ := rfl
  have hLine : d.sourceLine = some (String.ofList "\"\x1b[31m\" @".toList) := rfl
  have hHint : d.fault.hint = some
      "only letters, digits, '\"', '#' and the operators + - * / = < > ! start a token" := rfl
  have hDescribed :
      d.fault.description = "unexpected character " ++ (Excerpt.ofChar '@').describe :=
    Fault.description_unexpectedCharacter _
  have hMessage := Diagnostic.message_eq hPlace hLine (by decide) hHint (by decide)
  rw [hDescribed] at hMessage
  obtain ⟨-, hStderr⟩ :=
    run_of_tokenize_eq_error hTokens hFile hArguments (by decide) {} rfl
  refine ⟨?_, by decide, by decide⟩
  rw [hStderr, hMessage]
  cbv

end CommandLine.Dump

end TeenyLexer
