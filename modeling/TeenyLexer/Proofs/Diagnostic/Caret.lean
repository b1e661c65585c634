import Mathlib
import TeenyLexer.Proofs.Scanner.Diagnosis
import TeenyLexer.Proofs.Session.Sharing
import TeenyLexer.Proofs.Text.Lines

/-! # The caret of a diagnostic

Every failure of a session is shown on the line of the program on which it was found, with a caret
under the character that it is about. For a string that is not closed this is the line of its quote,
however far the cursor has moved since.
-/

namespace TeenyLexer

namespace Place

/-- The line of a place is the one with its number among the lines of the text. -/
theorem getElem?_splitOn_newline (passed after : List Char) :
    ((passed ++ after).splitOn '\n')[passed.count '\n']? =
      some (lastLine passed ++ after.takeWhile (· ≠ '\n')) := by
  induction passed using List.reverseRecOn generalizing after with
  | nil =>
    rw [List.nil_append, List.count_nil, ← List.head?_eq_getElem?, Text.head?_splitOn_newline]
    rfl
  | append_singleton passed c ih =>
    rw [List.append_assoc, List.singleton_append]
    by_cases hc : c = '\n'
    · subst hc
      have hCount : (passed ++ ['\n']).count '\n' = (passed.splitOn '\n').length := by
        rw [Text.length_splitOn_newline, List.count_append, List.count_singleton_self]
      rw [lastLine_append_newline, List.splitOn_append_cons_of_beq _ _ (beq_self_eq_true _), hCount,
        List.getElem?_append_right le_rfl, Nat.sub_self, ← List.head?_eq_getElem?,
        Text.head?_splitOn_newline]
      rfl
    · have hCount : (passed ++ [c]).count '\n' = passed.count '\n' := by
        simp [List.count_append, hc]
      rw [hCount, ih, lastLine_append_singleton hc, List.takeWhile_cons_of_pos (by simpa using hc)]
      simp

variable {buffer : List Char} {offset : Nat}

theorem newline_not_mem_lineText (buffer : List Char) (offset : Nat) :
    '\n' ∉ lineText buffer offset := by
  intro hNewline
  rcases List.mem_append.mp hNewline with hBefore | hAfter
  · simpa using List.mem_rtakeWhile_imp hBefore
  · simpa using List.mem_takeWhile_imp hAfter

theorem getElem?_splitOn_lineText (buffer : List Char) (offset : Nat) :
    (buffer.splitOn '\n')[line (buffer.take offset) - 1]? = some (lineText buffer offset) := by
  have hLine := getElem?_splitOn_newline (buffer.take offset) (buffer.drop offset)
  rwa [List.take_append_drop] at hLine

/-- The line of a place from its column on. -/
theorem drop_lineText {c : Char} (hc : buffer[offset]? = some c) (hLine : c ≠ '\n') :
    (lineText buffer offset).drop (column (buffer.take offset) - 1) =
      c :: (buffer.drop (offset + 1)).takeWhile (· ≠ '\n') := by
  obtain ⟨hInside, rfl⟩ := List.getElem?_eq_some_iff.mp hc
  rw [column, Nat.add_sub_cancel, lineText, List.drop_left, List.drop_eq_getElem_cons hInside,
    List.takeWhile_cons_of_pos (by simpa using hLine)]

theorem getElem?_lineText {c : Char} (hc : buffer[offset]? = some c) (hLine : c ≠ '\n') :
    (lineText buffer offset)[column (buffer.take offset) - 1]? = some c := by
  rw [← List.head?_drop, drop_lineText hc hLine, List.head?_cons]

/-- What follows on the line, or the newline behind it. -/
theorem getElem?_lineText_getD {c x : Char} (hc : buffer[offset]? = some c) (hLine : c ≠ '\n')
    (hx : buffer[offset + 1]? = some x) :
    (lineText buffer offset)[column (buffer.take offset)]?.getD '\n' = x := by
  have hRest : (lineText buffer offset).drop (column (buffer.take offset)) =
      (buffer.drop (offset + 1)).takeWhile (· ≠ '\n') := by
    have hTail := congrArg List.tail (drop_lineText hc hLine)
    rwa [List.tail_drop, column, Nat.add_sub_cancel, List.tail_cons] at hTail
  rw [← List.head?_drop, hRest, List.head?_takeWhile, List.head?_drop, hx]
  by_cases hNewline : x = '\n' <;> simp [Option.filter, hNewline]

end Place

/-- A fault that is about the character in a column of a line. The column is counted from one. -/
inductive Accuses (sourceLine : List Char) (column : Nat) : Fault → Prop
  | unexpectedCharacter {c : Char} (found : sourceLine[column - 1]? = some c) :
      Accuses sourceLine column (.unexpectedCharacter (.ofChar c))
  | malformedOperator {c : Char} (mark : sourceLine[column - 1]? = some '!')
      (following : sourceLine[column]?.getD '\n' = c) :
      Accuses sourceLine column (.malformedOperator (.ofChar c))
  | unterminatedString (quote : sourceLine[column - 1]? = some '"') :
      Accuses sourceLine column .unterminatedString

theorem FaultAt.accuses {buffer : List Char} {offset : Nat} {fault : Fault}
    (h : FaultAt buffer offset fault) :
    Accuses (Place.lineText buffer offset) (Place.column (buffer.take offset)) fault := by
  cases h with
  | unterminatedString hQuote =>
    exact .unterminatedString (Place.getElem?_lineText hQuote (by decide))
  | malformedOperator hMark hFollowing _ hDescribed =>
    rw [ofString_singleton] at hDescribed
    cases hDescribed
    exact .malformedOperator (Place.getElem?_lineText hMark (by decide))
      (Place.getElem?_lineText_getD hMark (by decide) hFollowing)
  | unexpectedCharacter hFound hMark _ _ hDescribed =>
    rw [ofString_singleton] at hDescribed
    cases hDescribed
    have hLine : ∀ c, c ∉ wordMarks → c ≠ '\n' := by
      rintro c hc rfl
      exact hc List.mem_cons_self
    exact .unexpectedCharacter (Place.getElem?_lineText hFound (hLine _ hMark))

theorem Accuses.inside {sourceLine : List Char} {column : Nat} {fault : Fault}
    (h : Accuses sourceLine column fault) (hColumn : 1 ≤ column) : column ≤ sourceLine.length := by
  have hFound : ∀ c, sourceLine[column - 1]? = some c → column ≤ sourceLine.length := by
    intro c hc
    have hInside := (List.getElem?_eq_some_iff.mp hc).1
    omega
  cases h <;> exact hFound _ ‹_›

theorem Accuses.exists_hint {sourceLine : List Char} {column : Nat} {fault : Fault}
    (h : Accuses sourceLine column fault) : ∃ hint ≠ "", fault.hint = some hint := by
  cases h <;> exact ⟨_, by decide, rfl⟩

/-- A line as a diagnostic shows it, and below it the caret under a column. -/
def shownLine (sourceLine : List Char) : List Char :=
  List.replicate 4 ' ' ++ sourceLine

def caretLine (column : Nat) : List Char :=
  List.replicate (3 + column) ' ' ++ ['^']

theorem getElem?_caretLine (column : Nat) : (caretLine column)[3 + column]? = some '^' := by
  rw [caretLine, List.getElem?_append_right (by simp), List.length_replicate, Nat.sub_self]
  rfl

theorem getElem?_shownLine (sourceLine : List Char) {column : Nat} (hColumn : 1 ≤ column) :
    (shownLine sourceLine)[3 + column]? = sourceLine[column - 1]? := by
  have hIndex : 3 + column - 4 = column - 1 := by omega
  rw [shownLine, List.getElem?_append_right (by simp; omega), List.length_replicate, hIndex]

theorem Diagnostic.message_eq {d : Diagnostic} {filename : String} {line column : Nat}
    {sourceLine : List Char} {hint : String}
    (hLocation : d.location = some ⟨filename, line, column⟩)
    (hSourceLine : d.sourceLine = some (String.ofList sourceLine)) (hColumn : 1 ≤ column)
    (hHint : d.fault.hint = some hint) (hNonempty : hint ≠ "") :
    d.message = String.intercalate "\n"
      [filename ++ ":" ++ toString line ++ ":" ++ toString column ++ ": error: " ++
          d.fault.description,
        String.ofList (shownLine sourceLine), String.ofList (caretLine column),
        "hint: " ++ hint] := by
  have hPositive : (column : Int) > 0 := by omega
  have hPadding : ((indent : Int) + column - 1).toNat = 3 + column := by
    rw [indent]
    omega
  have hHeader : (Location.mk filename line column).text ++ ": " ++
      ("error: " ++ d.fault.description) =
      filename ++ ":" ++ toString line ++ ":" ++ toString column ++ ": error: " ++
        d.fault.description := by
    simp only [Location.text, String.append_assoc]
    rfl
  simp only [message, lines, hLocation, hSourceLine, hHint, exhibit, if_pos hPositive,
    if_neg hNonempty, hPadding, hHeader, shownLine, caretLine, String.ofList_append]
  rfl

/-- What a diagnostic says of a program: where the fault is, what its line holds, and how the line
is printed with the caret below it. -/
structure Exhibits (source : String) (d : Diagnostic) (filename : String) (line column : Nat)
    (text : List Char) (hint : String) : Prop where
  location : d.location = some ⟨filename, line, column⟩
  sourceLine : d.sourceLine = some (String.ofList text)
  oneLine : '\n' ∉ text
  numbered : 1 ≤ line ∧ ((programText source).splitOn '\n')[line - 1]? = some text
  inside : 1 ≤ column ∧ column ≤ text.length
  accuses : Accuses text column d.fault
  hints : d.fault.hint = some hint
  message : d.message = String.intercalate "\n"
    [filename ++ ":" ++ toString line ++ ":" ++ toString column ++ ": error: " ++
        d.fault.description,
      String.ofList (shownLine text), String.ofList (caretLine column), "hint: " ++ hint]
  caret : (caretLine column)[3 + column]? = some '^' ∧
    (shownLine text)[3 + column]? = text[column - 1]?

theorem exhibits_of_faultAt {source : String} {offset : Nat} {d : Diagnostic} {filename : String}
    (hFault : FaultAt (programText source) offset d.fault)
    (hLocation : d.location = some (Place.location filename ((programText source).take offset)))
    (hLine : d.sourceLine = some (String.ofList (Place.lineText (programText source) offset))) :
    ∃ hint, Exhibits source d filename (Place.line ((programText source).take offset))
      (Place.column ((programText source).take offset))
      (Place.lineText (programText source) offset) hint := by
  have hAccuses := hFault.accuses
  obtain ⟨hint, hNonempty, hHint⟩ := hAccuses.exists_hint
  have hColumn : 1 ≤ Place.column ((programText source).take offset) := Nat.le_add_left 1 _
  refine ⟨hint, hLocation, hLine, Place.newline_not_mem_lineText _ _, ?_, ?_, hAccuses, hHint, ?_,
    ?_⟩
  · exact ⟨Nat.le_add_left 1 _, Place.getElem?_splitOn_lineText _ _⟩
  · exact ⟨hColumn, hAccuses.inside hColumn⟩
  · exact Diagnostic.message_eq hLocation hLine hColumn hHint hNonempty
  · exact ⟨getElem?_caretLine _, getElem?_shownLine _ hColumn⟩

namespace Session

theorem filename_perform_of_failure {s : Session} {step : Step} {d : Diagnostic}
    (h : (s.perform step).reply = .failure d) :
    (s.perform step).session.scanner.filename = s.scanner.filename := by
  have hPull : s.scanner.pull.scanner.filename = s.scanner.filename := by rw [Scanner.scanner_pull]
  cases step with
  | next => exact hPull
  | drain =>
    obtain ⟨n, hScanner⟩ := scanner_afterPulls s.scanner
    rw [perform, hScanner]
  | nextOf key =>
    rw [perform]
    split
    · exact hPull
    · rfl
  | advance | peek | openIterator | setTrace | setFilename => cases h

/-- Every failure of every session shows the line of its fault, with the caret under the character
at fault. -/
theorem failure_points_at_fault {source : String} {s : Session} (h : s.Reachable source)
    {step : Step} {d : Diagnostic} (hFails : (s.perform step).reply = .failure d) :
    ∃ offset hint, FaultAt (programText source) offset d.fault ∧
      Exhibits source d s.scanner.filename (Place.line ((programText source).take offset))
        (Place.column ((programText source).take offset))
        (Place.lineText (programText source) offset) hint := by
  obtain ⟨before, hBefore, -, hOutcome, hScanner⟩ := h.exists_pull_of_failure hFails
  have hFilename : before.scanner.filename = s.scanner.filename := by
    rw [← filename_perform_of_failure hFails, hScanner, Scanner.scanner_pull]
  obtain ⟨offset, -, hFault, hLocation, hLine⟩ := (pull_fails_iff_faultAt hBefore d).mp hOutcome
  rw [hFilename] at hLocation
  obtain ⟨hint, hExhibits⟩ := exhibits_of_faultAt hFault hLocation hLine
  exact ⟨offset, hint, hFault, hExhibits⟩

/-- A string over the end of its line, met by a drain behind a step by hand, and an exclamation
mark with nothing but the newline behind it. -/
theorem failure_points_at_quote_and_mark :
    (∃ offset hint, FaultAt (programText "ab  \"c\n%") offset .unterminatedString ∧
      Exhibits "ab  \"c\n%" ⟨.unterminatedString, some ⟨"f", 1, 5⟩, some "ab  \"c"⟩ "f"
        (Place.line ((programText "ab  \"c\n%").take offset))
        (Place.column ((programText "ab  \"c\n%").take offset))
        (Place.lineText (programText "ab  \"c\n%") offset) hint) ∧
    ∃ offset hint, FaultAt (programText "x\n\t!") offset (.malformedOperator (.ofChar '\n')) ∧
      Exhibits "x\n\t!" ⟨.malformedOperator (.ofChar '\n'), some ⟨"<input>", 2, 2⟩, some "\t!"⟩
        "<input>" (Place.line ((programText "x\n\t!").take offset))
        (Place.column ((programText "x\n\t!").take offset))
        (Place.lineText (programText "x\n\t!") offset) hint := by
  have hQuote : (((ofScanner (.ofSource "ab  \"c\n%" none {})).after
      [.advance 1, .setFilename "f"]).perform .drain).reply =
      .failure ⟨.unterminatedString, some ⟨"f", 1, 5⟩, some "ab  \"c"⟩ := by cbv
  have hMark : (((ofScanner (.ofSource "x\n\t!" none {})).after [.next, .next]).perform
      .next).reply =
      .failure ⟨.malformedOperator (.ofChar '\n'), some ⟨"<input>", 2, 2⟩, some "\t!"⟩ := by cbv
  exact ⟨failure_points_at_fault ((Reachable.opened none {}).after _) hQuote,
    failure_points_at_fault ((Reachable.opened none {}).after _) hMark⟩

end Session

end TeenyLexer
