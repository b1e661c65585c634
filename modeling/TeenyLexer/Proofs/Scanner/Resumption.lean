import Mathlib
import TeenyLexer.Proofs.Scanner.Concatenation
import TeenyLexer.Proofs.Scanner.Reachable
import TeenyLexer.Proofs.Session.Sharing

/-! # Scans that are resumed

A scanner in the middle of a program answers as a fresh one does that is given the rest. Whatever
has happened before, only the places differ: on the first line of the rest they are moved right, and
on all lines they are moved down.
-/

namespace TeenyLexer

open Reading

/-- A place in a text that stands behind some other text, by the place at which that text ends. -/
def Location.behind (start l : Location) : Location where
  filename := start.filename
  line := l.line + start.line - 1
  column := if l.line = 1 then l.column + start.column - 1 else l.column

/-- The outcomes of a scan and of the same scan behind some other text. The source line is that of
the whole program and may begin earlier. -/
inductive MovedBehind (start : Location) :
    Except Diagnostic Token → Except Diagnostic Token → Prop
  | token (word : Word) (l : Location) :
      MovedBehind start (.ok ⟨word, l⟩) (.ok ⟨word, start.behind l⟩)
  | failure (fault : Fault) (l : Location) (shown shown' : Option String) :
      MovedBehind start (.error ⟨fault, some l, shown⟩)
        (.error ⟨fault, some (start.behind l), shown'⟩)

namespace Place

theorem lastLine_append_of_mem {more : List Char} (hMore : '\n' ∈ more) (passed : List Char) :
    lastLine (passed ++ more) = lastLine more := by
  induction more using List.reverseRecOn with
  | nil => cases hMore
  | append_singleton more c ih =>
    rw [← List.append_assoc]
    by_cases hc : c = '\n'
    · rw [hc, lastLine_append_newline, lastLine_append_newline]
    · have hInside : '\n' ∈ more := by simpa [Ne.symm hc] using hMore
      rw [lastLine_append_singleton hc, lastLine_append_singleton hc, ih hInside]

theorem location_append (filename filename' : String) (passed more : List Char) :
    location filename (passed ++ more) =
      (location filename passed).behind (location filename' more) := by
  have hLine : line (passed ++ more) + 1 = line more + line passed := by
    simp only [line, List.count_append]
    omega
  by_cases hMore : '\n' ∈ more
  · have hBelow : line more ≠ 1 := by
      have hCount := List.count_pos_iff.mpr hMore
      rw [line]
      omega
    have hColumn : column (passed ++ more) = column more := by
      rw [column, lastLine_append_of_mem hMore, column]
    simp only [location, Location.behind, hColumn, Nat.cast_eq_one, hBelow, if_false,
      Location.mk.injEq, true_and, and_true]
    omega
  · have hFirst : line more = 1 := by rw [line, List.count_eq_zero.mpr hMore]
    have hColumn : column (passed ++ more) + 1 = column more + column passed := by
      have hAlone := column_append_of_not_mem hMore []
      rw [List.nil_append] at hAlone
      rw [column_append_of_not_mem hMore, hAlone]
      simp only [column, lastLine, List.rtakeWhile_nil, List.length_nil]
      omega
    simp only [location, Location.behind, hFirst, Nat.cast_one, if_true, Location.mk.injEq, true_and]
    omega

end Place

namespace Scanner

variable {s s' : Scanner} {passed text : List Char}

theorem stride_congr (h : s.cursor.rest = s'.cursor.rest) : s.stride = s'.stride := by
  rw [stride, stride, Cursor.rest_skipLayout, Cursor.rest_skipLayout, h]

theorem movedBehind_outcome (hCursor : s.cursor = .between passed text)
    (hCursor' : s'.cursor = .between [] text) :
    MovedBehind (Place.location s.filename passed) s'.pull.outcome s.pull.outcome := by
  have hPlace := Place.location_append s.filename s'.filename passed
  cases hRead : ofText (text.drop (layout text).length) with
  | word kind spelling =>
    rw [outcome_pull_of_word hCursor hRead, outcome_pull_of_word hCursor' hRead, hPlace]
    exact .token _ _
  | fault fault =>
    rw [outcome_pull_of_fault hCursor hRead, outcome_pull_of_fault hCursor' hRead, hPlace]
    exact .failure _ _ _ _
  | endOfInput =>
    rw [outcome_pull_of_endOfInput hCursor hRead, outcome_pull_of_endOfInput hCursor' hRead, hPlace]
    exact .token _ _

theorem cursor_pull_of_between (hCursor : s.cursor = .between passed text)
    (hCursor' : s'.cursor = .between [] text) :
    s.pull.scanner.cursor.position = passed.length + s'.pull.scanner.cursor.position ∧
      s.pull.scanner.cursor.location s.filename =
        (Place.location s.filename passed).behind
          (s'.pull.scanner.cursor.location s'.filename) := by
  have hStride : s'.stride = s.stride := by
    apply stride_congr
    rw [hCursor, hCursor', Cursor.rest_between, Cursor.rest_between]
  rw [scanner_pull, scanner_pull, hStride, hCursor, hCursor', Cursor.between, Cursor.between,
    Cursor.advanceBy_atOffset, Cursor.advanceBy_atOffset]
  constructor
  · simp only [Cursor.atOffset, List.length_nil, Nat.zero_add]
  · simp only [Cursor.location_atOffset, List.take_length_add_append]
    rw [← Place.location_append]
    rfl

end Scanner

theorem programText_drop {source : String} {n : Nat} (h : n ≤ source.length) :
    programText (String.ofList (source.toList.drop n)) = (programText source).drop n := by
  rw [programText, programText, String.toList_ofList, List.drop_append_of_le_length]
  rwa [String.length_toList]

/-- Inside a program every pull is the first pull of a scanner for what is left of it. -/
theorem pull_resumes {source : String} {s : Session} (h : s.Reachable source)
    (hInside : s.scanner.cursor.position ≤ source.length) (filename : Option String)
    (settings : Settings) :
    let start := s.scanner.cursor.location s.scanner.filename
    let fresh := Scanner.ofSource
      (String.ofList (source.toList.drop s.scanner.cursor.position)) filename settings
    MovedBehind start fresh.pull.outcome s.scanner.pull.outcome ∧
      s.scanner.pull.scanner.cursor.position =
        s.scanner.cursor.position + fresh.pull.scanner.cursor.position ∧
      s.scanner.pull.scanner.cursor.location s.scanner.filename =
        start.behind (fresh.pull.scanner.cursor.location fresh.filename) := by
  intro start fresh
  have hBuffer : s.scanner.cursor.position ≤ (programText source).length := by
    rw [length_programText]
    omega
  have hCursor := h.cursor_eq
  rw [Cursor.atOffset_eq_between hBuffer] at hCursor
  have hFresh : fresh.cursor =
      .between [] ((programText source).drop s.scanner.cursor.position) := by
    rw [← programText_drop hInside]
    exact (Cursor.atOffset_zero _).symm
  have hStart : start = Place.location s.scanner.filename
      ((programText source).take s.scanner.cursor.position) := by
    change s.scanner.cursor.location s.scanner.filename = _
    conv => lhs; rw [hCursor]
    rw [Cursor.location_between]
  have hLength : ((programText source).take s.scanner.cursor.position).length =
      s.scanner.cursor.position := List.length_take_of_le hBuffer
  have hAfter := Scanner.cursor_pull_of_between hCursor hFresh
  rw [hLength] at hAfter
  rw [hStart]
  exact ⟨Scanner.movedBehind_outcome hCursor hFresh, hAfter⟩

/-- The steps before have led into the string and past the newline in it, so that its closing quote
opens another one. A fresh scanner of the rest fails at its first character, this one at the second
character of the second line, and both take all that is left. -/
theorem pull_resumes_inside_string :
    ((Session.ofScanner (.ofSource "x \"a\nb\" @" none {})).after
        [.next, .advance 3, .next, .next]).scanner.cursor.position ≤ "x \"a\nb\" @".length ∧
      MovedBehind ⟨"<input>", 2, 2⟩ (Scanner.ofSource "\" @" (some "rest") {}).pull.outcome
        ((Session.ofScanner (.ofSource "x \"a\nb\" @" none {})).after
          [.next, .advance 3, .next, .next]).scanner.pull.outcome ∧
      ((Session.ofScanner (.ofSource "x \"a\nb\" @" none {})).after
          [.next, .advance 3, .next, .next]).scanner.pull.scanner.cursor.position =
        6 + (Scanner.ofSource "\" @" (some "rest") {}).pull.scanner.cursor.position := by
  have hReached : ((Session.ofScanner (.ofSource "x \"a\nb\" @" none {})).after
      [.next, .advance 3, .next, .next]).Reachable "x \"a\nb\" @" :=
    (Session.Reachable.opened none {}).after _
  have hPosition : ((Session.ofScanner (.ofSource "x \"a\nb\" @" none {})).after
      [.next, .advance 3, .next, .next]).scanner.cursor.position = 6 := by cbv
  have hStart : ((Session.ofScanner (.ofSource "x \"a\nb\" @" none {})).after
      [.next, .advance 3, .next, .next]).scanner.cursor.location
        ((Session.ofScanner (.ofSource "x \"a\nb\" @" none {})).after
          [.next, .advance 3, .next, .next]).scanner.filename = ⟨"<input>", 2, 2⟩ := by cbv
  have hInside : ((Session.ofScanner (.ofSource "x \"a\nb\" @" none {})).after
      [.next, .advance 3, .next, .next]).scanner.cursor.position ≤ "x \"a\nb\" @".length := by
    rw [hPosition]
    decide
  have hRest : String.ofList ("x \"a\nb\" @".toList.drop 6) = "\" @" := by decide
  obtain ⟨hOutcome, hAfter, -⟩ := pull_resumes hReached hInside (some "rest") {}
  rw [hPosition, hRest] at hOutcome hAfter
  rw [hStart] at hOutcome
  exact ⟨hInside, hOutcome, hAfter⟩

end TeenyLexer
