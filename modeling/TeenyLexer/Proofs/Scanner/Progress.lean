import Mathlib
import TeenyLexer.Proofs.Scanner.Concatenation
import TeenyLexer.Proofs.Scanner.Reachable

/-! # Progress

Before the end of a program every pull that does not fail takes a word, and so moves the cursor
behind its place, though never behind the end. A program is used up by as many pulls as it has
characters, with the newline that is added and the end of the input counted in. That is enough even
for one who goes on behind every failure.
-/

namespace TeenyLexer

/-- The line and the column of a location, the line being compared first. -/
def Location.key (l : Location) : Int ×ₗ Int :=
  toLex (l.line, l.column)

/-- Going on from a place leads to a later one. -/
theorem Place.key_lt_append {more : List Char} (hMore : more ≠ []) (filename filename' : String)
    (passed : List Char) :
    (location filename passed).key < (location filename' (passed ++ more)).key := by
  have hLength := List.length_pos_iff.mpr hMore
  apply Prod.Lex.toLex_lt_toLex.mpr
  simp only [location]
  by_cases hNewline : '\n' ∈ more
  · have hCount := List.count_pos_iff.mpr hNewline
    rw [line_append]
    omega
  · rw [line_append, List.count_eq_zero.mpr hNewline, column_append_of_not_mem hNewline]
    omega

theorem Place.key_lt_take {buffer : List Char} {o o' : Nat} (h : o < o') (ho' : o' ≤ buffer.length)
    (filename filename' : String) :
    (location filename (buffer.take o)).key < (location filename' (buffer.take o')).key := by
  obtain ⟨n, rfl⟩ := Nat.exists_eq_add_of_le h.le
  rw [List.take_add]
  apply key_lt_append
  intro hNone
  have hLength := congrArg List.length hNone
  simp only [List.length_take, List.length_drop, List.length_nil] at hLength
  omega

namespace Scanner

/-- A scanner whose cursor is one character further. -/
def stepOver (s : Scanner) : Scanner :=
  { s with cursor := s.cursor.advance }

/-- Pulling up to the end of the input, where a failure is answered by stepping over the character
under the cursor. The number is that of the pulls. -/
inductive Recovers : Scanner → Nat → Prop
  | ended {s : Scanner} {t : Token} (outcome : s.pull.outcome = .ok t)
      (ends : t.kind = .endOfInput) : Recovers s 1
  | word {s : Scanner} {t : Token} {n : Nat} (outcome : s.pull.outcome = .ok t)
      (inner : t.kind ≠ .endOfInput) (more : Recovers s.pull.scanner n) : Recovers s (n + 1)
  | failed {s : Scanner} {d : Diagnostic} {n : Nat} (outcome : s.pull.outcome = .error d)
      (more : Recovers s.pull.scanner.stepOver n) : Recovers s (n + 1)

variable {s : Scanner} {t : Token} {d : Diagnostic} {buffer : List Char} {offset : Nat}

/-- Inside of the program there is a word between the offset and the end. -/
theorem pull_of_inside (hCursor : s.cursor = .atOffset buffer offset) (hBuffer : Terminated buffer)
    (hInside : offset < buffer.length) (hOutcome : s.pull.outcome = .ok t) :
    t.kind ≠ .endOfInput ∧ ∃ start stop, offset ≤ start ∧ start < stop ∧ stop ≤ buffer.length ∧
      t.location = Place.location s.filename (buffer.take start) ∧
      s.pull.scanner.cursor = .atOffset buffer stop := by
  have hSplit := List.take_append_drop offset buffer
  have hLength : (buffer.take offset).length = offset := List.length_take_of_le hInside.le
  have hText := hBuffer.drop offset
  rw [Cursor.atOffset_eq_between hInside.le] at hCursor
  have hRest : buffer.drop offset ≠ [] := by
    rw [Ne, List.drop_eq_nil_iff]
    omega
  generalize buffer.take offset = passed at *
  generalize buffer.drop offset = text at *
  subst hSplit hLength
  rcases hText.first_cases with rfl | ⟨fault, hRead⟩ | ⟨piece, rest, rfl, hGap, hWord⟩
  · exact absurd rfl hRest
  · rw [outcome_pull_of_fault hCursor hRead] at hOutcome
    cases hOutcome
  · obtain ⟨hToken, hScanner⟩ := pull_of_piece hCursor hGap hWord
    rw [hToken] at hOutcome
    cases hOutcome
    have hSpelling := List.length_pos_iff.mpr hWord.spells.ne_nil
    have hStart : (passed ++ (piece.gap ++ (piece.spelling ++ rest))).take
        (passed ++ piece.gap).length = passed ++ piece.gap := by
      rw [← List.append_assoc, List.take_left]
    refine ⟨Piece.kind_word_ne_endOfInput hWord.spells, (passed ++ piece.gap).length,
      (passed ++ piece.text).length, ?_, ?_, ?_, ?_, ?_⟩
    · simp
    · simp [Piece.text, hSpelling]
    · simp [Piece.text]
    · rw [hStart]
    · rw [hScanner, Cursor.between, Piece.text]
      simp only [List.append_assoc]

theorem length_rest_pull_le (s : Scanner) :
    s.pull.scanner.cursor.rest.length ≤ s.cursor.rest.length := by
  rw [scanner_pull, Cursor.rest_advanceBy, List.length_drop]
  exact Nat.sub_le _ _

theorem length_rest_stepOver_lt (h : s.pull.outcome = .error d) :
    s.pull.scanner.stepOver.cursor.rest.length < s.cursor.rest.length := by
  have hRest : s.cursor.rest ≠ [] := by
    intro hNone
    rw [outcome_pull_of_rest_eq_nil hNone] at h
    cases h
  have hLength := List.length_pos_iff.mpr hRest
  have hPull := s.length_rest_pull_le
  rw [stepOver, Cursor.rest_advance, List.length_tail]
  omega

theorem exists_recovers (s : Scanner) : ∃ n ≤ s.cursor.rest.length + 1, Recovers s n := by
  induction hLength : s.cursor.rest.length using Nat.strongRecOn generalizing s with
  | ind length ih =>
    cases hOutcome : s.pull.outcome with
    | error d =>
      have hShorter := length_rest_stepOver_lt hOutcome
      obtain ⟨n, hn, hMore⟩ := ih _ (hLength ▸ hShorter) _ rfl
      exact ⟨n + 1, by omega, .failed hOutcome hMore⟩
    | ok t =>
      by_cases hKind : t.kind = .endOfInput
      · exact ⟨1, by omega, .ended hOutcome hKind⟩
      · have hShorter := length_rest_pull_lt (not_isLast_of_word hOutcome hKind)
        obtain ⟨n, hn, hMore⟩ := ih _ (hLength ▸ hShorter) _ rfl
        exact ⟨n + 1, by omega, .word hOutcome hKind hMore⟩

theorem length_pulls_le (s : Scanner) : s.pulls.length ≤ s.cursor.rest.length + 1 := by
  induction s using pulls.induct with
  | case1 s hLast ih =>
    have hShorter := length_rest_pull_lt hLast
    rw [pulls_of_not_isLast hLast, List.length_cons]
    omega
  | case2 s hLast =>
    rw [pulls_of_isLast hLast, List.length_singleton]
    omega

theorem length_tokens_le {tokens : List Token} (h : s.tokens = .ok tokens) :
    tokens.length ≤ s.cursor.rest.length + 1 := by
  rw [← (delivered_of_tokens_eq_ok h).2]
  exact (List.length_filterMap_le _ _).trans s.length_pulls_le

end Scanner

end TeenyLexer
