import Mathlib
import TeenyLexer.Proofs.Scanner.Concatenation
import TeenyLexer.Proofs.Session.EndOfInput
import TeenyLexer.Proofs.Text.ControlSequence

/-! # Escape characters before a fault

An escape character begins no word. Where a run has passed one without a fault, it has passed a
string or a comment, and so the quote or the newline at its end. No control sequence goes on from
there to the place of a fault.
-/

namespace TeenyLexer

open Reading Text

theorem startsNothing_escape : StartsNothing '\x1b' := by
  constructor <;> decide

/-- A comment ends behind the gap that it stands in, and only a newline has one before it. -/
theorem closesEscapes_gap {gap : List Char} {kind : Kind} (h : IsGap gap kind)
    (hKind : kind ≠ .newline) : ClosesEscapes gap := by
  cases h with
  | blanks hBlanks =>
    apply closesEscapes_of_not_mem
    intro hEscape
    exact absurd (hBlanks _ hEscape) (by decide)
  | comment => exact absurd rfl hKind

theorem closesEscapes_text {piece : Piece} (hGap : IsGap piece.gap piece.kind)
    (hSpells : Spells piece.kind piece.spelling) : ClosesEscapes piece.text := by
  obtain ⟨gap, kind, spelling⟩ := piece
  change ClosesEscapes (gap ++ spelling)
  by_cases hNewline : kind = .newline
  · subst hNewline
    obtain rfl : spelling = ['\n'] := hSpells.of_newline
    exact closesEscapes_concat isBarrier_newline (by decide) gap
  · apply (closesEscapes_gap hGap hNewline).append
    by_cases hEscape : '\x1b' ∈ spelling
    · obtain rfl : kind = .string :=
        hSpells.eq_string_of_mem hEscape startsNothing_escape (by decide)
      cases hSpells with
      | @string body _ =>
        have hQuote : IsBarrier '"' := ⟨by decide, by decide, by decide⟩
        exact closesEscapes_concat hQuote (by decide) ('"' :: body)
    · exact closesEscapes_of_not_mem hEscape

/-- Before a fault stands what may stand before any word. -/
theorem isGap_layout_of_fault {text : List Char} {fault : Fault} (hText : Terminated text)
    (hRead : ofText (text.drop (layout text).length) = .fault fault) (kind : Kind) :
    IsGap (layout text) kind := by
  have hNonempty : text ≠ [] := by
    rintro rfl
    cases hRead
  rcases layout_cases (hText.newline_mem hNonempty) with ⟨c, rest, -, hGap⟩ | ⟨rest, hRest, -⟩
  · exact hGap kind
  · rw [hRest] at hRead
    cases hRead

namespace Scanner

/-- A failed run has passed some text and met the fault behind it. -/
theorem exists_passed_of_tokens_eq_error {s : Scanner} {passed text : List Char} {d : Diagnostic}
    (hCursor : s.cursor = .between passed text) (hText : Terminated text)
    (hPassed : ClosesEscapes passed) (hFails : s.tokens = .error d) :
    ∃ before after, passed ++ text = before ++ after ∧ ClosesEscapes before ∧
      ofText after = .fault d.fault ∧ d.location = some (Place.location s.filename before) ∧
      d.sourceLine =
        some (String.ofList (Place.lastLine before ++ after.takeWhile (· ≠ '\n'))) := by
  induction hText using Terminated.induction generalizing s passed with
  | nil =>
    rw [tokens_of_endOfInput (outcome_pull_of_nil hCursor) rfl] at hFails
    cases hFails
  | fault text fault hText hRead =>
    rw [tokens_of_error (outcome_pull_of_fault hCursor hRead)] at hFails
    cases hFails
    have hLayout := closesEscapes_gap (isGap_layout_of_fault hText hRead .number) (by decide)
    refine ⟨_, _, ?_, hPassed.append hLayout, hRead, rfl, rfl⟩
    rw [List.append_assoc, layout_append_drop]
  | piece piece rest hText hGap hWord ih =>
    obtain ⟨hOutcome, hScanner⟩ := pull_of_piece hCursor hGap hWord
    rw [tokens_eq_error_iff hOutcome (Piece.kind_word_ne_endOfInput hWord.spells), hScanner]
      at hFails
    obtain ⟨before, after, hSplit, hFault⟩ := ih hText.of_append.of_append rfl
      (hPassed.append (closesEscapes_text hGap hWord.spells)) hFails
    refine ⟨before, after, ?_, hFault⟩
    rw [← hSplit, Piece.text]
    simp only [List.append_assoc]

end Scanner

end TeenyLexer
