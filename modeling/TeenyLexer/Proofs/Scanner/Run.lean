import TeenyLexer.Proofs.Source.Place
import TeenyLexer.Scanner.Basic

/-! # Runs

One pull by what is read behind the layout, and a whole run by its first pull: it fails with
it, ends with it, or goes on from the scanner that it leaves behind.
-/

namespace TeenyLexer

open Reading

theorem Reading.extent_fault {fault : Fault} (h : fault ≠ .unterminatedString)
    (text : List Char) : extent text (.fault fault) = 0 := by
  cases fault with
  | unterminatedString => exact absurd rfl h
  | unexpectedCharacter | malformedOperator | general => rfl

namespace Cursor

@[simp] theorem rest_skipLayout (c : Cursor) :
    c.skipLayout.rest = c.rest.drop (layout c.rest).length :=
  rest_advanceBy c _

theorem skipLayout_atOffset (buffer : List Char) (offset : Nat) :
    (atOffset buffer offset).skipLayout =
      atOffset buffer (offset + (layout (buffer.drop offset)).length) :=
  advanceBy_atOffset buffer offset _

end Cursor

namespace Scanner

variable {s : Scanner} {token : Token} {d : Diagnostic}

theorem pull_of_word {kind : Kind} {spelling : List Char}
    (h : ofText s.cursor.skipLayout.rest = .word kind spelling) :
    s.pull = s.deliver (.ofSpelling kind spelling) (s.cursor.skipLayout.location s.filename)
      (s.cursor.skipLayout.advanceBy spelling.length) := by
  simp only [pull, h, extent]

theorem pull_of_endOfInput (h : ofText s.cursor.skipLayout.rest = .endOfInput) :
    s.pull = s.deliver .endOfInput (s.cursor.skipLayout.location s.filename)
      (s.cursor.skipLayout.advanceBy 1) := by
  simp only [pull, h, extent]

theorem pull_of_fault {fault : Fault} (h : ofText s.cursor.skipLayout.rest = .fault fault) :
    s.pull = s.fail fault s.cursor.skipLayout
      (s.cursor.skipLayout.advanceBy (extent s.cursor.skipLayout.rest (.fault fault))) := by
  simp only [pull, h]

theorem outcome_pull_of_rest_eq_nil (h : s.cursor.rest = []) :
    s.pull.outcome = .ok ⟨.endOfInput, s.cursor.location s.filename⟩ := by
  have hSkip : s.cursor.skipLayout = s.cursor := by
    rw [Cursor.skipLayout, h]
    rfl
  have hRead : ofText s.cursor.skipLayout.rest = .endOfInput := by
    rw [hSkip, h]
    rfl
  rw [pull_of_endOfInput hRead, hSkip]
  rfl

theorem reading_of_error (h : s.pull.outcome = .error d) :
    ofText s.cursor.skipLayout.rest = .fault d.fault ∧
      d.location = some (s.cursor.skipLayout.location s.filename) ∧
      d.sourceLine = some (String.ofList s.cursor.skipLayout.sourceLine) := by
  cases hRead : ofText s.cursor.skipLayout.rest with
  | word kind spelling =>
    rw [pull_of_word hRead] at h
    cases h
  | endOfInput =>
    rw [pull_of_endOfInput hRead] at h
    cases h
  | fault fault =>
    rw [pull_of_fault hRead] at h
    cases h
    exact ⟨rfl, rfl, rfl⟩

theorem reading_of_ok (h : s.pull.outcome = .ok token) :
    token.location = s.cursor.skipLayout.location s.filename ∧
      ((∃ kind spelling, ofText s.cursor.skipLayout.rest = .word kind spelling ∧
          token.toWord = .ofSpelling kind spelling) ∨
        ofText s.cursor.skipLayout.rest = .endOfInput ∧ token.toWord = .endOfInput) := by
  cases hRead : ofText s.cursor.skipLayout.rest with
  | word kind spelling =>
    rw [pull_of_word hRead] at h
    cases h
    exact ⟨rfl, .inl ⟨kind, spelling, rfl, rfl⟩⟩
  | endOfInput =>
    rw [pull_of_endOfInput hRead] at h
    cases h
    exact ⟨rfl, .inr ⟨rfl, rfl⟩⟩
  | fault fault =>
    rw [pull_of_fault hRead] at h
    cases h

theorem isLast_of_error (h : s.pull.outcome = .error d) : ¬s.pull.isLast = false := by
  simp [Pull.isLast, h]

theorem isLast_of_endOfInput (h : s.pull.outcome = .ok token) (hKind : token.kind = .endOfInput) :
    ¬s.pull.isLast = false := by
  simp [Pull.isLast, h, hKind]

theorem not_isLast_of_word (h : s.pull.outcome = .ok token) (hKind : token.kind ≠ .endOfInput) :
    s.pull.isLast = false := by
  simp [Pull.isLast, h, hKind]

/-- Induction along a run, back from the failure or the end of the input. -/
@[elab_as_elim]
theorem run_induction {motive : Scanner → Prop}
    (failed : ∀ s d, s.pull.outcome = .error d → motive s)
    (ended : ∀ s token, s.pull.outcome = .ok token → token.kind = .endOfInput → motive s)
    (word : ∀ s token, s.pull.outcome = .ok token → token.kind ≠ .endOfInput →
      motive s.pull.scanner → motive s) (s : Scanner) : motive s := by
  induction s using pulls.induct with
  | case1 s hLast ih =>
    cases hOutcome : s.pull.outcome with
    | error d => exact absurd hLast (isLast_of_error hOutcome)
    | ok token =>
      refine word s token hOutcome ?_ ih
      intro hKind
      exact isLast_of_endOfInput hOutcome hKind hLast
  | case2 s hLast =>
    cases hOutcome : s.pull.outcome with
    | error d => exact failed s d hOutcome
    | ok token =>
      refine ended s token hOutcome ?_
      by_contra hKind
      exact hLast (not_isLast_of_word hOutcome hKind)

theorem pulls_of_not_isLast (h : s.pull.isLast = false) :
    s.pulls = s.pull :: s.pull.scanner.pulls := by
  rw [pulls, dif_pos h]

theorem pulls_of_isLast (h : ¬s.pull.isLast = false) : s.pulls = [s.pull] := by
  rw [pulls, dif_neg h]

theorem pull_mem_pulls (s : Scanner) : s.pull ∈ s.pulls := by
  rw [pulls]
  split <;> exact List.mem_cons_self

theorem tokens_of_error (h : s.pull.outcome = .error d) : s.tokens = .error d := by
  rw [tokens, pulls_of_isLast (isLast_of_error h)]
  simp [failure?, h]

theorem tokens_of_endOfInput (h : s.pull.outcome = .ok token) (hKind : token.kind = .endOfInput) :
    s.tokens = .ok [token] := by
  rw [tokens, pulls_of_isLast (isLast_of_endOfInput h hKind)]
  simp [failure?, delivered, h, Except.toOption]

theorem tokens_of_word (h : s.pull.outcome = .ok token) (hKind : token.kind ≠ .endOfInput) :
    s.tokens = (token :: ·) <$> s.pull.scanner.tokens := by
  have hFailure : failure? (s.pull :: s.pull.scanner.pulls) = failure? s.pull.scanner.pulls := by
    simp [failure?, h]
  have hDelivered : delivered (s.pull :: s.pull.scanner.pulls) =
      token :: delivered s.pull.scanner.pulls := by
    simp [delivered, h, Except.toOption]
  rw [tokens, pulls_of_not_isLast (not_isLast_of_word h hKind), hFailure, hDelivered, tokens]
  cases failure? s.pull.scanner.pulls <;> rfl

theorem tokens_eq_error_iff (h : s.pull.outcome = .ok token) (hKind : token.kind ≠ .endOfInput) :
    s.tokens = .error d ↔ s.pull.scanner.tokens = .error d := by
  rw [tokens_of_word h hKind]
  cases s.pull.scanner.tokens with
  | ok more => exact ⟨nofun, nofun⟩
  | error d' => exact Iff.rfl

theorem tokens_eq_ok {tokens : List Token} (h : s.tokens = .ok tokens) :
    ∃ token, s.pull.outcome = .ok token ∧
      (token.kind = .endOfInput ∧ tokens = [token] ∨
        token.kind ≠ .endOfInput ∧
          ∃ more, s.pull.scanner.tokens = .ok more ∧ tokens = token :: more) := by
  cases hOutcome : s.pull.outcome with
  | error d =>
    rw [tokens_of_error hOutcome] at h
    cases h
  | ok token =>
    refine ⟨token, rfl, ?_⟩
    by_cases hKind : token.kind = .endOfInput
    · rw [tokens_of_endOfInput hOutcome hKind] at h
      cases h
      exact .inl ⟨hKind, rfl⟩
    · rw [tokens_of_word hOutcome hKind] at h
      cases hMore : s.pull.scanner.tokens with
      | error d =>
        rw [hMore] at h
        cases h
      | ok more =>
        rw [hMore] at h
        cases h
        exact .inr ⟨hKind, more, rfl, rfl⟩

end Scanner

end TeenyLexer
