import TeenyLexer.Proofs.Scanner.Run
import TeenyLexer.Proofs.Source.LongestSpelling
import TeenyLexer.Proofs.Token.Codec

/-! # Streams

A scan hands out its tokens one after another, up to the end of the input or the failure. This
stream is a beginning of what the scanner hands out when it is pulled any number of times.
-/

namespace TeenyLexer.Scanner

/-- What a scan hands out, pull by pull. -/
def stream (s : Scanner) : List (Except Diagnostic Token) :=
  s.pulls.map Pull.outcome

/-- What the next pulls hand out, however far they go. -/
def outcomes (s : Scanner) : Nat → List (Except Diagnostic Token)
  | 0 => []
  | n + 1 => s.pull.outcome :: s.pull.scanner.outcomes n

/-- How the answer of a scan goes with its stream. The end of the input is the last token and no
other one, and before a failure come the tokens that can be read. -/
inductive IsStreamOf :
    Except Diagnostic (List Token) → List (Except Diagnostic Token) → Prop
  | finished {before : List Token} {last : Token} (inner : ∀ t ∈ before, t.kind ≠ .endOfInput)
      (ends : last.toWord = .endOfInput) :
      IsStreamOf (.ok (before ++ [last])) (before.map .ok ++ [.ok last])
  | failed {before : List Token} {d : Diagnostic} (inner : ∀ t ∈ before, t.kind ≠ .endOfInput) :
      IsStreamOf (.error d) (before.map .ok ++ [.error d])

theorem IsStreamOf.cons {answer : Except Diagnostic (List Token)}
    {stream : List (Except Diagnostic Token)} (h : IsStreamOf answer stream) {token : Token}
    (hKind : token.kind ≠ .endOfInput) :
    IsStreamOf ((token :: ·) <$> answer) (.ok token :: stream) := by
  cases h with
  | finished hInner hEnds => exact .finished (List.forall_mem_cons.mpr ⟨hKind, hInner⟩) hEnds
  | failed hInner => exact .failed (List.forall_mem_cons.mpr ⟨hKind, hInner⟩)

theorem toWord_of_kind_eq_endOfInput {s : Scanner} {token : Token}
    (h : s.pull.outcome = .ok token) (hKind : token.kind = .endOfInput) :
    token.toWord = .endOfInput := by
  obtain ⟨-, ⟨kind, spelling, hRead, hWord⟩ | ⟨-, hWord⟩⟩ := reading_of_ok h
  · have hSpells := (isLongestSpelling_of_ofText hRead).spells
    rw [hWord, Word.kind_ofSpelling] at hKind
    exact absurd hKind hSpells.kind_ne_endOfInput
  · exact hWord

theorem stream_of_not_isLast {s : Scanner} (h : s.pull.isLast = false) :
    s.stream = s.pull.outcome :: s.pull.scanner.stream := by
  rw [stream, pulls_of_not_isLast h, List.map_cons, stream]

theorem stream_of_isLast {s : Scanner} (h : ¬s.pull.isLast = false) :
    s.stream = [s.pull.outcome] := by
  rw [stream, pulls_of_isLast h, List.map_singleton]

theorem isStreamOf_tokens (s : Scanner) : IsStreamOf s.tokens s.stream := by
  induction s using run_induction with
  | failed s d hOutcome =>
    rw [stream_of_isLast (isLast_of_error hOutcome), hOutcome, tokens_of_error hOutcome]
    exact .failed (List.forall_mem_nil _)
  | ended s token hOutcome hKind =>
    rw [stream_of_isLast (isLast_of_endOfInput hOutcome hKind), hOutcome,
      tokens_of_endOfInput hOutcome hKind]
    exact .finished (List.forall_mem_nil _) (toWord_of_kind_eq_endOfInput hOutcome hKind)
  | word s token hOutcome hKind ih =>
    rw [stream_of_not_isLast (not_isLast_of_word hOutcome hKind), hOutcome,
      tokens_of_word hOutcome hKind]
    exact ih.cons hKind

theorem stream_eq_outcomes (s : Scanner) : s.stream = s.outcomes s.stream.length := by
  induction s using pulls.induct with
  | case1 s hLast ih => rw [stream_of_not_isLast hLast, List.length_cons, outcomes, ← ih]
  | case2 s hLast =>
    rw [stream_of_isLast hLast]
    rfl

theorem delivered_pulls (s : Scanner) :
    delivered s.pulls = s.stream.filterMap Except.toOption := by
  rw [stream, List.filterMap_map]
  rfl

theorem delivered_of_tokens_eq_ok {s : Scanner} {tokens : List Token} (h : s.tokens = .ok tokens) :
    failure? s.pulls = none ∧ delivered s.pulls = tokens := by
  rw [Scanner.tokens] at h
  cases hFailure : failure? s.pulls with
  | none =>
    rw [hFailure] at h
    cases h
    exact ⟨rfl, rfl⟩
  | some d =>
    rw [hFailure] at h
    cases h

theorem stream_of_tokens_eq_ok {s : Scanner} {tokens : List Token} (h : s.tokens = .ok tokens) :
    s.stream = tokens.map .ok := by
  have hStream := isStreamOf_tokens s
  rw [h] at hStream
  generalize s.stream = stream at hStream ⊢
  cases hStream with
  | finished =>
    rw [List.map_append]
    rfl

theorem stream_of_tokens_eq_error {s : Scanner} {d : Diagnostic} (h : s.tokens = .error d) :
    s.stream = (delivered s.pulls).map .ok ++ [.error d] := by
  have hStream := isStreamOf_tokens s
  rw [h] at hStream
  rw [delivered_pulls]
  generalize s.stream = stream at hStream ⊢
  cases hStream with
  | @failed before _ hInner =>
    have hBefore :
        (before.map Except.ok ++ [Except.error d]).filterMap Except.toOption = before := by
      rw [List.filterMap_append, List.filterMap_map]
      simp [Function.comp_def, Except.toOption]
    rw [hBefore]

/-- What has been delivered when a scan fails: the tokens handed out by the pulls before. -/
theorem delivered_of_tokens_eq_error {s : Scanner} {d : Diagnostic} (h : s.tokens = .error d) :
    failure? s.pulls = some d ∧ s.outcomes ((delivered s.pulls).length + 1) =
      (delivered s.pulls).map .ok ++ [.error d] := by
  constructor
  · rw [tokens] at h
    cases hFailure : failure? s.pulls with
    | none =>
      rw [hFailure] at h
      cases h
    | some d' =>
      rw [hFailure] at h
      cases h
      rfl
  · have hOutcomes := stream_eq_outcomes s
    rw [stream_of_tokens_eq_error h, List.length_append, List.length_map,
      List.length_singleton] at hOutcomes
    exact hOutcomes.symm

theorem exists_pull_of_mem_stream {s : Scanner} {outcome : Except Diagnostic Token}
    (h : outcome ∈ s.stream) : ∃ s' : Scanner, s'.pull.outcome = outcome := by
  induction s using pulls.induct with
  | case1 s hLast ih =>
    rw [stream_of_not_isLast hLast, List.mem_cons] at h
    rcases h with rfl | h
    · exact ⟨s, rfl⟩
    · exact ih h
  | case2 s hLast =>
    rw [stream_of_isLast hLast, List.mem_singleton] at h
    exact ⟨s, h.symm⟩

theorem exists_pull_of_mem_delivered {s : Scanner} {t : Token} (h : t ∈ delivered s.pulls) :
    ∃ s' : Scanner, s'.pull.outcome = .ok t := by
  rw [delivered_pulls, List.mem_filterMap] at h
  obtain ⟨outcome, hOutcome, hToken⟩ := h
  cases outcome with
  | error d => cases hToken
  | ok token =>
    cases hToken
    exact exists_pull_of_mem_stream hOutcome

theorem location_of_pull_eq_error {s : Scanner} {d : Diagnostic} (h : s.pull.outcome = .error d) :
    ∃ location, d.location = some location :=
  ⟨_, (reading_of_error h).2.1⟩

theorem location_of_tokens_eq_error {s : Scanner} {d : Diagnostic} (h : s.tokens = .error d) :
    ∃ location, d.location = some location := by
  have hLast : Except.error d ∈ s.stream := by
    rw [stream_of_tokens_eq_error h]
    exact List.mem_concat_self
  obtain ⟨s', hOutcome⟩ := exists_pull_of_mem_stream hLast
  exact location_of_pull_eq_error hOutcome

theorem outcomes_isPrefix (s : Scanner) {m n : Nat} (h : m ≤ n) : s.outcomes m <+: s.outcomes n := by
  induction m generalizing s n with
  | zero => exact List.nil_prefix
  | succ m ih =>
    obtain ⟨n, rfl⟩ := Nat.exists_eq_add_of_le' h
    exact List.cons_prefix_cons.mpr ⟨rfl, ih _ (Nat.le_of_succ_le_succ h)⟩

end TeenyLexer.Scanner
