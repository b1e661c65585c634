import TeenyLexer.Proofs.Scanner.Run
import TeenyLexer.Proofs.Source.Gap
import TeenyLexer.Scanner.Session

/-! # Reachable sessions

Whatever steps are taken in a session, its cursor is only ever moved forward, one character at
a time. So it stands at an offset of the program, or past its end, and its line, its column and
what is left of the program are those of that offset.
-/

namespace TeenyLexer

namespace Scanner

def stride (s : Scanner) : Nat :=
  (layout s.cursor.rest).length +
    Reading.extent s.cursor.skipLayout.rest (.ofText s.cursor.skipLayout.rest)

theorem scanner_pull (s : Scanner) :
    s.pull.scanner = { s with cursor := s.cursor.advanceBy s.stride } := by
  rw [stride, Cursor.advanceBy_add]
  cases h : Reading.ofText s.cursor.skipLayout.rest with
  | word kind spelling => rw [pull_of_word h]; rfl
  | endOfInput => rw [pull_of_endOfInput h]; rfl
  | fault fault => rw [pull_of_fault h]; rfl

theorem cursor_pull (s : Scanner) : ∃ n, s.pull.scanner.cursor = s.cursor.advanceBy n := by
  rw [scanner_pull]
  exact ⟨s.stride, rfl⟩

/-- Every pull of a run is a pull of the same scanner further on. -/
theorem exists_pull_of_mem_pulls {s : Scanner} {p : Pull} (h : p ∈ s.pulls) :
    ∃ n, p = pull { s with cursor := s.cursor.advanceBy n } := by
  induction s using pulls.induct with
  | case1 s hLast ih =>
    rw [pulls_of_not_isLast hLast, List.mem_cons] at h
    rcases h with rfl | h
    · exact ⟨0, rfl⟩
    · obtain ⟨n, rfl⟩ := ih h
      refine ⟨s.stride + n, ?_⟩
      rw [scanner_pull, Cursor.advanceBy_add]
  | case2 s hLast =>
    rw [pulls_of_isLast hLast, List.mem_singleton] at h
    exact ⟨0, h⟩

/-- However often it is pulled, only the cursor of a scanner moves. -/
theorem scanner_of_mem_pulls {s : Scanner} {p : Pull} (h : p ∈ s.pulls) :
    ∃ n, p.scanner = { s with cursor := s.cursor.advanceBy n } := by
  obtain ⟨n, rfl⟩ := exists_pull_of_mem_pulls h
  refine ⟨n + stride { s with cursor := s.cursor.advanceBy n }, ?_⟩
  rw [scanner_pull, Cursor.advanceBy_add]

end Scanner

namespace Session

/-- The sessions to which steps lead from a fresh scanner of a program. -/
inductive Reachable (source : String) : Session → Prop
  | opened (filename : Option String) (settings : Settings) :
      Reachable source (ofScanner (.ofSource source filename settings))
  | perform {s : Session} (reached : Reachable source s) (step : Step) :
      Reachable source (s.perform step).session

theorem afterPulls_of_not_isLast {s : Scanner} (h : s.pull.isLast = false) :
    afterPulls s s.pulls = afterPulls s.pull.scanner s.pull.scanner.pulls := by
  rw [Scanner.pulls_of_not_isLast h, afterPulls, List.getLast?_cons, afterPulls]
  cases s.pull.scanner.pulls.getLast? <;> rfl

theorem afterPulls_of_isLast {s : Scanner} (h : ¬s.pull.isLast = false) :
    afterPulls s s.pulls = s.pull.scanner := by
  rw [Scanner.pulls_of_isLast h]
  rfl

theorem scanner_afterPulls (s : Scanner) :
    ∃ n, afterPulls s s.pulls = { s with cursor := s.cursor.advanceBy n } := by
  rw [afterPulls]
  split
  next => exact ⟨0, rfl⟩
  next p hLast => exact Scanner.scanner_of_mem_pulls (List.mem_of_getLast? hLast)

theorem cursor_perform (s : Session) (step : Step) :
    ∃ n, (s.perform step).session.scanner.cursor = s.scanner.cursor.advanceBy n := by
  cases step with
  | advance n => exact ⟨n, rfl⟩
  | next => exact s.scanner.cursor_pull
  | drain =>
    obtain ⟨n, hScanner⟩ := scanner_afterPulls s.scanner
    exact ⟨n, congrArg Scanner.cursor hScanner⟩
  | nextOf key =>
    rw [perform]
    split
    · exact s.scanner.cursor_pull
    · exact ⟨0, rfl⟩
  | peek | openIterator | setTrace | setFilename => exact ⟨0, rfl⟩

theorem Reachable.cursor_eq {source : String} {s : Session} (h : s.Reachable source) :
    s.scanner.cursor = .atOffset (programText source) s.scanner.cursor.position := by
  induction h with
  | opened => exact (Cursor.atOffset_zero _).symm
  | perform _ step ih =>
    obtain ⟨n, hCursor⟩ := cursor_perform _ step
    rw [hCursor, ih, Cursor.advanceBy_atOffset]
    rfl

theorem Reachable.exists_pull_of_tokens_eq_error {source : String} {s : Session}
    (h : s.Reachable source) {d : Diagnostic} (hFails : s.scanner.tokens = .error d) :
    ∃ before : Session, before.Reachable source ∧ before.scanner.pull.outcome = .error d ∧
      afterPulls s.scanner s.scanner.pulls = before.scanner.pull.scanner := by
  obtain ⟨scanner, live⟩ := s
  induction scanner using Scanner.run_induction with
  | failed scanner d' hOutcome =>
    refine ⟨_, h, ?_, afterPulls_of_isLast (Scanner.isLast_of_error hOutcome)⟩
    rw [Scanner.tokens_of_error hOutcome] at hFails
    cases hFails
    exact hOutcome
  | ended scanner token hOutcome hKind =>
    rw [Scanner.tokens_of_endOfInput hOutcome hKind] at hFails
    cases hFails
  | word scanner token hOutcome hKind ih =>
    rw [afterPulls_of_not_isLast (Scanner.not_isLast_of_word hOutcome hKind)]
    exact ih (h.perform .next) ((Scanner.tokens_eq_error_iff hOutcome hKind).mp hFails)

/-- A failed step has failed in a pull. Before that pull only a drain has moved the cursor. -/
theorem Reachable.exists_pull_of_failure {source : String} {s : Session} (h : s.Reachable source)
    {step : Step} {d : Diagnostic} (hFails : (s.perform step).reply = .failure d) :
    ∃ before : Session, before.Reachable source ∧ (step ≠ .drain → before = s) ∧
      before.scanner.pull.outcome = .error d ∧
      (s.perform step).session.scanner = before.scanner.pull.scanner := by
  have hPull : ∀ outcome, replyOf outcome = .failure d → outcome = .error d := by
    intro outcome hReply
    cases outcome <;> cases hReply
    rfl
  cases step with
  | next => exact ⟨s, h, fun _ => rfl, hPull _ hFails, rfl⟩
  | nextOf key =>
    by_cases hKey : key ∈ s.live
    · rw [Session.perform, if_pos hKey] at hFails ⊢
      exact ⟨s, h, fun _ => rfl, hPull _ hFails, rfl⟩
    · rw [Session.perform, if_neg hKey] at hFails
      cases hFails
  | drain =>
    change replyOfAll s.scanner.tokens = _ at hFails
    cases hTokens : s.scanner.tokens with
    | ok tokens =>
      rw [hTokens] at hFails
      cases hFails
    | error d' =>
      rw [hTokens] at hFails
      cases hFails
      obtain ⟨before, hBefore, hOutcome, hScanner⟩ := h.exists_pull_of_tokens_eq_error hTokens
      exact ⟨before, hBefore, fun hStep => absurd rfl hStep, hOutcome, hScanner⟩
  | advance | peek | openIterator | setTrace | setFilename => cases hFails

end Session

end TeenyLexer
