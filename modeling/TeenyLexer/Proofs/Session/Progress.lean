import Mathlib
import TeenyLexer.Proofs.Scanner.Progress
import TeenyLexer.Proofs.Session.Pulls
import TeenyLexer.Proofs.Session.Replay
import TeenyLexer.Proofs.Source.Loops

/-! # Progress in a session

Whatever a session has done, as long as its cursor has not passed the end a token is a word, takes
something of the program, and stands behind all tokens that have been returned before. So scanning
ends, and so does going on behind every failure.
-/

namespace TeenyLexer

def Token.StartsBefore (t : Token) (buffer : List Char) (offset : Nat) : Prop :=
  ∃ start < offset, ∃ filename, t.location = Place.location filename (buffer.take start)

theorem Token.StartsBefore.mono {t : Token} {buffer : List Char} {offset offset' : Nat}
    (h : t.StartsBefore buffer offset) (hLe : offset ≤ offset') :
    t.StartsBefore buffer offset' := by
  obtain ⟨start, hStart, hLocation⟩ := h
  exact ⟨start, hStart.trans_le hLe, hLocation⟩

namespace Scanner

theorem mem_delivered_cons {t : Token} {p : Pull} {pulls : List Pull} :
    t ∈ delivered (p :: pulls) ↔ p.outcome = .ok t ∨ t ∈ delivered pulls := by
  cases hOutcome : p.outcome <;> simp [delivered, hOutcome, Except.toOption, eq_comm]

end Scanner

namespace Session

theorem position_le_afterPulls (s : Scanner) :
    s.cursor.position ≤ (afterPulls s s.pulls).cursor.position :=
  position_le_perform (ofScanner s) .drain

theorem Reachable.startsBefore_of_pull {source : String} {s : Session} (h : s.Reachable source)
    {t : Token} (hOutcome : s.scanner.pull.outcome = .ok t)
    (hInside : s.scanner.cursor.position < (programText source).length) :
    t.StartsBefore (programText source) s.scanner.pull.scanner.cursor.position := by
  obtain ⟨-, start, stop, -, hStart, -, hLocation, hAfter⟩ :=
    Scanner.pull_of_inside h.cursor_eq (terminated_programText source) hInside hOutcome
  rw [hAfter]
  exact ⟨start, hStart, s.scanner.filename, hLocation⟩

theorem Reachable.startsBefore_of_mem_pulls {source : String} {s : Session}
    (h : s.Reachable source) {t : Token} (ht : t ∈ Scanner.delivered s.scanner.pulls)
    (hInside : (afterPulls s.scanner s.scanner.pulls).cursor.position <
      (programText source).length) :
    t.StartsBefore (programText source)
      (afterPulls s.scanner s.scanner.pulls).cursor.position := by
  obtain ⟨scanner, live⟩ := s
  have hHere := (position_le_afterPulls scanner).trans_lt hInside
  induction scanner using Scanner.pulls.induct with
  | case1 scanner hLast ih =>
    rw [afterPulls_of_not_isLast hLast] at hInside ⊢
    rw [Scanner.pulls_of_not_isLast hLast, Scanner.mem_delivered_cons] at ht
    have hLater := position_le_afterPulls scanner.pull.scanner
    rcases ht with hOutcome | ht
    · exact (h.startsBefore_of_pull hOutcome hHere).mono hLater
    · exact ih (h.perform .next) ht hInside (hLater.trans_lt hInside)
  | case2 scanner hLast =>
    rw [afterPulls_of_isLast hLast]
    rw [Scanner.pulls_of_isLast hLast, Scanner.mem_delivered_cons] at ht
    rcases ht with hOutcome | ht
    · exact h.startsBefore_of_pull hOutcome hHere
    · cases ht

theorem Reachable.startsBefore_of_mem_delivered {source : String} {s : Session}
    (h : s.Reachable source) {step : Step} {t : Token} (ht : t ∈ Scanner.delivered (s.pulls step))
    (hInside : (s.perform step).session.scanner.cursor.position < (programText source).length) :
    t.StartsBefore (programText source) (s.perform step).session.scanner.cursor.position := by
  have hHere := (position_le_perform s step).trans_lt hInside
  have hPull : ∀ ps, t ∈ Scanner.delivered ps → ps = [s.scanner.pull] →
      t.StartsBefore (programText source) s.scanner.pull.scanner.cursor.position := by
    rintro ps hps rfl
    rcases Scanner.mem_delivered_cons.mp hps with hOutcome | hNone
    · exact h.startsBefore_of_pull hOutcome hHere
    · cases hNone
  cases step with
  | next => exact hPull _ ht rfl
  | drain => exact h.startsBefore_of_mem_pulls ht hInside
  | nextOf key =>
    rw [pulls] at ht
    rw [Session.perform]
    split
    next hKey => exact hPull _ ht (if_pos hKey)
    next hKey =>
      rw [if_neg hKey] at ht
      cases ht
  | advance | peek | openIterator | setTrace | setFilename => cases ht

theorem Reachable.startsBefore_of_mem_returned {source : String} {s : Session}
    (h : s.Reachable source) {steps : List Step} {t : Token} (ht : t ∈ s.returned steps)
    (hInside : (s.after steps).scanner.cursor.position < (programText source).length) :
    t.StartsBefore (programText source) (s.after steps).scanner.cursor.position := by
  induction steps generalizing s with
  | nil => cases ht
  | cons step steps ih =>
    rcases List.mem_append.mp ht with ht | ht
    · have hLater := position_le_after (s.perform step).session steps
      exact (h.startsBefore_of_mem_delivered ht (hLater.trans_lt hInside)).mono hLater
    · exact ih (h.perform step) ht hInside

/-- A token of a session that has taken some steps: a word that takes something of the program,
stops inside of it, and comes behind every token returned before. -/
structure Advances (source : String) (start : Session) (past : List Step) (t : Token) : Prop where
  word : t.kind ≠ .endOfInput
  takes : (start.after past).scanner.cursor.position <
    (start.after past).scanner.pull.scanner.cursor.position
  inside : (start.after past).scanner.pull.scanner.cursor.position ≤ source.length + 1
  later : ∀ earlier ∈ start.returned past, earlier.location.key < t.location.key

theorem advances_of_pull {source : String} {start : Session} (h : start.Reachable source)
    {past : List Step} {t : Token}
    (hInside : (start.after past).scanner.cursor.position < source.length + 1)
    (hOutcome : (start.after past).scanner.pull.outcome = .ok t) :
    Advances source start past t := by
  rw [← length_programText] at hInside
  obtain ⟨hKind, first, stop, hFirst, hStop, hEnd, hLocation, hAfter⟩ :=
    Scanner.pull_of_inside (h.after past).cursor_eq (terminated_programText source) hInside hOutcome
  have hPosition : (start.after past).scanner.pull.scanner.cursor.position = stop := by
    rw [hAfter]
    rfl
  refine ⟨hKind, ?_, ?_, ?_⟩
  · rw [hPosition]
    omega
  · rw [hPosition, ← length_programText]
    exact hEnd
  · intro earlier hEarlier
    obtain ⟨before, hBefore, filename, hPlace⟩ := h.startsBefore_of_mem_returned hEarlier hInside
    rw [hLocation, hPlace]
    exact Place.key_lt_take (hBefore.trans_le hFirst) (by omega) _ _

/-- Progress in every state of every session, and what follows for whole scans: every loop of the
scanner ends, at most two pulls more than the program has characters lead to the end of the input
or a failure, and no more are needed to get over all failures. -/
theorem sessions_advance (source : String) (filename : Option String) (settings : Settings) :
    (∀ (past : List Step) (t : Token),
      ((ofScanner (.ofSource source filename settings)).after past).scanner.cursor.position <
          source.length + 1 →
        ((ofScanner (.ofSource source filename settings)).after past).scanner.pull.outcome =
            .ok t →
          Advances source (ofScanner (.ofSource source filename settings)) past t) ∧
      (∀ offset, (Cursor.atOffset (programText source) offset).LoopsEnd) ∧
      (Scanner.ofSource source filename settings).pulls.length ≤ source.length + 2 ∧
      (∀ tokens, tokenize source filename settings = .ok tokens →
        tokens.length ≤ source.length + 2) ∧
      ∃ n ≤ source.length + 2, (Scanner.ofSource source filename settings).Recovers n := by
  have hRest : (Scanner.ofSource source filename settings).cursor.rest.length =
      source.length + 1 := length_programText source
  refine ⟨?_, Cursor.loopsEnd_atOffset _, ?_, ?_, ?_⟩
  · intro past t hInside hOutcome
    exact advances_of_pull (.opened filename settings) hInside hOutcome
  · have hLength := (Scanner.ofSource source filename settings).length_pulls_le
    rwa [hRest] at hLength
  · intro tokens hTokens
    have hLength := Scanner.length_tokens_le hTokens
    rwa [hRest] at hLength
  · have hRecovers := (Scanner.ofSource source filename settings).exists_recovers
    rwa [hRest] at hRecovers

/-- The newline behind a mark that has been stepped over, in a program that leaves a string open. -/
theorem sessions_advance_behind_mark :
    Advances "x !\n\"y" (ofScanner (.ofSource "x !\n\"y" none {})) [.next, .next, .advance 1]
        ⟨⟨.newline, "\n"⟩, ⟨"<input>", 1, 4⟩⟩ ∧
      ∃ n ≤ 8, (Scanner.ofSource "x !\n\"y" none {}).Recovers n := by
  obtain ⟨hAdvances, -, -, -, hRecovers⟩ := sessions_advance "x !\n\"y" none {}
  exact ⟨hAdvances [.next, .next, .advance 1] _ (by cbv) (by cbv), hRecovers⟩

end Session

end TeenyLexer
