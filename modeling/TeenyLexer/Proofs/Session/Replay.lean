import Mathlib
import TeenyLexer.Proofs.Scanner.Diagnosis
import TeenyLexer.Proofs.Session.Cursor
import TeenyLexer.Proofs.Session.Sharing

/-! # Behind a failure

A failure leaves the cursor in one of two kinds of place. On a character that begins no word, and
on a malformed operator, the cursor stays, and whoever pulls next meets the same failure there. A
string that is not closed is used up with all that follows it, and only the end of the input is
left.
-/

namespace TeenyLexer

theorem Cursor.skipLayout_skipLayout (c : Cursor) : c.skipLayout.skipLayout = c.skipLayout := by
  have hNone : layout c.skipLayout.rest = [] := by rw [rest_skipLayout, layout_drop_layout]
  rw [skipLayout, hNone]
  rfl

/-- A cursor on a fault that takes nothing of the program. -/
structure Cursor.BlockedBy (c : Cursor) (fault : Fault) : Prop where
  skipped : c.skipLayout = c
  reading : Reading.ofText c.rest = .fault fault
  closed : fault ≠ .unterminatedString

namespace Scanner

variable {s : Scanner} {fault : Fault} {d : Diagnostic}

/-- What is said of a fault under the cursor. -/
def diagnose (s : Scanner) (fault : Fault) : Diagnostic :=
  ⟨fault, some (s.cursor.location s.filename), some (String.ofList s.cursor.sourceLine)⟩

theorem pull_of_blockedBy (h : s.cursor.BlockedBy fault) :
    s.pull.outcome = .error (s.diagnose fault) ∧ s.pull.scanner = s := by
  have hRead : Reading.ofText s.cursor.skipLayout.rest = .fault fault := by
    rw [h.skipped, h.reading]
  rw [pull_of_fault hRead, h.skipped, Reading.extent_fault h.closed]
  exact ⟨rfl, rfl⟩

theorem pulls_of_blockedBy (h : s.cursor.BlockedBy fault) :
    s.tokens = .error (s.diagnose fault) ∧ Session.afterPulls s s.pulls = s := by
  obtain ⟨hOutcome, hScanner⟩ := pull_of_blockedBy h
  refine ⟨tokens_of_error hOutcome, ?_⟩
  rw [Session.afterPulls_of_isLast (isLast_of_error hOutcome), hScanner]

theorem blockedBy_of_pull (h : s.pull.outcome = .error d) (hFault : d.fault ≠ .unterminatedString) :
    s.pull.scanner.cursor = s.cursor.skipLayout ∧ s.pull.scanner.cursor.BlockedBy d.fault ∧
      s.pull.scanner.diagnose d.fault = d := by
  obtain ⟨hRead, hLocation, hLine⟩ := reading_of_error h
  rw [pull_of_fault hRead, Reading.extent_fault hFault]
  refine ⟨rfl, ⟨s.cursor.skipLayout_skipLayout, hRead, hFault⟩, ?_⟩
  exact congrArg₂ (Diagnostic.mk d.fault) hLocation.symm hLine.symm

/-- The string takes all that is left, with its opening quote. -/
theorem position_pull_of_unterminatedString {buffer : List Char} {offset : Nat}
    (hCursor : s.cursor = .atOffset buffer offset) (h : s.pull.outcome = .error d)
    (hFault : d.fault = .unterminatedString) :
    s.pull.scanner.cursor.position = buffer.length := by
  have hSkip := Cursor.skipLayout_atOffset buffer offset
  rw [← hCursor] at hSkip
  generalize offset + (layout (buffer.drop offset)).length = target at hSkip
  obtain ⟨hRead, -⟩ := reading_of_error h
  rw [hFault] at hRead
  rw [pull_of_fault hRead]
  rw [hSkip] at hRead ⊢
  have hInside : target < buffer.length := by
    by_contra hPast
    have hNone : (Cursor.atOffset buffer target).rest = [] :=
      List.drop_of_length_le (Nat.not_lt.mp hPast)
    rw [hNone] at hRead
    cases hRead
  calc ((Cursor.atOffset buffer target).advanceBy (buffer.drop target).length).position
    _ = target + (buffer.drop target).length := Cursor.position_advanceBy _ _
    _ = buffer.length := by rw [List.length_drop, Nat.add_sub_of_le hInside.le]

end Scanner

namespace Session

def Step.isAdvance : Step → Bool
  | .advance _ => true
  | .peek | .next | .drain | .openIterator _ | .nextOf _ | .setTrace _ | .setFilename _ => false

/-- Whoever goes on from here meets a failure at once. -/
structure Replays (s : Session) (d : Diagnostic) : Prop where
  next : (s.perform .next).reply = .failure d
  drain : (s.perform .drain).reply = .failure d
  live : ∀ key ∈ s.live, (s.perform (.nextOf key)).reply = .failure d
  opened : ∀ key, ((s.perform (.openIterator key)).session.perform (.nextOf key)).reply = .failure d

/-- A session that a failure has left on the fault, and what it goes on to do there. -/
structure HaltedOn (source : String) (d : Diagnostic) (s : Session) : Prop where
  shown : FaultAt (programText source) s.scanner.cursor.position d.fault
  offending : d.fault = .unexpectedCharacter (.ofChar s.scanner.cursor.current) ∨
    s.scanner.cursor.current = '!' ∧ ∃ following, d.fault = .malformedOperator following
  location : d.location = some (s.scanner.cursor.location s.scanner.filename)
  keeps : ∀ steps : List Step, (∀ step ∈ steps, step.isAdvance = false) →
    (s.after steps).scanner.cursor = s.scanner.cursor
  replays : ∀ steps : List Step, (∀ step ∈ steps, step.isAdvance = false) →
    (s.after steps).scanner.filename = s.scanner.filename → (s.after steps).Replays d

/-- A session that a failure has left behind its program. -/
structure UsedUp (source : String) (s : Session) : Prop where
  position : s.scanner.cursor.position = (programText source).length
  line : s.scanner.cursor.line = 1 + (programText source).count '\n'
  column : s.scanner.cursor.column = 1
  ended : ∀ steps : List Step, ∃ t : Token,
    ((s.after steps).perform .next).reply = .token t ∧ t.toWord = .endOfInput

theorem cursor_perform_of_blockedBy {s : Session} {fault : Fault}
    (h : s.scanner.cursor.BlockedBy fault) {step : Step} (hStep : step.isAdvance = false) :
    (s.perform step).session.scanner.cursor = s.scanner.cursor := by
  cases step with
  | advance => cases hStep
  | peek | openIterator | setTrace | setFilename => rfl
  | next => exact congrArg Scanner.cursor (Scanner.pull_of_blockedBy h).2
  | drain => exact congrArg Scanner.cursor (Scanner.pulls_of_blockedBy h).2
  | nextOf key =>
    rw [perform]
    split
    · exact congrArg Scanner.cursor (Scanner.pull_of_blockedBy h).2
    · rfl

theorem cursor_after_of_blockedBy {s : Session} {fault : Fault}
    (h : s.scanner.cursor.BlockedBy fault) {steps : List Step}
    (hSteps : ∀ step ∈ steps, step.isAdvance = false) :
    (s.after steps).scanner.cursor = s.scanner.cursor := by
  induction steps generalizing s with
  | nil => rfl
  | cons step steps ih =>
    obtain ⟨hStep, hSteps⟩ := List.forall_mem_cons.mp hSteps
    have hKept := cursor_perform_of_blockedBy h hStep
    rw [after, ih (hKept ▸ h) hSteps, hKept]

theorem replays_of_blockedBy {s : Session} {fault : Fault}
    (h : s.scanner.cursor.BlockedBy fault) : s.Replays (s.scanner.diagnose fault) := by
  have hPull : replyOf s.scanner.pull.outcome = .failure (s.scanner.diagnose fault) := by
    rw [(Scanner.pull_of_blockedBy h).1]
    rfl
  refine ⟨hPull, ?_, ?_, ?_⟩
  · change replyOfAll s.scanner.tokens = _
    rw [(Scanner.pulls_of_blockedBy h).1]
    rfl
  · intro key hKey
    rw [perform, if_pos hKey]
    exact hPull
  · intro key
    let opened := (s.perform (.openIterator key)).session
    have hKey : key ∈ opened.live := List.mem_insert_self
    have hLive : opened.perform (.nextOf key) = opened.pullFor key := if_pos hKey
    rw [hLive]
    exact hPull

theorem haltedOn_of_blockedBy {source : String} {s : Session} (h : s.Reachable source)
    {d : Diagnostic} (hBlocked : s.scanner.cursor.BlockedBy d.fault)
    (hShown : s.scanner.diagnose d.fault = d) : s.HaltedOn source d := by
  have hFault : FaultAt (programText source) s.scanner.cursor.position d.fault := by
    rw [← ofText_drop_eq_fault_iff ((terminated_programText source).drop _), ← hBlocked.reading]
    conv => rhs; rw [h.cursor_eq]
    rfl
  have hCurrent : ∀ c, (programText source)[s.scanner.cursor.position]? = some c →
      s.scanner.cursor.current = c := by
    intro c hc
    have hStands := Cursor.standsIn_atOffset (programText source) s.scanner.cursor.position
    rw [← h.cursor_eq] at hStands
    rw [hStands.current, hc]
    rfl
  refine ⟨hFault, ?_, ?_, ?_, ?_⟩
  · generalize d.fault = fault at hFault hBlocked
    cases hFault with
    | unterminatedString => exact absurd rfl hBlocked.closed
    | malformedOperator hMark => exact .inr ⟨hCurrent _ hMark, _, rfl⟩
    | unexpectedCharacter hFound _ _ _ hDescribed =>
      rw [ofString_singleton] at hDescribed
      cases hDescribed
      exact .inl (by rw [hCurrent _ hFound])
  · rw [← hShown]
    rfl
  · intro steps hSteps
    exact cursor_after_of_blockedBy hBlocked hSteps
  · intro steps hSteps hFilename
    have hCursor := cursor_after_of_blockedBy hBlocked hSteps
    have hSame : (s.after steps).scanner.diagnose d.fault = d := by
      rw [Scanner.diagnose, hCursor, hFilename]
      exact hShown
    rw [← hSame]
    exact replays_of_blockedBy (hCursor ▸ hBlocked)

theorem position_le_after (s : Session) (steps : List Step) :
    s.scanner.cursor.position ≤ (s.after steps).scanner.cursor.position := by
  induction steps generalizing s with
  | nil => exact Nat.le_refl _
  | cons step steps ih => exact (position_le_perform s step).trans (ih _)

theorem usedUp_of_position {source : String} {s : Session} (h : s.Reachable source)
    (hEnd : s.scanner.cursor.position = (programText source).length) : s.UsedUp source := by
  have hCursor := h.cursor_eq
  rw [hEnd] at hCursor
  refine ⟨hEnd, ?_, ?_, ?_⟩
  · rw [hCursor]
    change Place.line ((programText source).take (programText source).length) = _
    rw [List.take_length, Place.line, Nat.add_comm]
  · rw [hCursor]
    change Place.column ((programText source).take (programText source).length) = 1
    rw [List.take_length, programText, Place.column, Place.lastLine_append_newline]
    rfl
  · intro steps
    have hRest := (h.after steps).rest_eq_nil (hEnd ▸ s.position_le_after steps)
    exact ⟨_, congrArg replyOf (Scanner.outcome_pull_of_rest_eq_nil hRest), rfl⟩

/-- What a failed step leaves behind. Unless the whole program has been drained, the layout before
the fault is all that has been skipped on the way to it. -/
theorem perform_leaves_fault_or_end {source : String} {s : Session} (h : s.Reachable source)
    {step : Step} {d : Diagnostic} (hFails : (s.perform step).reply = .failure d) :
    (d.fault ≠ .unterminatedString → (s.perform step).session.HaltedOn source d ∧
        (step ≠ .drain → LayoutEnds (programText source) s.scanner.cursor.position
          (s.perform step).session.scanner.cursor.position)) ∧
      (d.fault = .unterminatedString → (s.perform step).session.UsedUp source) := by
  obtain ⟨before, hBefore, hOwn, hOutcome, hScanner⟩ := h.exists_pull_of_failure hFails
  have hFailed : (s.perform step).session.Reachable source := h.perform step
  constructor
  · intro hFault
    obtain ⟨hCursor, hBlocked, hShown⟩ := Scanner.blockedBy_of_pull hOutcome hFault
    rw [← hScanner] at hCursor hBlocked hShown
    refine ⟨haltedOn_of_blockedBy hFailed hBlocked hShown, fun hStep => ?_⟩
    obtain rfl := hOwn hStep
    rw [hCursor, h.cursor_eq, Cursor.skipLayout_atOffset]
    exact layoutEnds_layout _ _
  · intro hFault
    apply usedUp_of_position hFailed
    rw [hScanner]
    exact Scanner.position_pull_of_unterminatedString hBefore.cursor_eq hOutcome hFault

/-- A pull through an iterator fails on a mark behind layout. The other iterator is still live and
meets the same failure. In another program a drain runs into a string that is not closed. -/
theorem perform_leaves_mark_and_string :
    ((((ofScanner (.ofSource "a # b\n\t !c" none {})).after
          [.openIterator "i", .openIterator "j", .nextOf "i", .nextOf "i"]).perform
            (.nextOf "i")).session.HaltedOn "a # b\n\t !c"
        ⟨.malformedOperator (.ofChar 'c'), some ⟨"<input>", 2, 3⟩, some "\t !c"⟩ ∧
      ((((ofScanner (.ofSource "a # b\n\t !c" none {})).after
          [.openIterator "i", .openIterator "j", .nextOf "i", .nextOf "i"]).perform
            (.nextOf "i")).session.perform (.nextOf "j")).reply =
        .failure ⟨.malformedOperator (.ofChar 'c'), some ⟨"<input>", 2, 3⟩, some "\t !c"⟩) ∧
    ((ofScanner (.ofSource "a\n\"b" none {})).perform .drain).session.UsedUp "a\n\"b" := by
  have hReached : ((ofScanner (.ofSource "a # b\n\t !c" none {})).after
      [.openIterator "i", .openIterator "j", .nextOf "i", .nextOf "i"]).Reachable "a # b\n\t !c" :=
    (Reachable.opened none {}).after _
  have hMark : (((ofScanner (.ofSource "a # b\n\t !c" none {})).after
      [.openIterator "i", .openIterator "j", .nextOf "i", .nextOf "i"]).perform
        (.nextOf "i")).reply = .failure
      ⟨.malformedOperator (.ofChar 'c'), some ⟨"<input>", 2, 3⟩, some "\t !c"⟩ := by cbv
  have hLive : (((ofScanner (.ofSource "a # b\n\t !c" none {})).after
      [.openIterator "i", .openIterator "j", .nextOf "i", .nextOf "i"]).perform
        (.nextOf "i")).session.live = ["j"] := by cbv
  have hString : ((ofScanner (.ofSource "a\n\"b" none {})).perform .drain).reply = .failure
      ⟨.unterminatedString, some ⟨"<input>", 2, 1⟩, some "\"b"⟩ := by cbv
  have hHalted := ((perform_leaves_fault_or_end hReached hMark).1 (by decide)).1
  generalize (((ofScanner (.ofSource "a # b\n\t !c" none {})).after
      [.openIterator "i", .openIterator "j", .nextOf "i", .nextOf "i"]).perform
        (.nextOf "i")).session = failed at hLive hHalted
  refine ⟨⟨hHalted, ?_⟩, (perform_leaves_fault_or_end (.opened none {}) hString).2 rfl⟩
  have hReplays := hHalted.replays [] (List.forall_mem_nil _) rfl
  exact hReplays.live "j" (hLive ▸ List.mem_singleton_self "j")

end Session

end TeenyLexer
