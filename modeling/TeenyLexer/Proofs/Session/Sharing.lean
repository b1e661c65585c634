import Mathlib
import TeenyLexer.Proofs.Scanner.Reachable
import TeenyLexer.Proofs.Scanner.Stream

/-! # Consumers of one scanner

A scanner may be pulled directly and through any number of iterators, in any order. Together the
consumers are handed the stream of the program, no matter who takes which part of it. An iterator
is exhausted by its own last answer alone, and from then on it leaves the scanner as it is.
-/

namespace TeenyLexer.Session

/-- The steps of consumers: pulls of the scanner itself, and iterators opened and pulled. -/
def Step.isConsuming : Step → Bool
  | .next | .openIterator _ | .nextOf _ => true
  | .advance _ | .peek | .drain | .setTrace _ | .setFilename _ => false

namespace Reply

/-- What a reply hands out, if its step has reached the scanner. -/
def outcome? : Reply → Option (Except Diagnostic Token)
  | .token t => some (.ok t)
  | .failure d => some (.error d)
  | .done | .character _ | .tokens _ | .stopped => none

/-- A reply behind which an iterator has nothing more to say. -/
def isLast : Reply → Bool
  | .token t => t.kind == .endOfInput
  | .failure _ => true
  | .done | .character _ | .tokens _ | .stopped => false

theorem outcome?_replyOf (outcome : Except Diagnostic Token) :
    (replyOf outcome).outcome? = some outcome := by
  cases outcome <;> rfl

theorem isLast_replyOf (p : Pull) : (replyOf p.outcome).isLast = p.isLast := by
  rw [Pull.isLast]
  cases p.outcome <;> rfl

end Reply

/-- What some responses hand out, in their order. -/
def handedOut (responses : List Response) : List (Except Diagnostic Token) :=
  responses.filterMap fun r => r.reply.outcome?

def after (s : Session) : List Step → Session
  | [] => s
  | step :: steps => (s.perform step).session.after steps

def history (s : Session) (steps : List Step) : List (Step × Reply) :=
  steps.zip ((s.performAll steps).map Response.reply)

def IsOpened (key : String) (past : List (Step × Reply)) : Prop :=
  ∃ reply, (Step.openIterator key, reply) ∈ past

/-- The iterator that was opened last under a key has itself met the end or a failure. -/
def IsExhausted (key : String) (past : List (Step × Reply)) : Prop :=
  ∃ before reply since, past = before ++ (Step.nextOf key, reply) :: since ∧
    reply.isLast = true ∧ ∀ e ∈ since, e.1 ≠ Step.openIterator key

/-- The steps that reach the scanner: its own, and those of the iterators that have not ended. -/
inductive Reaches (past : List (Step × Reply)) : Step → Prop
  | next : Reaches past .next
  | nextOf {key : String} (opened : IsOpened key past) (live : ¬IsExhausted key past) :
      Reaches past (.nextOf key)

theorem history_concat (s : Session) (past : List Step) (step : Step) :
    s.history (past ++ [step]) =
      s.history past ++ [(step, ((s.after past).perform step).reply)] := by
  induction past generalizing s with
  | nil => rfl
  | cons first past ih => exact congrArg ((first, (s.perform first).reply) :: ·) (ih _)

theorem after_concat (s : Session) (past : List Step) (step : Step) :
    s.after (past ++ [step]) = ((s.after past).perform step).session := by
  induction past generalizing s with
  | nil => rfl
  | cons first past ih => exact ih _

theorem Reachable.after {source : String} {s : Session} (h : s.Reachable source)
    (steps : List Step) : (s.after steps).Reachable source := by
  induction steps generalizing s with
  | nil => exact h
  | cons step steps ih => exact ih (h.perform step)

section Keys

variable {key : String} {past : List (Step × Reply)} {step : Step} {reply : Reply}

theorem isOpened_concat :
    IsOpened key (past ++ [(step, reply)]) ↔ IsOpened key past ∨ step = .openIterator key := by
  constructor
  · rintro ⟨answer, hAnswer⟩
    rcases List.mem_append.mp hAnswer with hPast | hLast
    · exact .inl ⟨answer, hPast⟩
    · cases List.mem_singleton.mp hLast
      exact .inr rfl
  · rintro (⟨answer, hPast⟩ | rfl)
    · exact ⟨answer, List.mem_append_left _ hPast⟩
    · exact ⟨reply, List.mem_append_right _ (List.mem_singleton.mpr rfl)⟩

theorem isExhausted_concat :
    IsExhausted key (past ++ [(step, reply)]) ↔ step = .nextOf key ∧ reply.isLast = true ∨
      IsExhausted key past ∧ step ≠ .openIterator key := by
  constructor
  · rintro ⟨before, answer, since, hPast, hLast, hSince⟩
    rcases List.eq_nil_or_concat since with rfl | ⟨since, event, rfl⟩
    · obtain ⟨rfl, hEvent⟩ := List.append_inj' hPast rfl
      cases hEvent
      exact .inl ⟨rfl, hLast⟩
    · rw [List.concat_eq_append, ← List.cons_append, ← List.append_assoc] at hPast
      obtain ⟨rfl, hEvent⟩ := List.append_inj' hPast rfl
      cases hEvent
      rw [List.concat_eq_append] at hSince
      obtain ⟨hSince, hStep⟩ := List.forall_mem_append.mp hSince
      exact .inr ⟨⟨before, answer, since, rfl, hLast, hSince⟩, hStep _ (List.mem_singleton.mpr rfl)⟩
  · rintro (⟨rfl, hLast⟩ | ⟨⟨before, answer, since, rfl, hLast, hSince⟩, hStep⟩)
    · exact ⟨past, reply, [], rfl, hLast, List.forall_mem_nil _⟩
    · refine ⟨before, answer, since ++ [(step, reply)], List.append_assoc _ _ _, hLast, ?_⟩
      exact List.forall_mem_append.mpr ⟨hSince, List.forall_mem_singleton.mpr hStep⟩

end Keys

theorem live_nodup {source : String} {s : Session} (h : s.Reachable source) : s.live.Nodup := by
  induction h with
  | opened => exact List.nodup_nil
  | @perform s _ step ih =>
    cases step with
    | openIterator key => exact ih.insert
    | nextOf key =>
      rw [perform]
      split
      next hKey =>
        rw [pullFor]
        split
        · exact ih.erase key
        · exact ih
      next => exact ih
    | advance | peek | next | drain | setTrace | setFilename => exact ih

theorem mem_live_perform_iff {s : Session} (hNodup : s.live.Nodup) (step : Step) (key : String) :
    key ∈ (s.perform step).session.live ↔ (key ∈ s.live ∨ step = .openIterator key) ∧
      ¬(step = .nextOf key ∧ (s.perform step).reply.isLast = true) := by
  cases step with
  | openIterator other =>
    have hInsert : key ∈ s.live.insert other ↔ key = other ∨ key ∈ s.live := List.mem_insert_iff
    change key ∈ s.live.insert other ↔ _
    rw [hInsert, or_comm]
    simp [@eq_comm _ other key]
  | nextOf other =>
    rw [perform]
    split
    next hLive =>
      simp only [pullFor, Reply.isLast_replyOf]
      split
      next hLast =>
        rw [hNodup.mem_erase_iff, hLast, and_comm]
        simp [@eq_comm _ other key]
      next hLast => simp [hLast]
    next hLive => simp [silent, Reply.isLast]
  | advance | peek | next | drain | setTrace | setFilename => simp [perform, silent]

/-- The live keys are those whose iterators have been opened and have not ended. -/
theorem mem_live_after_iff {source : String} {s : Session} (h : s.Reachable source)
    (hFresh : s.live = []) (past : List Step) (key : String) :
    key ∈ (s.after past).live ↔
      IsOpened key (s.history past) ∧ ¬IsExhausted key (s.history past) := by
  induction past using List.reverseRecOn with
  | nil =>
    have hNone : ¬IsOpened key (s.history []) := by
      rintro ⟨reply, hReply⟩
      cases hReply
    simp [after, hFresh, hNone]
  | append_singleton past step ih =>
    have hNodup := live_nodup (h.after past)
    rw [after_concat, history_concat, isOpened_concat, isExhausted_concat,
      mem_live_perform_iff hNodup, ih]
    tauto

theorem perform_nextOf_of_not_live {s : Session} {key : String} (h : key ∉ s.live) :
    s.perform (.nextOf key) = silent .stopped s := by
  rw [perform, if_neg h]

/-- A step of a consumer hands out what the scanner is pulled for, or leaves the scanner alone. -/
theorem perform_consuming {s : Session} {step : Step} (h : step.isConsuming = true) :
    ((s.perform step).reply.outcome? = some s.scanner.pull.outcome ∧
        (s.perform step).session.scanner = s.scanner.pull.scanner) ∨
      ((s.perform step).reply.outcome? = none ∧
        (s.perform step).session.scanner = s.scanner) := by
  cases step with
  | next => exact .inl ⟨Reply.outcome?_replyOf _, rfl⟩
  | openIterator key => exact .inr ⟨rfl, rfl⟩
  | nextOf key =>
    rw [perform]
    split
    · exact .inl ⟨Reply.outcome?_replyOf _, rfl⟩
    · exact .inr ⟨rfl, rfl⟩
  | advance | peek | drain | setTrace | setFilename => cases h

theorem handedOut_performAll {s : Session} {steps : List Step}
    (h : ∀ step ∈ steps, step.isConsuming = true) :
    handedOut (s.performAll steps) =
      s.scanner.outcomes (handedOut (s.performAll steps)).length := by
  induction steps generalizing s with
  | nil => rfl
  | cons step steps ih =>
    obtain ⟨hStep, hSteps⟩ := List.forall_mem_cons.mp h
    have hRest : handedOut ((s.perform step).session.performAll steps) = _ := ih hSteps
    rcases perform_consuming hStep with ⟨hReply, hScanner⟩ | ⟨hReply, hScanner⟩
    · have hOut : handedOut (s.performAll (step :: steps)) =
          s.scanner.pull.outcome :: handedOut ((s.perform step).session.performAll steps) :=
        List.filterMap_cons_some hReply
      rw [hScanner] at hRest
      rw [hOut, List.length_cons, Scanner.outcomes, ← hRest]
    · have hOut : handedOut (s.performAll (step :: steps)) =
          handedOut ((s.perform step).session.performAll steps) :=
        List.filterMap_cons_none hReply
      rw [hScanner] at hRest
      rw [hOut, ← hRest]

theorem handedOut_prefix_or_prefix {s : Session} {steps : List Step}
    (h : ∀ step ∈ steps, step.isConsuming = true) :
    handedOut (s.performAll steps) <+: s.scanner.stream ∨
      s.scanner.stream <+: handedOut (s.performAll steps) := by
  rw [handedOut_performAll h, Scanner.stream_eq_outcomes]
  rcases Nat.le_total (handedOut (s.performAll steps)).length s.scanner.stream.length with hLe | hLe
  · exact .inl (s.scanner.outcomes_isPrefix hLe)
  · exact .inr (s.scanner.outcomes_isPrefix hLe)

theorem reply_of_reaches {source : String} {s : Session} (h : s.Reachable source)
    (hFresh : s.live = []) {past : List Step} {step : Step}
    (hReaches : Reaches (s.history past) step) :
    ((s.after past).perform step).reply = replyOf (s.after past).scanner.pull.outcome := by
  cases hReaches with
  | next => rfl
  | @nextOf key hOpened hLive =>
    have hKey := (mem_live_after_iff h hFresh past key).mpr ⟨hOpened, hLive⟩
    rw [perform, if_pos hKey]
    rfl

theorem outcome?_perform_ne_none_iff {source : String} {s : Session} (h : s.Reachable source)
    (hFresh : s.live = []) (past : List Step) {step : Step} (hStep : step.isConsuming = true) :
    ((s.after past).perform step).reply.outcome? ≠ none ↔ Reaches (s.history past) step := by
  constructor
  · intro hReply
    cases step with
    | next => exact .next
    | openIterator key => exact absurd rfl hReply
    | nextOf key =>
      have hKey : key ∈ (s.after past).live := by
        by_contra hKey
        rw [perform_nextOf_of_not_live hKey] at hReply
        exact hReply rfl
      obtain ⟨hOpened, hLive⟩ := (mem_live_after_iff h hFresh past key).mp hKey
      exact .nextOf hOpened hLive
    | advance | peek | drain | setTrace | setFilename => cases hStep
  · intro hReaches
    rw [reply_of_reaches h hFresh hReaches, Reply.outcome?_replyOf]
    exact Option.some_ne_none _

theorem Reachable.rest_eq_nil {source : String} {s : Session} (h : s.Reachable source)
    (hEnd : (programText source).length ≤ s.scanner.cursor.position) :
    s.scanner.cursor.rest = [] := by
  rw [h.cursor_eq]
  exact List.drop_of_length_le hEnd

/-- What consumers that have taken some steps from the start of a session can rely on. -/
structure Shared (start : Session) (past : List Step) : Prop where
  /-- Up to the end of the stream, what has been handed out is what comes first in it. -/
  inOrder : handedOut (start.performAll past) <+: start.scanner.stream ∨
    start.scanner.stream <+: handedOut (start.performAll past)
  handsOut : ∀ step : Step, step.isConsuming = true →
    (((start.after past).perform step).reply.outcome? ≠ none ↔ Reaches (start.history past) step)
  exhausted : ∀ key, IsExhausted key (start.history past) →
    (start.after past).perform (.nextOf key) = silent .stopped (start.after past)
  usedUp : ∀ step, Reaches (start.history past) step →
    start.scanner.cursor.buffer.length ≤ (start.after past).scanner.cursor.position →
    ∃ t : Token, ((start.after past).perform step).reply = .token t ∧ t.toWord = .endOfInput

/-- However the consumers take turns, they are handed the tokens of the program in their order,
and then its failure if it has one. -/
theorem consumers_share_stream (source : String) (filename : Option String) (settings : Settings)
    (past : List Step) (h : ∀ step ∈ past, step.isConsuming = true) :
    Scanner.IsStreamOf (tokenize source filename settings)
        (Scanner.ofSource source filename settings).stream ∧
      Shared (ofScanner (.ofSource source filename settings)) past := by
  have hReached : (ofScanner (.ofSource source filename settings)).Reachable source :=
    .opened filename settings
  refine ⟨Scanner.isStreamOf_tokens _, handedOut_prefix_or_prefix h, ?_, ?_, ?_⟩
  · intro step hStep
    exact outcome?_perform_ne_none_iff hReached rfl past hStep
  · intro key hExhausted
    apply perform_nextOf_of_not_live
    intro hKey
    exact ((mem_live_after_iff hReached rfl past key).mp hKey).2 hExhausted
  · intro step hReaches hEnd
    have hRest := (hReached.after past).rest_eq_nil hEnd
    rw [reply_of_reaches hReached rfl hReaches, Scanner.outcome_pull_of_rest_eq_nil hRest]
    exact ⟨_, rfl, rfl⟩

/-- Two iterators over a program that is used up. The later one has met the end itself and is
exhausted, the earlier one still meets it. -/
theorem consumers_share_stream_past_end :
    Shared (ofScanner (.ofSource "a" none {}))
        [.openIterator "i", .nextOf "i", .next, .openIterator "j", .nextOf "j"] ∧
      ((ofScanner (.ofSource "a" none {})).after
          [.openIterator "i", .nextOf "i", .next, .openIterator "j", .nextOf "j"]).perform
          (.nextOf "j") =
        silent .stopped ((ofScanner (.ofSource "a" none {})).after
          [.openIterator "i", .nextOf "i", .next, .openIterator "j", .nextOf "j"]) ∧
      ∃ t : Token, (((ofScanner (.ofSource "a" none {})).after
          [.openIterator "i", .nextOf "i", .next, .openIterator "j", .nextOf "j"]).perform
          (.nextOf "i")).reply = .token t ∧ t.toWord = .endOfInput := by
  obtain ⟨-, hShared⟩ := consumers_share_stream "a" none {}
    [.openIterator "i", .nextOf "i", .next, .openIterator "j", .nextOf "j"] (by decide)
  refine ⟨hShared, hShared.exhausted "j" ?_, hShared.usedUp (.nextOf "i") ?_ (by cbv)⟩
  · exact ⟨_, _, [], history_concat _ [.openIterator "i", .nextOf "i", .next, .openIterator "j"]
      (.nextOf "j"), by cbv, List.forall_mem_nil _⟩
  · have hKeys : ((ofScanner (.ofSource "a" none {})).after
        [.openIterator "i", .nextOf "i", .next, .openIterator "j", .nextOf "j"]).live = ["i"] := by
      cbv
    have hLive := mem_live_after_iff (Reachable.opened none {} : Reachable "a" _) rfl
      [.openIterator "i", .nextOf "i", .next, .openIterator "j", .nextOf "j"] "i"
    rw [hKeys] at hLive
    obtain ⟨hOpened, hNotEnded⟩ := hLive.mp (List.mem_singleton.mpr rfl)
    exact .nextOf hOpened hNotEnded

end TeenyLexer.Session
