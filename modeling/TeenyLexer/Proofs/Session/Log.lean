import Mathlib
import TeenyLexer.Proofs.Session.Naming
import TeenyLexer.Proofs.Session.Pulls

/-! # The log of a session

Opening a scanner makes one record. After that every pull that fails makes one, and every pull that
hands out a token makes one while tracing is on. Nothing else is recorded, and every record says
what has been handed out, under the name that is in force at that moment.
-/

namespace TeenyLexer

/-- The message by which a log tells what a pull has handed out. -/
inductive Tells (filename : String) : Except Diagnostic Token → String → Prop
  | token (t : Token) :
      Tells filename (.ok t) (filename ++ ": Token(" ++ t.kind.name ++ ", " ++
        Text.quote t.lexeme ++ ", " ++ toString t.location.line ++ ":" ++
        toString t.location.column ++ ")")
  | failure {d : Diagnostic} {l : Location} (place : d.location = some l) :
      Tells filename (.error d) ("Lexical error (" ++ d.fault.name ++ ") at " ++ l.filename ++
        ":" ++ toString l.line ++ ":" ++ toString l.column ++ ": " ++ d.fault.description)

/-- Failures are always told, tokens only while tracing is on. -/
def isTold (trace : Bool) : Except Diagnostic Token → Bool
  | .ok _ => trace
  | .error _ => true

/-- One message for each outcome that is told, in their order. -/
def TellsAll (filename : String) (trace : Bool) (outcomes : List (Except Diagnostic Token))
    (messages : List String) : Prop :=
  List.Forall₂ (Tells filename) (outcomes.filter (isTold trace)) messages

theorem tellsAll_traced_iff {filename : String} {outcomes : List (Except Diagnostic Token)}
    {messages : List String} :
    TellsAll filename true outcomes messages ↔ List.Forall₂ (Tells filename) outcomes messages := by
  have hAll : ∀ outcome ∈ outcomes, isTold true outcome = true := by
    intro outcome _
    cases outcome <;> rfl
  rw [TellsAll, List.filter_eq_self.mpr hAll]

/-- An outcome that knows its place in the program. -/
def IsPlaced : Except Diagnostic Token → Prop
  | .ok t => t.location.line ≠ 0
  | .error d => ∃ l, d.location = some l

namespace Record

theorem message_delivered {t : Token} (h : t.location.line ≠ 0) (filename : String) :
    (delivered filename t).message = filename ++ ": Token(" ++ t.kind.name ++ ", " ++
      Text.quote t.lexeme ++ ", " ++ toString t.location.line ++ ":" ++
      toString t.location.column ++ ")" := by
  have hText : t.text = "Token(" ++ (t.kind.name ++ ", " ++ Text.quote t.lexeme) ++ ", " ++
      (toString t.location.line ++ ":" ++ toString t.location.column) ++ ")" := if_neg h
  have hColon : ": Token(" = ": " ++ "Token(" := rfl
  change filename ++ ": " ++ t.text = _
  rw [hText, hColon]
  simp only [String.append_assoc]

theorem message_failed (fault : Fault) (l : Location) :
    (failed fault l).message = "Lexical error (" ++ fault.name ++ ") at " ++ l.filename ++
      ":" ++ toString l.line ++ ":" ++ toString l.column ++ ": " ++ fault.description := by
  change "Lexical error (" ++ fault.name ++ ") at " ++ l.text ++ ": " ++ fault.description = _
  simp only [Location.text, String.append_assoc]

theorem tellsAll_ofOutcome {outcome : Except Diagnostic Token} (h : IsPlaced outcome)
    (filename : String) (trace : Bool) :
    TellsAll filename trace [outcome] ((ofOutcome filename trace outcome).map message) := by
  cases outcome with
  | ok t =>
    cases trace with
    | false => exact .nil
    | true =>
      change List.Forall₂ _ [Except.ok t] [(delivered filename t).message]
      rw [message_delivered h]
      exact .cons (.token t) .nil
  | error d =>
    obtain ⟨l, hPlace⟩ := h
    change List.Forall₂ _ [Except.error d] ((d.location.toList.map (failed d.fault)).map message)
    rw [hPlace]
    change List.Forall₂ _ [Except.error d] [(failed d.fault l).message]
    rw [message_failed]
    exact .cons (.failure hPlace) .nil

theorem tellsAll_flatMap_ofOutcome {outcomes : List (Except Diagnostic Token)}
    (h : ∀ outcome ∈ outcomes, IsPlaced outcome) (filename : String) (trace : Bool) :
    TellsAll filename trace outcomes
      ((outcomes.flatMap (ofOutcome filename trace)).map message) := by
  induction outcomes with
  | nil => exact .nil
  | cons outcome outcomes ih =>
    obtain ⟨hFirst, hRest⟩ := List.forall_mem_cons.mp h
    rw [List.flatMap_cons, List.map_append, TellsAll, ← List.singleton_append, List.filter_append]
    exact List.rel_append (tellsAll_ofOutcome hFirst filename trace) (ih hRest)

end Record

namespace Scanner

theorem isPlaced_outcome_pull {s : Scanner} {buffer : List Char} {offset : Nat}
    (h : s.cursor = .atOffset buffer offset) : IsPlaced s.pull.outcome := by
  cases hOutcome : s.pull.outcome with
  | error d => exact location_of_pull_eq_error hOutcome
  | ok t =>
    obtain ⟨hLocation, -⟩ := reading_of_ok hOutcome
    rw [h, Cursor.skipLayout_atOffset, Cursor.location_atOffset] at hLocation
    change t.location.line ≠ 0
    rw [hLocation]
    exact Int.natCast_ne_zero.mpr (Nat.succ_ne_zero _)

theorem isPlaced_of_mem_pulls {s : Scanner} {buffer : List Char} {offset : Nat}
    (h : s.cursor = .atOffset buffer offset) {p : Pull} (hp : p ∈ s.pulls) :
    IsPlaced p.outcome := by
  obtain ⟨n, rfl⟩ := exists_pull_of_mem_pulls hp
  have hCursor : s.cursor.advanceBy n = .atOffset buffer (offset + n) := by
    rw [h, Cursor.advanceBy_atOffset]
  exact isPlaced_outcome_pull hCursor

end Scanner

namespace Session

/-- Whether tracing is on behind some steps: as it was set last, or as at the opening. -/
def traceAfter (opening : Bool) : List Step → Bool
  | [] => opening
  | .setTrace trace :: steps => traceAfter trace steps
  | _ :: steps => traceAfter opening steps

/-- All that has been recorded of a session, from the opening of its scanner on. -/
def log (start : Session) (steps : List Step) : List Record :=
  start.scanner.openingRecord :: (start.performAll steps).flatMap Response.records

theorem traceAfter_cons (opening : Bool) (step : Step) (steps : List Step) :
    traceAfter opening (step :: steps) = traceAfter (traceAfter opening [step]) steps := by
  cases step <;> rfl

theorem performAll_concat (s : Session) (past : List Step) (step : Step) :
    s.performAll (past ++ [step]) = s.performAll past ++ [(s.after past).perform step] := by
  induction past generalizing s with
  | nil => rfl
  | cons first past ih => exact congrArg (s.perform first :: ·) (ih _)

theorem log_concat (start : Session) (past : List Step) (step : Step) :
    start.log (past ++ [step]) = start.log past ++ ((start.after past).perform step).records := by
  rw [log, log, performAll_concat, List.flatMap_append, List.flatMap_singleton, List.cons_append]

theorem labels_perform (s : Session) (step : Step) :
    (s.perform step).session.scanner.filename = nameAfter s.scanner.filename [step] ∧
      (s.perform step).session.scanner.trace = traceAfter s.scanner.trace [step] := by
  cases step with
  | advance | peek | openIterator | setTrace | setFilename => exact ⟨rfl, rfl⟩
  | next =>
    rw [perform, Scanner.scanner_pull]
    exact ⟨rfl, rfl⟩
  | drain =>
    obtain ⟨n, hScanner⟩ := scanner_afterPulls s.scanner
    rw [perform, hScanner]
    exact ⟨rfl, rfl⟩
  | nextOf key =>
    rw [perform]
    split
    · rw [pullFor, Scanner.scanner_pull]
      exact ⟨rfl, rfl⟩
    · exact ⟨rfl, rfl⟩

theorem labels_after (s : Session) (past : List Step) :
    (s.after past).scanner.filename = nameAfter s.scanner.filename past ∧
      (s.after past).scanner.trace = traceAfter s.scanner.trace past := by
  induction past generalizing s with
  | nil => exact ⟨rfl, rfl⟩
  | cons step past ih =>
    obtain ⟨hName, hTrace⟩ := labels_perform s step
    rw [nameAfter_cons, traceAfter_cons, ← hName, ← hTrace]
    exact ih _

/-- A step records what its pulls hand out. -/
theorem records_perform (s : Session) (step : Step) :
    (s.perform step).records = ((s.pulls step).map Pull.outcome).flatMap
      (Record.ofOutcome s.scanner.filename s.scanner.trace) := by
  have hPull : s.scanner.pull.records = ([s.scanner.pull].map Pull.outcome).flatMap
      (Record.ofOutcome s.scanner.filename s.scanner.trace) := by
    rw [List.map_singleton, List.flatMap_singleton, Scanner.records_pull]
  cases step with
  | advance | peek | openIterator | setTrace | setFilename => rfl
  | next => exact hPull
  | drain => exact s.scanner.recorded_pulls
  | nextOf key =>
    rw [perform, pulls]
    split
    · exact hPull
    · rfl

theorem Reachable.tellsAll_perform {source : String} {s : Session} (h : s.Reachable source)
    (step : Step) :
    TellsAll s.scanner.filename s.scanner.trace ((s.pulls step).map Pull.outcome)
      ((s.perform step).records.map Record.message) := by
  rw [records_perform]
  apply Record.tellsAll_flatMap_ofOutcome
  intro outcome hOutcome
  obtain ⟨p, hp, rfl⟩ := List.mem_map.mp hOutcome
  exact Scanner.isPlaced_of_mem_pulls h.cursor_eq (s.pulls_subset step hp)

theorem pulls_of_reaches {source : String} {s : Session} (h : s.Reachable source)
    (hFresh : s.live = []) {past : List Step} {step : Step}
    (hReaches : Reaches (s.history past) step) :
    (s.after past).pulls step = [(s.after past).scanner.pull] := by
  cases hReaches with
  | next => rfl
  | @nextOf key hOpened hLive =>
    exact if_pos ((mem_live_after_iff h hFresh past key).mpr ⟨hOpened, hLive⟩)

theorem pulls_of_not_reaches {source : String} {s : Session} (h : s.Reachable source)
    (hFresh : s.live = []) {past : List Step} {step : Step} (hDrain : step ≠ .drain)
    (hReaches : ¬Reaches (s.history past) step) : (s.after past).pulls step = [] := by
  cases step with
  | advance | peek | openIterator | setTrace | setFilename => rfl
  | next => exact absurd .next hReaches
  | drain => exact absurd rfl hDrain
  | nextOf key =>
    apply if_neg
    intro hKey
    obtain ⟨hOpened, hLive⟩ := (mem_live_after_iff h hFresh past key).mp hKey
    exact hReaches (.nextOf hOpened hLive)

/-- A step behind some others, and the messages that it adds to the log: those of its pull, if it
reaches the scanner, and those of all its pulls, if it is a drain. -/
structure AddsToLog (start : Session) (past : List Step) (step : Step) (filename : String)
    (trace : Bool) (messages : List String) : Prop where
  added : (start.log (past ++ [step])).map Record.message =
    (start.log past).map Record.message ++ messages
  pulled : Reaches (start.history past) step → ∃ outcome,
    ((start.after past).perform step).reply = replyOf outcome ∧
      TellsAll filename trace [outcome] messages
  drained : step = .drain →
    ((start.after past).perform step).reply = replyOfAll (start.after past).scanner.tokens ∧
      Scanner.IsStreamOf (start.after past).scanner.tokens (start.after past).scanner.stream ∧
      TellsAll filename trace (start.after past).scanner.stream messages
  idle : step ≠ .drain → ¬Reaches (start.history past) step → messages = []

theorem addsToLog {source : String} {start : Session} (h : start.Reachable source)
    (hFresh : start.live = []) (past : List Step) (step : Step) :
    AddsToLog start past step (nameAfter start.scanner.filename past)
      (traceAfter start.scanner.trace past)
      (((start.after past).perform step).records.map Record.message) := by
  obtain ⟨hName, hTrace⟩ := labels_after start past
  have hTold := (h.after past).tellsAll_perform step
  rw [hName, hTrace] at hTold
  refine ⟨?_, ?_, ?_, ?_⟩
  · rw [log_concat, List.map_append]
  · intro hReaches
    rw [pulls_of_reaches h hFresh hReaches] at hTold
    exact ⟨_, reply_of_reaches h hFresh hReaches, hTold⟩
  · rintro rfl
    exact ⟨rfl, Scanner.isStreamOf_tokens _, hTold⟩
  · intro hDrain hReaches
    rw [records_perform, pulls_of_not_reaches h hFresh hDrain hReaches]
    rfl

/-- The log of every session tells what has happened in it, and the log of a traced scan is made of
its opening, its tokens in their order and its failure if it has one. -/
theorem log_tells_outcomes (source : String) (filename : Option String) (settings : Settings) :
    let name := Settings.filenameOr settings.filename filename
    let start := ofScanner (.ofSource source filename settings)
    let opening := "Scanning " ++ name ++ " (" ++ toString source.length ++ " characters)"
    (start.log []).map Record.message = [opening] ∧
      (∀ past step, ∃ messages, AddsToLog start past step (nameAfter name past)
        (traceAfter settings.trace past) messages) ∧
      (settings.trace = true → ∃ messages,
        (start.log [.drain]).map Record.message = opening :: messages ∧
        (∀ tokens, tokenize source filename settings = .ok tokens →
          List.Forall₂ (Tells name) (tokens.map .ok) messages) ∧
        ∀ d, tokenize source filename settings = .error d →
          List.Forall₂ (Tells name)
            ((Scanner.delivered start.scanner.pulls).map .ok ++ [.error d]) messages) := by
  intro name start opening
  have hReached : start.Reachable source := .opened filename settings
  have hOpening : (start.log []).map Record.message = [opening] := by
    have hLength : start.scanner.cursor.buffer.length - 1 = source.length := by
      change (programText source).length - 1 = source.length
      rw [length_programText, Nat.add_sub_cancel]
    change [Record.message (.opened name (start.scanner.cursor.buffer.length - 1))] = _
    rw [hLength]
    rfl
  refine ⟨hOpening, fun past step => ⟨_, addsToLog hReached rfl past step⟩, ?_⟩
  intro hTrace
  obtain ⟨messages, hDrained⟩ : ∃ messages, AddsToLog start [] .drain name settings.trace messages :=
    ⟨_, addsToLog hReached rfl [] .drain⟩
  have hAdded := hDrained.added
  obtain ⟨-, -, hTold⟩ := hDrained.drained rfl
  rw [hOpening] at hAdded
  rw [hTrace, tellsAll_traced_iff] at hTold
  refine ⟨messages, hAdded, ?_, ?_⟩
  · intro tokens hTokens
    have hStream : start.scanner.stream = _ := Scanner.stream_of_tokens_eq_ok hTokens
    exact hStream ▸ hTold
  · intro d hFails
    have hStream : start.scanner.stream = _ := Scanner.stream_of_tokens_eq_error hFails
    exact hStream ▸ hTold

/-- The failure is told although tracing has been turned off, and under the name given since. An
iterator that has met it is not heard of again. -/
theorem log_tells_outcomes_at_mark :
    (∃ messages, AddsToLog (ofScanner (.ofSource "a !" none {}))
        [.setTrace true, .next, .setTrace false, .setFilename "f"] .next "f" false messages ∧
      messages = ["Lexical error (malformed-operator) at f:1:3: " ++
        "expected '!=', got '!' followed by newline"]) ∧
    (∃ messages, AddsToLog (ofScanner (.ofSource "a !" none {}))
        [.advance 1, .openIterator "i", .nextOf "i"] (.nextOf "i") "<input>" false messages ∧
      messages = []) ∧
    ∃ messages, ((ofScanner (.ofSource "a !" (some "p") ⟨"q", true⟩)).log [.drain]).map
        Record.message = "Scanning p (3 characters)" :: messages ∧
      List.Forall₂ (Tells "p") [.ok ⟨⟨.identifier, "a"⟩, ⟨"p", 1, 1⟩⟩,
        .error ⟨.malformedOperator (.ofChar '\n'), some ⟨"p", 1, 3⟩, some "a !"⟩] messages := by
  obtain ⟨-, hSteps, -⟩ := log_tells_outcomes "a !" none {}
  obtain ⟨-, -, hTraced⟩ := log_tells_outcomes "a !" (some "p") ⟨"q", true⟩
  refine ⟨?_, ?_, ?_⟩
  · obtain ⟨messages, hAdds⟩ := hSteps
      [.setTrace true, .next, .setTrace false, .setFilename "f"] .next
    refine ⟨messages, hAdds, ?_⟩
    obtain ⟨outcome, hReply, hTold⟩ := hAdds.pulled .next
    have hFails : (((ofScanner (.ofSource "a !" none {})).after
        [.setTrace true, .next, .setTrace false, .setFilename "f"]).perform .next).reply = replyOf
        (.error ⟨.malformedOperator (.ofChar '\n'), some ⟨"f", 1, 3⟩, some "a !"⟩) := by cbv
    obtain rfl : outcome = .error ⟨.malformedOperator (.ofChar '\n'), some ⟨"f", 1, 3⟩,
        some "a !"⟩ := by
      have hOutcome := congrArg Reply.outcome? (hReply.symm.trans hFails)
      rwa [Reply.outcome?_replyOf, Reply.outcome?_replyOf, Option.some.injEq] at hOutcome
    obtain ⟨message, rest, hTells, hNone, rfl⟩ := List.forall₂_cons_left_iff.mp hTold
    obtain rfl := List.forall₂_nil_left_iff.mp hNone
    cases hTells with
    | failure hPlace =>
      cases hPlace
      decide
  · obtain ⟨messages, hAdds⟩ := hSteps [.advance 1, .openIterator "i", .nextOf "i"] (.nextOf "i")
    refine ⟨messages, hAdds, hAdds.idle Step.noConfusion ?_⟩
    intro hReaches
    cases hReaches with
    | nextOf _ hLive =>
      apply hLive
      exact ⟨_, _, [], history_concat _ [.advance 1, .openIterator "i"] (.nextOf "i"), by cbv,
        List.forall_mem_nil _⟩
  · obtain ⟨messages, hLog, -, hFails⟩ := hTraced rfl
    refine ⟨messages, hLog, ?_⟩
    have hDelivered : Scanner.delivered (Scanner.ofSource "a !" (some "p") ⟨"q", true⟩).pulls =
        [⟨⟨.identifier, "a"⟩, ⟨"p", 1, 1⟩⟩] := by cbv
    have hTold : List.Forall₂ (Tells "p")
        ((Scanner.delivered (Scanner.ofSource "a !" (some "p") ⟨"q", true⟩).pulls).map .ok ++
          [.error ⟨.malformedOperator (.ofChar '\n'), some ⟨"p", 1, 3⟩, some "a !"⟩]) messages :=
      hFails _ (by cbv)
    rwa [hDelivered] at hTold

end Session

end TeenyLexer
