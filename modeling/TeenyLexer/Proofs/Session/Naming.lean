import Mathlib
import TeenyLexer.Proofs.Scanner.Naming
import TeenyLexer.Proofs.Session.Sharing

/-! # Sessions under other names

Two sessions over one program take the same course when their steps differ only in the names that
they give and the tracing that they set. Their cursors stay together, the same iterators end, and
their replies say the same, each under the name that is in force in its session.
-/

namespace TeenyLexer.Session

namespace Step

/-- Steps that differ at most in the tracing that they set or in the name that they give. -/
inductive Alike : Step → Step → Prop
  | same (step : Step) : Alike step step
  | setTrace (trace trace' : Bool) : Alike (.setTrace trace) (.setTrace trace')
  | setFilename (filename filename' : String) : Alike (.setFilename filename) (.setFilename filename')

end Step

/-- The name that is in force behind some steps: the one given last, or the one at the opening. -/
def nameAfter (opening : String) : List Step → String
  | [] => opening
  | .setFilename filename :: steps => nameAfter filename steps
  | _ :: steps => nameAfter opening steps

theorem nameAfter_cons (opening : String) (step : Step) (steps : List Step) :
    nameAfter opening (step :: steps) = nameAfter (nameAfter opening [step]) steps := by
  cases step <;> rfl

namespace Reply

def named (filename : String) : Reply → Reply
  | .token t => .token (t.named filename)
  | .tokens ts => .tokens (ts.map (Token.named filename))
  | .failure d => .failure (d.named filename)
  | .done => .done
  | .character c => .character c
  | .stopped => .stopped

theorem replyOf_namedOutcome (filename : String) (outcome : Except Diagnostic Token) :
    replyOf (namedOutcome filename outcome) = (replyOf outcome).named filename := by
  cases outcome <;> rfl

theorem replyOfAll_namedAnswer (filename : String) (answer : Except Diagnostic (List Token)) :
    replyOfAll (namedAnswer filename answer) = (replyOfAll answer).named filename := by
  cases answer <;> rfl

/-- The replies of two sessions in which different names are in force. -/
structure SameButNames (name name' : String) (reply reply' : Reply) : Prop where
  /-- Every location of the first reply has the first name. -/
  carries : reply.named name = reply
  /-- The second reply is the first one with the second name in all of its locations. -/
  renamed : reply.named name' = reply'
  /-- The texts of failures differ in the names with which they begin, and nowhere else. -/
  message : ∀ d d', reply = .failure d → reply' = .failure d' →
    ∃ behind, d.message = name ++ behind ∧ d'.message = name' ++ behind

end Reply

def relabelled (s : Session) (filename : String) (trace : Bool) : Session :=
  { s with scanner := s.scanner.relabelled filename trace }

theorem afterPulls_relabelled (s : Scanner) (filename : String) (trace : Bool) :
    afterPulls (s.relabelled filename trace) (s.relabelled filename trace).pulls =
      (afterPulls s s.pulls).relabelled filename trace := by
  induction s using Scanner.pulls.induct with
  | case1 s hLast ih =>
    have hLast' : (s.relabelled filename trace).pull.isLast = false := by
      rw [Scanner.isLast_pull_relabelled, hLast]
    rw [afterPulls_of_not_isLast hLast', afterPulls_of_not_isLast hLast,
      Scanner.scanner_pull_relabelled, ih]
  | case2 s hLast =>
    have hLast' : ¬(s.relabelled filename trace).pull.isLast = false := by
      rwa [Scanner.isLast_pull_relabelled]
    rw [afterPulls_of_isLast hLast', afterPulls_of_isLast hLast, Scanner.scanner_pull_relabelled]

/-- Under another name a session answers alike and stays the same session under another name. -/
theorem perform_relabelled {step step' : Step} (h : step.Alike step') (s : Session)
    (filename : String) (trace : Bool) :
    ((s.relabelled filename trace).perform step').reply = (s.perform step).reply.named filename ∧
      ∃ trace', ((s.relabelled filename trace).perform step').session =
        (s.perform step).session.relabelled (nameAfter filename [step']) trace' := by
  have hScanner := s.scanner.scanner_pull_relabelled filename trace
  have hReply : replyOf (s.scanner.relabelled filename trace).pull.outcome =
      (replyOf s.scanner.pull.outcome).named filename := by
    rw [Scanner.outcome_pull_relabelled, Reply.replyOf_namedOutcome]
  cases h with
  | setTrace _ trace' => exact ⟨rfl, trace', rfl⟩
  | setFilename => exact ⟨rfl, trace, rfl⟩
  | same =>
    cases step with
    | advance | peek | openIterator => exact ⟨rfl, trace, rfl⟩
    | setTrace trace' => exact ⟨rfl, trace', rfl⟩
    | setFilename => exact ⟨rfl, trace, rfl⟩
    | next => exact ⟨hReply, trace, congrArg (Session.mk · s.live) hScanner⟩
    | drain =>
      refine ⟨?_, trace, congrArg (Session.mk · s.live) (afterPulls_relabelled _ _ _)⟩
      change replyOfAll (s.scanner.relabelled filename trace).tokens = _
      rw [Scanner.tokens_relabelled, Reply.replyOfAll_namedAnswer]
      rfl
    | nextOf key =>
      have hKeys : (s.relabelled filename trace).live = s.live := rfl
      by_cases hKey : key ∈ s.live
      · have hLive := s.scanner.isLast_pull_relabelled filename trace
        rw [perform, perform, if_pos hKey, if_pos (hKeys ▸ hKey)]
        refine ⟨hReply, trace, ?_⟩
        change Session.mk (s.scanner.relabelled filename trace).pull.scanner
          (if (s.scanner.relabelled filename trace).pull.isLast then s.live.erase key
            else s.live) = _
        rw [hScanner, hLive]
        rfl
      · rw [perform, perform, if_neg hKey, if_neg (hKeys ▸ hKey)]
        exact ⟨rfl, trace, rfl⟩

theorem after_relabelled {past past' : List Step} (h : List.Forall₂ Step.Alike past past')
    (s : Session) (filename : String) (trace : Bool) :
    ∃ trace', (s.relabelled filename trace).after past' =
      (s.after past).relabelled (nameAfter filename past') trace' := by
  induction h generalizing s filename trace with
  | nil => exact ⟨trace, rfl⟩
  | @cons step step' past past' hStep _ ih =>
    obtain ⟨-, trace', hSession⟩ := perform_relabelled hStep s filename trace
    rw [nameAfter_cons, Session.after, hSession]
    exact ih _ _ _

/-- Sessions over one program that differ only in names and tracing cannot be told apart by anything
else. -/
theorem perform_sameButNames (source : String) (filename filename' : Option String)
    (settings settings' : Settings) {past past' : List Step}
    (h : List.Forall₂ Step.Alike past past') :
    let s := (ofScanner (.ofSource source filename settings)).after past
    let s' := (ofScanner (.ofSource source filename' settings')).after past'
    s'.scanner.cursor = s.scanner.cursor ∧ s'.live = s.live ∧
      ∀ step step' : Step, step.Alike step' → Reply.SameButNames
        (nameAfter (Settings.filenameOr settings.filename filename) past)
        (nameAfter (Settings.filenameOr settings'.filename filename') past')
        (s.perform step).reply (s'.perform step').reply := by
  intro s s'
  let start := ofScanner (.ofSource source filename settings)
  have hSame : List.Forall₂ Step.Alike past past := List.forall₂_same.mpr fun step _ => .same step
  obtain ⟨trace, hOwn⟩ := after_relabelled hSame start
    (Settings.filenameOr settings.filename filename) settings.trace
  obtain ⟨trace', hOther⟩ := after_relabelled h start
    (Settings.filenameOr settings'.filename filename') settings'.trace
  change s = s.relabelled _ _ at hOwn
  change s' = s.relabelled _ _ at hOther
  refine ⟨by rw [hOther]; rfl, by rw [hOther]; rfl, fun step step' hStep => ?_⟩
  have hCarries := (perform_relabelled (.same step) s (nameAfter
    (Settings.filenameOr settings.filename filename) past) trace).1
  have hRenamed := (perform_relabelled hStep s (nameAfter
    (Settings.filenameOr settings'.filename filename') past') trace').1
  rw [← hOwn] at hCarries
  rw [← hOther] at hRenamed
  refine ⟨hCarries.symm, hRenamed.symm, fun d d' hFailure hFailure' => ?_⟩
  have hReached : s.Reachable source := (Reachable.opened filename settings).after past
  obtain ⟨before, -, -, hOutcome, -⟩ := hReached.exists_pull_of_failure hFailure
  obtain ⟨location, hLocation⟩ := Scanner.location_of_pull_eq_error hOutcome
  obtain ⟨behind, hMessage⟩ := Diagnostic.exists_message_named hLocation
  rw [hFailure] at hCarries hRenamed
  rw [hFailure'] at hRenamed
  refine ⟨behind, ?_, ?_⟩
  · rw [← hMessage, ← Reply.failure.inj hCarries]
  · rw [← hMessage, Reply.failure.inj hRenamed]

/-- The iterator has read the first word when the names change, and is still live when the scan has
met the fault. An empty name is a name where it is given in a step. -/
theorem perform_sameButNames_at_fault :
    List.Forall₂ Step.Alike
        [.openIterator "i", .setTrace true, .nextOf "i", .setFilename "p", .drain]
        [.openIterator "i", .setTrace false, .nextOf "i", .setFilename "", .drain] ∧
      Reply.SameButNames "p" ""
        (((ofScanner (.ofSource "a\n!b" none {})).after
          [.openIterator "i", .setTrace true, .nextOf "i", .setFilename "p", .drain]).perform
            (.nextOf "i")).reply
        (((ofScanner (.ofSource "a\n!b" (some "lib") ⟨"q", true⟩)).after
          [.openIterator "i", .setTrace false, .nextOf "i", .setFilename "", .drain]).perform
            (.nextOf "i")).reply ∧
      (((ofScanner (.ofSource "a\n!b" (some "lib") ⟨"q", true⟩)).after
          [.openIterator "i", .setTrace false, .nextOf "i", .setFilename "", .drain]).perform
            (.nextOf "i")).reply =
        .failure ⟨.malformedOperator (.ofChar 'b'), some ⟨"", 2, 1⟩, some "!b"⟩ := by
  have hSteps : List.Forall₂ Step.Alike
      [.openIterator "i", .setTrace true, .nextOf "i", .setFilename "p", .drain]
      [.openIterator "i", .setTrace false, .nextOf "i", .setFilename "", .drain] :=
    .cons (.same _) (.cons (.setTrace _ _) (.cons (.same _) (.cons (.setFilename _ _)
      (.cons (.same _) .nil))))
  obtain ⟨-, -, hReplies⟩ := perform_sameButNames "a\n!b" none (some "lib") {} ⟨"q", true⟩ hSteps
  exact ⟨hSteps, hReplies _ _ (.same (.nextOf "i")), by cbv⟩

end TeenyLexer.Session
