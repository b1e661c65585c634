import TeenyLexer.Proofs.Scanner.Reachable
import TeenyLexer.Proofs.Scanner.Stream

/-! # Pulls of a session

A step of a session pulls the scanner once, not at all, or up to the end of the input or a failure.
Whatever tokens a step shows have been returned by these pulls, and when it fails one of them has
failed. A drain that fails shows none of the tokens that have been returned to it before.
-/

namespace TeenyLexer.Session

/-- The tokens that a reply shows. -/
def Reply.shown : Reply → List Token
  | .token t => [t]
  | .tokens ts => ts
  | .done | .character _ | .stopped | .failure _ => []

def pulls (s : Session) : Step → List Pull
  | .next => [s.scanner.pull]
  | .drain => s.scanner.pulls
  | .nextOf key => if key ∈ s.live then [s.scanner.pull] else []
  | .advance _ | .peek | .openIterator _ | .setTrace _ | .setFilename _ => []

/-- The tokens that the scanner returns in the course of some steps. -/
def returned (s : Session) : List Step → List Token
  | [] => []
  | step :: steps => Scanner.delivered (s.pulls step) ++ (s.perform step).session.returned steps

/-- A step that pulls begins with the pull that a run from there begins with. -/
theorem pulls_subset (s : Session) (step : Step) : s.pulls step ⊆ s.scanner.pulls := by
  have hPull : [s.scanner.pull] ⊆ s.scanner.pulls :=
    List.cons_subset.mpr ⟨s.scanner.pull_mem_pulls, List.nil_subset _⟩
  cases step with
  | next => exact hPull
  | drain => exact List.Subset.refl _
  | nextOf key =>
    rw [pulls]
    split
    · exact hPull
    · exact List.nil_subset _
  | advance | peek | openIterator | setTrace | setFilename => exact List.nil_subset _

theorem delivered_subset (s : Session) (step : Step) :
    Scanner.delivered (s.pulls step) ⊆ Scanner.delivered s.scanner.pulls :=
  List.filterMap_subset _ (s.pulls_subset step)

theorem shown_replyOf (p : Pull) : (replyOf p.outcome).shown = Scanner.delivered [p] := by
  cases hOutcome : p.outcome <;>
    simp [hOutcome, replyOf, Reply.shown, Scanner.delivered, Except.toOption]

theorem shown_subset_delivered (s : Session) (step : Step) :
    (s.perform step).reply.shown ⊆ Scanner.delivered (s.pulls step) := by
  cases step with
  | next =>
    rw [pulls, ← shown_replyOf]
    exact List.Subset.refl _
  | drain =>
    change (replyOfAll s.scanner.tokens).shown ⊆ Scanner.delivered s.scanner.pulls
    cases hTokens : s.scanner.tokens with
    | ok tokens =>
      rw [(Scanner.delivered_of_tokens_eq_ok hTokens).2]
      exact List.Subset.refl _
    | error d => exact List.nil_subset _
  | nextOf key =>
    rw [perform, pulls]
    split
    · rw [← shown_replyOf]
      exact List.Subset.refl _
    · exact List.nil_subset _
  | advance | peek | openIterator | setTrace | setFilename => exact List.nil_subset _

theorem exists_pull_of_failed {s : Session} {step : Step} {d : Diagnostic}
    (h : (s.perform step).reply = .failure d) : ∃ p ∈ s.pulls step, p.outcome = .error d := by
  have hPull : replyOf s.scanner.pull.outcome = .failure d → s.scanner.pull.outcome = .error d := by
    intro hReply
    cases hOutcome : s.scanner.pull.outcome <;> rw [hOutcome] at hReply <;> cases hReply
    rfl
  cases step with
  | next => exact ⟨_, List.mem_singleton_self _, hPull h⟩
  | drain =>
    change replyOfAll s.scanner.tokens = _ at h
    cases hTokens : s.scanner.tokens with
    | ok tokens =>
      rw [hTokens] at h
      cases h
    | error d' =>
      rw [hTokens] at h
      cases h
      apply List.mem_map.mp
      change Except.error d ∈ s.scanner.stream
      rw [Scanner.stream_of_tokens_eq_error hTokens]
      exact List.mem_concat_self
  | nextOf key =>
    rw [pulls]
    rw [perform] at h
    split at h
    next hKey =>
      rw [if_pos hKey]
      exact ⟨_, List.mem_singleton_self _, hPull h⟩
    next => cases h
  | advance | peek | openIterator | setTrace | setFilename => cases h

end TeenyLexer.Session
