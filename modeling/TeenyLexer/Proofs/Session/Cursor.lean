import Mathlib
import TeenyLexer.Proofs.Scanner.Reachable

/-! # The cursor in a session

Whatever a session does, the character, the line, the column and the start of the line that its
cursor holds are those of its position. Past the end only the position goes on growing. No step
moves the cursor back, and some steps do not move it at all.
-/

namespace TeenyLexer

/-- The offset behind the last newline of a text that has been passed, or zero without one. -/
inductive LineStartsAt (passed : List Char) : Nat → Prop
  | first (none : '\n' ∉ passed) : LineStartsAt passed 0
  | behind {i : Nat} (newline : passed[i]? = some '\n')
      (last : ∀ j, i < j → passed[j]? ≠ some '\n') : LineStartsAt passed (i + 1)

theorem lineStartsAt_lineStart (passed : List Char) :
    LineStartsAt passed (Place.lineStart passed) := by
  induction passed using List.reverseRecOn with
  | nil => exact .first (List.not_mem_nil)
  | append_singleton passed c ih =>
    by_cases hc : c = '\n'
    · subst hc
      rw [Place.lineStart_append_newline]
      apply LineStartsAt.behind
      · exact List.getElem?_concat_length
      · intro j hj hNewline
        have hOutside : (passed ++ ['\n']).length ≤ j := by
          rw [List.length_append, List.length_singleton]
          omega
        rw [List.getElem?_eq_none hOutside] at hNewline
        cases hNewline
    · rw [Place.lineStart_append_singleton hc]
      generalize Place.lineStart passed = start at ih
      cases ih with
      | first hNone =>
        apply LineStartsAt.first
        simp [hNone, Ne.symm hc]
      | @behind i hNewline hLast =>
        have hInside : i < passed.length := (List.getElem?_eq_some_iff.mp hNewline).1
        apply LineStartsAt.behind
        · rw [List.getElem?_append_left hInside, hNewline]
        · intro j hj hLater
          rw [List.getElem?_append] at hLater
          split at hLater
          next => exact hLast j hj hLater
          next hEnd =>
            have hMember := List.mem_of_getElem? hLater
            exact hc (List.mem_singleton.mp hMember).symm

namespace Cursor

/-- A cursor all of whose fields agree with a buffer and its position in it. -/
structure StandsIn (c : Cursor) (buffer : List Char) : Prop where
  text : c.buffer = buffer
  current : c.current = buffer[c.position]?.getD nul
  line : c.line = 1 + (buffer.take c.position).count '\n'
  lineStart : LineStartsAt (buffer.take c.position) c.lineStart
  column : c.lineStart + c.column = min c.position buffer.length + 1

theorem standsIn_atOffset (buffer : List Char) (offset : Nat) :
    (atOffset buffer offset).StandsIn buffer where
  text := rfl
  current := by
    change (buffer.drop offset).headD nul = buffer[offset]?.getD nul
    rw [← List.head?_drop, List.headD_eq_head?_getD]
  line := Nat.add_comm _ 1
  lineStart := lineStartsAt_lineStart _
  column := by
    have hSplit := congrArg List.length
      (List.rdropWhile_append_rtakeWhile (p := (· ≠ '\n')) (l := buffer.take offset))
    rw [List.length_append, List.length_take] at hSplit
    exact congrArg (· + 1) hSplit

end Cursor

namespace Session

def sessions (s : Session) (steps : List Step) : List Session :=
  s :: (s.performAll steps).map Response.session

theorem sessions_cons (s : Session) (step : Step) (steps : List Step) :
    s.sessions (step :: steps) = s :: (s.perform step).session.sessions steps := rfl

theorem Reachable.of_mem_sessions {source : String} {s later : Session} (h : s.Reachable source)
    {steps : List Step} (hLater : later ∈ s.sessions steps) : later.Reachable source := by
  induction steps generalizing s with
  | nil =>
    rw [List.mem_singleton.mp hLater]
    exact h
  | cons step steps ih =>
    rw [sessions_cons, List.mem_cons] at hLater
    rcases hLater with rfl | hLater
    · exact h
    · exact ih (h.perform step) hLater

theorem position_le_perform (s : Session) (step : Step) :
    s.scanner.cursor.position ≤ (s.perform step).session.scanner.cursor.position := by
  obtain ⟨n, hCursor⟩ := cursor_perform s step
  rw [hCursor, Cursor.position_advanceBy]
  exact Nat.le_add_right _ n

theorem position_le_of_mem_sessions {s later : Session} {steps : List Step}
    (h : later ∈ s.sessions steps) :
    s.scanner.cursor.position ≤ later.scanner.cursor.position := by
  induction steps generalizing s with
  | nil => rw [List.mem_singleton.mp h]
  | cons step steps ih =>
    rw [sessions_cons, List.mem_cons] at h
    rcases h with rfl | h
    · exact Nat.le_refl _
    · exact (position_le_perform s step).trans (ih h)

theorem pairwise_position_sessions (s : Session) (steps : List Step) :
    (s.sessions steps).Pairwise
      fun before after => before.scanner.cursor.position ≤ after.scanner.cursor.position := by
  induction steps generalizing s with
  | nil => exact List.pairwise_singleton _ s
  | cons step steps ih =>
    rw [sessions_cons]
    apply List.Pairwise.cons
    · intro later hLater
      exact (position_le_perform s step).trans (position_le_of_mem_sessions hLater)
    · exact ih _

def Step.keepsCursor : Step → Bool
  | .peek | .openIterator _ | .setTrace _ | .setFilename _ => true
  | .advance _ | .next | .drain | .nextOf _ => false

theorem cursor_perform_of_keepsCursor {step : Step} (h : step.keepsCursor = true) (s : Session) :
    (s.perform step).session.scanner.cursor = s.scanner.cursor := by
  cases step with
  | advance | next | drain | nextOf => cases h
  | peek | openIterator | setTrace | setFilename => rfl

/-- Every state of every session, failed steps and steps past the end included. -/
theorem sessions_standIn_source (source : String) (filename : Option String) (settings : Settings)
    (steps : List Step) :
    (∀ s ∈ (ofScanner (.ofSource source filename settings)).sessions steps,
      s.scanner.cursor.StandsIn (programText source) ∧
        ∀ step : Step, step.keepsCursor = true →
          (s.perform step).session.scanner.cursor = s.scanner.cursor) ∧
      ((ofScanner (.ofSource source filename settings)).sessions steps).Pairwise
        fun before after => before.scanner.cursor.position ≤ after.scanner.cursor.position := by
  constructor
  · intro s hs
    constructor
    · have hReached : s.Reachable source := (Reachable.opened filename settings).of_mem_sessions hs
      rw [hReached.cursor_eq]
      exact Cursor.standsIn_atOffset _ _
    · intro step hStep
      exact cursor_perform_of_keepsCursor hStep s
  · exact pairwise_position_sessions _ steps

/-- A failure in a string over a null character, and then a step past the end. The last newline
is the one that has been added. -/
theorem sessions_standIn_unclosed_string :
    ∃ s ∈ (ofScanner (.ofSource "a\n\"\x00" none {})).sessions
        [.next, .openIterator "i", .nextOf "i", .nextOf "i", .advance 1],
      s.scanner.cursor.position = 6 ∧ s.scanner.cursor.line = 3 ∧
        s.scanner.cursor.StandsIn ['a', '\n', '"', '\x00', '\n'] ∧
        (s.perform .peek).session.scanner.cursor = s.scanner.cursor := by
  have hSession := sessions_standIn_source "a\n\"\x00" none {}
    [.next, .openIterator "i", .nextOf "i", .nextOf "i", .advance 1]
  have hLast := List.getLast_mem (l := (ofScanner (.ofSource "a\n\"\x00" none {})).sessions
    [.next, .openIterator "i", .nextOf "i", .nextOf "i", .advance 1]) (List.cons_ne_nil _ _)
  obtain ⟨hStands, hKeeps⟩ := hSession.1 _ hLast
  exact ⟨_, hLast, by cbv, by cbv, hStands, hKeeps .peek rfl⟩

end Session

end TeenyLexer
