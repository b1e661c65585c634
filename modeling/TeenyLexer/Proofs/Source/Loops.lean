import TeenyLexer.Proofs.Source.LongestSpelling
import TeenyLexer.Proofs.Source.Place

/-! # Loops of the scanner

A scanner finds the end of blanks, of a comment and of a word by advancing its cursor as long as a
test holds. The tests of blanks, of a number and of a name fail at the null character that is seen
behind the end of a program. Those of a comment and of the body of a string do not, and these two
loops end there because they look at the position as well.
-/

namespace TeenyLexer

open Reading

/-- A loop that takes steps as long as a test holds, by the state in which it stops. -/
inductive Stops {State : Type} (goesOn : State → Bool) (next : State → State) :
    State → State → Prop
  | here {x : State} (done : goesOn x = false) : Stops goesOn next x x
  | further {x y : State} (more : goesOn x = true) (rest : Stops goesOn next (next x) y) :
      Stops goesOn next x y

namespace Cursor

def isAtEnd (c : Cursor) : Bool :=
  c.buffer.length ≤ c.position

/-- The loop over the rest of a number also knows whether a point has been taken. -/
def numberGoesOn : Cursor × Bool → Bool
  | (c, seenPoint) => c.peek.isDigit || (c.peek == '.' && !seenPoint)

def numberNext : Cursor × Bool → Cursor × Bool
  | (c, seenPoint) => (c.advance, seenPoint || c.peek == '.')

/-- Every loop that is entered at a cursor ends, and ends where the words and the layout do. The
loops of numbers and of names stop on the last character, the others behind it. -/
structure LoopsEnd (c : Cursor) : Prop where
  blanks : Stops (fun c => isBlank c.current) advance c
    (c.advanceBy (c.rest.takeWhile isBlank).length)
  comment : Stops (fun c => decide (c.current ≠ '\n') && !c.isAtEnd) advance c
    (c.advanceBy (c.rest.takeWhile (· ≠ '\n')).length)
  body : Stops (fun c => decide (c.current ≠ '"') && !c.isAtEnd) advance c
    (c.advanceBy (c.rest.takeWhile (· ≠ '"')).length)
  number : isNumberStart c.current = true → ∃ seenPoint,
    Stops numberGoesOn numberNext (c, c.current == '.')
      (c.advanceBy ((numeral c.rest).length - 1), seenPoint)
  name : Stops (fun c => Text.isAlphanumeric c.peek) advance c
    (c.advanceBy (c.rest.tail.takeWhile Text.isAlphanumeric).length)

theorem stops_takeWhile (ahead : Nat) {goesOn : Cursor → Bool} {p : Char → Bool} {c : Cursor}
    (hTest : ∀ n, goesOn (c.advanceBy n) = ((c.advanceBy n).rest.drop ahead).head?.any p) :
    Stops goesOn advance c (c.advanceBy ((c.rest.drop ahead).takeWhile p).length) := by
  have hHere : goesOn c = (c.rest.drop ahead).head?.any p := hTest 0
  induction hAhead : c.rest.drop ahead generalizing c with
  | nil =>
    rw [hAhead] at hHere
    exact .here hHere
  | cons x more ih =>
    have hMore : c.advance.rest.drop ahead = more := by
      rw [rest_advance, List.drop_tail, ← List.tail_drop, hAhead, List.tail_cons]
    rw [hAhead] at hHere
    rw [List.takeWhile_cons]
    split
    next hx => exact .further (hHere.trans hx) (ih (fun n => hTest (n + 1)) (hTest 1) hMore)
    next hx => exact .here (hHere.trans (Bool.eq_false_iff.mpr hx))

theorem stops_behind_point {c : Cursor} :
    Stops numberGoesOn numberNext (c, true)
      (c.advanceBy (c.rest.tail.takeWhile Char.isDigit).length, true) := by
  induction hAhead : c.rest.tail generalizing c with
  | nil =>
    have hStop : numberGoesOn (c, true) = false := by
      rw [numberGoesOn, peek, hAhead]
      rfl
    exact .here hStop
  | cons x more ih =>
    have hTest : numberGoesOn (c, true) = x.isDigit := by
      rw [numberGoesOn, peek, hAhead, List.headD_cons, Bool.not_true, Bool.and_false, Bool.or_false]
    rw [List.takeWhile_cons]
    split
    next hDigit =>
      have hMore : c.advance.rest.tail = more := by rw [rest_advance, hAhead, List.tail_cons]
      exact .further (hTest.trans hDigit) (ih hMore)
    next hDigit => exact .here (hTest.trans (Bool.eq_false_iff.mpr hDigit))

theorem stops_before_point {c : Cursor} : ∃ seenPoint,
    Stops numberGoesOn numberNext (c, false)
      (c.advanceBy (numeral c.rest.tail).length, seenPoint) := by
  induction hAhead : c.rest.tail generalizing c with
  | nil =>
    have hStop : numberGoesOn (c, false) = false := by
      rw [numberGoesOn, peek, hAhead]
      rfl
    exact ⟨false, .here hStop⟩
  | cons x more ih =>
    have hTest : numberGoesOn (c, false) = isNumberStart x := by
      rw [numberGoesOn, peek, hAhead, List.headD_cons, Bool.not_false, Bool.and_true, isNumberStart]
    have hNext : numberNext (c, false) = (c.advance, x == '.') := by
      rw [numberNext, peek, hAhead, List.headD_cons, Bool.false_or]
    have hMore : c.advance.rest.tail = more := by rw [rest_advance, hAhead, List.tail_cons]
    cases hStart : isNumberStart x with
    | false =>
      rw [numeral_of_not_isNumberStart hStart]
      exact ⟨false, .here (hTest.trans hStart)⟩
    | true =>
      by_cases hPoint : x = '.'
      · subst hPoint
        rw [numeral_point, ← hMore]
        refine ⟨true, .further (hTest.trans hStart) ?_⟩
        rw [hNext]
        exact stops_behind_point
      · have hDigit : x.isDigit = true := by simpa [isNumberStart, hPoint] using hStart
        obtain ⟨seenPoint, hRest⟩ := ih hMore
        rw [numeral_cons_of_isDigit hDigit]
        refine ⟨seenPoint, .further (hTest.trans hStart) ?_⟩
        rw [hNext, beq_eq_false_iff_ne.mpr hPoint]
        exact hRest

theorem apply_headD_nul {p : Char → Bool} (hNul : p nul = false) (text : List Char) :
    p (text.headD nul) = text.head?.any p := by
  cases text with
  | nil => exact hNul
  | cons => rfl

/-- Together with the position, any test of the current character fails at the end. -/
theorem current_inside_atOffset (buffer : List Char) (offset : Nat) (p : Char → Bool) :
    (p (atOffset buffer offset).current && !(atOffset buffer offset).isAtEnd) =
      (buffer.drop offset).head?.any p := by
  have hEnd : (atOffset buffer offset).isAtEnd = decide (buffer.drop offset = []) := by
    apply decide_eq_decide.mpr
    exact List.drop_eq_nil_iff.symm
  have hCurrent : (atOffset buffer offset).current = (buffer.drop offset).headD nul := rfl
  rw [hEnd, hCurrent]
  cases buffer.drop offset with
  | nil => exact Bool.and_false _
  | cons x more => exact Bool.and_true _

theorem loopsEnd_atOffset (buffer : List Char) (offset : Nat) :
    (atOffset buffer offset).LoopsEnd := by
  have hInside : ∀ (p : Char → Bool) (n : Nat),
      (p ((atOffset buffer offset).advanceBy n).current &&
        !((atOffset buffer offset).advanceBy n).isAtEnd) =
          ((atOffset buffer offset).advanceBy n).rest.head?.any p := by
    intro p n
    rw [advanceBy_atOffset]
    exact current_inside_atOffset buffer (offset + n) p
  have hPeek : ∀ c : Cursor, c.rest.tail = c.rest.drop 1 := fun c => List.drop_one.symm
  refine ⟨?_, ?_, ?_, ?_, ?_⟩
  · apply stops_takeWhile 0
    intro n
    exact apply_headD_nul rfl _
  · apply stops_takeWhile 0
    exact hInside (· ≠ '\n')
  · apply stops_takeWhile 0
    exact hInside (· ≠ '"')
  · intro hStart
    cases hRest : (atOffset buffer offset).rest with
    | nil =>
      rw [current, hRest] at hStart
      cases hStart
    | cons x more =>
      have hCurrent : (atOffset buffer offset).current = x := by rw [current, hRest]; rfl
      have hMore : more = (atOffset buffer offset).rest.tail := by rw [hRest, List.tail_cons]
      rw [hCurrent] at hStart ⊢
      by_cases hPoint : x = '.'
      · rw [hPoint, numeral_point, List.length_cons, Nat.add_sub_cancel, hMore]
        exact ⟨true, stops_behind_point⟩
      · have hDigit : x.isDigit = true := by simpa [isNumberStart, hPoint] using hStart
        rw [numeral_cons_of_isDigit hDigit, List.length_cons, Nat.add_sub_cancel, hMore,
          beq_eq_false_iff_ne.mpr hPoint]
        exact stops_before_point
  · rw [hPeek]
    apply stops_takeWhile 1
    intro n
    rw [← hPeek]
    exact apply_headD_nul rfl _

end Cursor

end TeenyLexer
