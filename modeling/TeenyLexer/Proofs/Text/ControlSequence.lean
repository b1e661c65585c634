import TeenyLexer.Proofs.Text.Printable

/-! # Control sequences in parts of a text

A control sequence does not go on over a character that can stand in none, and does not begin
before an escape character. So a text that is cut there can be freed of its control sequences part
by part, line by line among others.
-/

namespace TeenyLexer.Text

/-- A character with which no control sequence goes on. -/
structure IsBarrier (c : Char) : Prop where
  bracket : c ≠ '['
  parameter : isControlParameter c = false
  letter : c.isAlpha = false

section Barrier

variable {c : Char} {text : List Char}

theorem controlSequenceLength_bracket (text : List Char) :
    controlSequenceLength ('\x1b' :: '[' :: text) =
      match text.dropWhile isControlParameter with
      | last :: _ => if last.isAlpha then (text.takeWhile isControlParameter).length + 3 else 0
      | [] => 0 := rfl

theorem controlSequenceLength_other {x : Char} (hx : x ≠ '[') (text : List Char) :
    controlSequenceLength ('\x1b' :: x :: text) = 0 := by
  rw [controlSequenceLength]
  intro _ hStart
  exact hx (List.cons.inj (List.cons.inj hStart).2).1

theorem length_takeWhile_parameter {last : Char} {after : List Char}
    (h : text.dropWhile isControlParameter = last :: after) :
    (text.takeWhile isControlParameter).length + (after.length + 1) = text.length := by
  have hSplit : text.takeWhile isControlParameter ++ text.dropWhile isControlParameter = text :=
    List.takeWhile_append_dropWhile
  have hLength := congrArg List.length hSplit
  rwa [List.length_append, h, List.length_cons] at hLength

theorem controlSequenceLength_append (hc : IsBarrier c) (hText : text ≠ []) (more : List Char) :
    controlSequenceLength (text ++ c :: more) = controlSequenceLength text := by
  obtain ⟨first, text, rfl⟩ := List.exists_cons_of_ne_nil hText
  by_cases hFirst : first = '\x1b'
  · subst hFirst
    cases text with
    | nil => exact controlSequenceLength_other hc.bracket more
    | cons second text =>
      by_cases hSecond : second = '['
      · subst hSecond
        rw [List.cons_append, List.cons_append, controlSequenceLength_bracket,
          controlSequenceLength_bracket]
        cases hRest : text.dropWhile isControlParameter with
        | nil =>
          have hParameters := List.dropWhile_eq_nil_iff.mp hRest
          rw [List.dropWhile_append_of_pos hParameters,
            List.dropWhile_cons_of_neg (by simp [hc.parameter])]
          simp [hc.letter]
        | cons last after =>
          have hShorter : (text.takeWhile isControlParameter).length ≠ text.length := by
            have hLength := length_takeWhile_parameter hRest
            omega
          rw [List.dropWhile_append, hRest, List.takeWhile_append, if_neg hShorter]
          rfl
      · rw [List.cons_append, List.cons_append, controlSequenceLength_other hSecond,
          controlSequenceLength_other hSecond]
  · rw [List.cons_append, controlSequenceLength_eq_zero hFirst,
      controlSequenceLength_eq_zero hFirst]

theorem controlSequenceLength_le (text : List Char) : controlSequenceLength text ≤ text.length := by
  unfold controlSequenceLength
  split
  · rename_i rest
    split
    · rename_i last after hRest
      have hLength := length_takeWhile_parameter hRest
      simp only [List.length_cons]
      split <;> omega
    · exact Nat.zero_le _
  · exact Nat.zero_le _

/-- The induction is over the text in front of the barrier. What is still to be skipped of a
sequence stands in front of it too. -/
theorem stripControlAfter_append (hc : IsBarrier c) {skip : Nat} (hSkip : skip ≤ text.length)
    (more : List Char) : stripControlAfter skip (text ++ c :: more) =
      stripControlAfter skip text ++ stripControlAfter 0 (c :: more) := by
  induction text generalizing skip with
  | nil =>
    rw [Nat.le_zero.mp hSkip]
    rfl
  | cons x text ih =>
    cases skip with
    | succ skip => exact ih (Nat.le_of_succ_le_succ hSkip)
    | zero =>
      have hSame : controlSequenceLength (x :: (text ++ c :: more)) =
          controlSequenceLength (x :: text) :=
        controlSequenceLength_append hc (List.cons_ne_nil x text) more
      have hLength := controlSequenceLength_le (x :: text)
      rw [List.cons_append, stripControlAfter, stripControlAfter, hSame]
      cases hSequence : controlSequenceLength (x :: text) with
      | zero => exact congrArg (x :: ·) (ih (Nat.zero_le _))
      | succ n =>
        rw [hSequence, List.length_cons] at hLength
        exact ih (Nat.le_of_succ_le_succ hLength)

theorem stripControlAfter_sublist (skip : Nat) (text : List Char) :
    (stripControlAfter skip text).Sublist text := by
  induction text generalizing skip with
  | nil => exact List.Sublist.slnil
  | cons c text ih =>
    cases skip with
    | succ skip => exact (ih skip).cons c
    | zero =>
      rw [stripControlAfter]
      cases controlSequenceLength (c :: text) with
      | zero => exact (ih 0).cons_cons c
      | succ n => exact (ih n).cons c

theorem stripControlAfter_cons (h : controlSequenceLength (c :: text) = 0) :
    stripControlAfter 0 (c :: text) = c :: stripControlAfter 0 text := by
  rw [stripControlAfter, h]

/-- Nothing is taken out of a text that holds no escape character, whatever follows it. -/
theorem stripControlAfter_append_of_not_mem (h : '\x1b' ∉ text) (more : List Char) :
    stripControlAfter 0 (text ++ more) = text ++ stripControlAfter 0 more := by
  induction text with
  | nil => rfl
  | cons x text ih =>
    have hx : x ≠ '\x1b' := (List.ne_of_not_mem_cons h).symm
    rw [List.cons_append, stripControlAfter_cons (controlSequenceLength_eq_zero hx _),
      ih (List.not_mem_of_not_mem_cons h), List.cons_append]

end Barrier

/-- Behind every escape character of a text there is a barrier in it. So no control sequence that
begins in the text goes on behind it. -/
def ClosesEscapes (text : List Char) : Prop :=
  ∀ before after, text = before ++ '\x1b' :: after → ∃ c ∈ after, IsBarrier c

section Escapes

variable {text before after : List Char}

theorem closesEscapes_of_not_mem (h : '\x1b' ∉ text) : ClosesEscapes text := by
  rintro before after rfl
  exact absurd (List.mem_append_right _ List.mem_cons_self) h

theorem closesEscapes_concat {c : Char} (hc : IsBarrier c) (hEscape : c ≠ '\x1b')
    (text : List Char) : ClosesEscapes (text ++ [c]) := by
  intro before after hText
  have hLast := congrArg List.getLast? hText
  rw [List.getLast?_concat, List.getLast?_append_cons, List.getLast?_cons] at hLast
  cases hAfter : after.getLast? with
  | none =>
    rw [hAfter] at hLast
    exact absurd (Option.some.inj hLast) hEscape
  | some last =>
    rw [hAfter] at hLast
    obtain rfl := Option.some.inj hLast
    exact ⟨c, List.mem_of_getLast? hAfter, hc⟩

theorem ClosesEscapes.append (h : ClosesEscapes before) (h' : ClosesEscapes after) :
    ClosesEscapes (before ++ after) := by
  intro front behind hText
  rcases List.append_eq_append_iff.mp hText with ⟨middle, rfl, hAfter⟩ | ⟨middle, hBefore, hBehind⟩
  · exact h' middle behind hAfter
  · cases middle with
    | nil =>
      rw [List.nil_append] at hBehind
      exact h' [] behind hBehind.symm
    | cons c middle =>
      obtain ⟨rfl, rfl⟩ := List.cons.inj hBehind
      obtain ⟨barrier, hMem, hBarrier⟩ := h front middle hBefore
      exact ⟨barrier, List.mem_append_left _ hMem, hBarrier⟩

theorem ClosesEscapes.of_append (h : ClosesEscapes (before ++ after)) : ClosesEscapes after := by
  rintro front behind rfl
  exact h (before ++ front) behind (List.append_assoc _ _ _).symm

/-- The barrier that counts is the one behind the last escape character. -/
theorem stripControlAfter_append_of_closesEscapes (h : ClosesEscapes text) (more : List Char) :
    stripControlAfter 0 (text ++ more) = stripControlAfter 0 text ++ stripControlAfter 0 more := by
  by_cases hEscape : '\x1b' ∈ text
  · obtain ⟨after, before, hLast, hAfter⟩ :=
      List.eq_append_cons_of_mem (List.mem_reverse.mpr hEscape)
    have hText : text = before.reverse ++ '\x1b' :: after.reverse := by
      rw [← List.reverse_reverse text, hLast]
      simp
    obtain ⟨c, hMem, hBarrier⟩ := h _ _ hText
    obtain ⟨inner, outer, hSplit⟩ := List.append_of_mem hMem
    have hOuter : '\x1b' ∉ c :: outer := by
      intro hMem'
      apply hAfter
      rw [← List.mem_reverse, hSplit]
      exact List.mem_append_right _ hMem'
    have hFront : text = (before.reverse ++ '\x1b' :: inner) ++ c :: outer := by
      rw [hText, hSplit, List.append_assoc, List.cons_append]
    rw [hFront, List.append_assoc, List.cons_append,
      stripControlAfter_append hBarrier (Nat.zero_le _),
      stripControlAfter_append hBarrier (Nat.zero_le _), ← List.cons_append,
      stripControlAfter_append_of_not_mem hOuter, stripControlAfter_of_not_mem hOuter,
      List.append_assoc]
  · rw [stripControlAfter_append_of_not_mem hEscape, stripControlAfter_of_not_mem hEscape]

end Escapes

section Strings

variable {s : String}

theorem stripControl_append_of_not_mem (h : '\x1b' ∉ s.toList) (t : String) :
    stripControl (s ++ t) = s ++ stripControl t := by
  rw [stripControl, String.toList_append, stripControlAfter_append_of_not_mem h,
    String.ofList_append, String.ofList_toList, stripControl]

theorem stripControl_append {t : String} {c : Char} (hc : IsBarrier c)
    (ht : t.toList.head? = some c) (s : String) :
    stripControl (s ++ t) = stripControl s ++ stripControl t := by
  obtain ⟨more, hMore⟩ := List.head?_eq_some_iff.mp ht
  rw [stripControl, String.toList_append, hMore, stripControlAfter_append hc (Nat.zero_le _),
    String.ofList_append, stripControl, stripControl, hMore]

theorem isBarrier_newline : IsBarrier '\n' :=
  ⟨by decide, by decide, by decide⟩

theorem stripControl_newline (s t : String) :
    stripControl (s ++ ("\n" ++ t)) = stripControl s ++ ("\n" ++ stripControl t) := by
  have hBreak : '\x1b' ∉ "\n".toList := by decide
  have hHead : ("\n" ++ t).toList.head? = some '\n' := by
    rw [String.toList_append]
    rfl
  rw [stripControl_append isBarrier_newline hHead, stripControl_append_of_not_mem hBreak]

/-- A text is freed of its control sequences line by line. -/
theorem stripControl_intercalate (lines : List String) :
    stripControl (String.intercalate "\n" lines) =
      String.intercalate "\n" (lines.map stripControl) := by
  induction lines with
  | nil => rfl
  | cons line lines ih =>
    cases lines with
    | nil => rfl
    | cons next lines =>
      simp only [List.map_cons] at ih ⊢
      rw [String.intercalate_cons_cons, String.append_assoc, stripControl_newline, ih,
        String.intercalate_cons_cons, String.append_assoc]

end Strings

end TeenyLexer.Text
