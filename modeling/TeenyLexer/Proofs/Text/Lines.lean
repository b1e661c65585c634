import Mathlib
import TeenyLexer.Text.Lines

/-! # Counting lines

A text has one line more than it has newlines, if the empty one behind a last newline counts.
Without carriage returns the lines of a text are begun by its first character and behind every
line break but one at the very end. Where newlines are the only line breaks, these are the lines
that its newlines tell apart; every other line break before the last character is one line more.
-/

namespace TeenyLexer.Text

/-- The number of the lines that the newlines of a text tell apart. A newline at the very end
begins no further line. -/
def newlineLines (text : List Char) : Nat :=
  text.count '\n' + if text ≠ [] ∧ text.getLast? ≠ some '\n' then 1 else 0

/-- A line break that is not a newline. -/
def isOtherBreak (c : Char) : Bool :=
  isLineBreak c && c != '\n'

section Newlines

theorem length_splitOn_newline (text : List Char) :
    (text.splitOn '\n').length = text.count '\n' + 1 := by
  induction text with
  | nil => rfl
  | cons c text ih =>
    rw [List.splitOn_cons_eq_if_modifyHead, List.count_cons]
    split <;> simp [ih]

theorem head?_splitOn_newline (text : List Char) :
    (text.splitOn '\n').head? = some (text.takeWhile (· ≠ '\n')) := by
  induction text with
  | nil => rfl
  | cons c text ih =>
    rw [List.splitOn_cons_eq_if_modifyHead]
    by_cases hc : c = '\n' <;> simp [hc, ih]

theorem exists_head_splitOn_newline {front : List Char} (h : '\n' ∉ front) (back : List Char) :
    ∃ line ∈ ((front ++ back).splitOn '\n').head?, front <+: line := by
  have hFront : ∀ c ∈ front, decide (c ≠ '\n') = true := by
    intro c hc
    exact decide_eq_true fun hEq => h (hEq ▸ hc)
  rw [head?_splitOn_newline, List.takeWhile_append_of_pos hFront]
  exact ⟨_, rfl, List.prefix_append _ _⟩

/-- The lines of some texts that are each ended by a newline. Nothing stands behind the last. -/
theorem splitOn_newline_flatMap (texts : List (List Char)) :
    (texts.flatMap fun text => text ++ ['\n']).splitOn '\n' =
      texts.flatMap (·.splitOn '\n') ++ [[]] := by
  induction texts with
  | nil => rfl
  | cons text texts ih =>
    rw [List.flatMap_cons, List.append_assoc, List.singleton_append, List.splitOn_append_cons_self,
      ih, List.flatMap_cons, List.append_assoc]

theorem count_newline_intercalate {separator : List Char} (h : '\n' ∉ separator)
    (parts : List (List Char)) :
    (separator.intercalate parts).count '\n' = (parts.map (List.count '\n')).sum := by
  induction parts with
  | nil => rfl
  | cons part parts ih =>
    cases parts with
    | nil => rw [List.intercalate_singleton, List.map_singleton, List.sum_singleton]
    | cons next more =>
      rw [List.intercalate_cons_cons, List.count_append, List.count_append, ih,
        List.count_eq_zero.mpr h, Nat.add_zero]
      simp only [List.map_cons, List.sum_cons]

end Newlines

variable {text : List Char}

theorem return_not_mem_unifyNewlines (text : List Char) : '\r' ∉ unifyNewlines text := by
  induction text using unifyNewlines.induct with
  | case1 => exact List.not_mem_nil
  | case2 rest ih =>
    rw [unifyNewlines]
    exact List.not_mem_cons_of_ne_of_not_mem (by decide) ih
  | case3 rest hOther ih =>
    rw [unifyNewlines]
    · exact List.not_mem_cons_of_ne_of_not_mem (by decide) ih
    · exact hOther
  | case4 c rest hPair hReturn ih =>
    rw [unifyNewlines]
    · exact List.not_mem_cons_of_ne_of_not_mem (fun h => hReturn h.symm) ih
    · exact hPair
    · exact hReturn

theorem linesBegun_eq (h : '\r' ∉ text) (hText : text ≠ []) (fresh : Bool) :
    linesBegun fresh text = text.dropLast.countP isLineBreak + if fresh then 1 else 0 := by
  induction text generalizing fresh with
  | nil => exact absurd rfl hText
  | cons c rest ih =>
    have hc : (c == '\r') = false := beq_false_of_ne (List.ne_of_not_mem_cons h).symm
    rw [linesBegun, hc, Bool.false_and, Bool.not_false, Bool.and_true]
    by_cases hRest : rest = []
    · rw [hRest, linesBegun]
      simp
    · rw [ih (List.not_mem_of_not_mem_cons h) hRest, List.dropLast_cons_of_ne_nil hRest,
        List.countP_cons]
      omega

theorem newlineLines_add (text : List Char) :
    newlineLines text + (if text = [] ∨ text.getLast? = some '\n' then 1 else 0) =
      text.count '\n' + 1 := by
  by_cases hNone : text = []
  · simp [newlineLines, hNone]
  · by_cases hNewline : text.getLast? = some '\n' <;> simp [newlineLines, hNone, hNewline]

theorem newlineLines_concat (before : List Char) (last : Char) :
    newlineLines (before ++ [last]) = before.count '\n' + 1 := by
  by_cases hLast : last = '\n' <;> simp [newlineLines, hLast]

theorem countP_isLineBreak (text : List Char) :
    text.countP isLineBreak = text.count '\n' + text.countP isOtherBreak := by
  induction text with
  | nil => rfl
  | cons c rest ih =>
    rw [List.countP_cons, List.count_cons, List.countP_cons, ih]
    by_cases hNewline : c = '\n'
    · subst hNewline
      simp [isOtherBreak, isLineBreak]
      omega
    · simp [isOtherBreak, hNewline]
      omega

theorem lineCount_eq (h : '\r' ∉ text) :
    lineCount text = newlineLines text + text.dropLast.countP isOtherBreak := by
  rcases List.eq_nil_or_concat text with rfl | ⟨before, last, rfl⟩
  · rfl
  · rw [List.concat_eq_append] at h ⊢
    rw [lineCount, linesBegun_eq h (by simp), newlineLines_concat, List.dropLast_concat,
      countP_isLineBreak, if_pos rfl]
    omega

theorem lineCount_eq_newlineLines_iff (h : '\r' ∉ text) :
    lineCount text = newlineLines text ↔
      ∀ c ∈ text.dropLast, isLineBreak c = true → c = '\n' := by
  rw [lineCount_eq h, Nat.add_eq_left, List.countP_eq_zero]
  simp [isOtherBreak]

end TeenyLexer.Text
