import TeenyLexer.Proofs.Source.LongestSpelling

/-! # Gaps

The layout skipped before a word is a gap of the grammar, and every gap before a word is
skipped as a whole. For the first of these the text has to hold a newline: without one a
comment would run to the end of the text and have no newline after it.
-/

namespace TeenyLexer

open Reading

/-- What ends in a newline unless it is empty, as every rest of a program does. -/
def Terminated (text : List Char) : Prop :=
  ∀ c ∈ text.getLast?, c = '\n'

/-- The text that is scanned for a program, to which a newline has been added. -/
def programText (source : String) : List Char :=
  source.toList ++ ['\n']

theorem length_programText (source : String) :
    (programText source).length = source.length + 1 := by
  rw [programText, List.length_append, String.length_toList, List.length_singleton]

theorem terminated_programText (source : String) : Terminated (programText source) := by
  intro c hc
  simpa [programText] using hc.symm

theorem Terminated.of_append {before after : List Char} (h : Terminated (before ++ after)) :
    Terminated after := by
  intro c hc
  refine h c ?_
  rw [List.getLast?_append, Option.mem_def.mp hc]
  rfl

theorem Terminated.drop {text : List Char} (h : Terminated text) (n : Nat) :
    Terminated (text.drop n) := by
  rw [← List.take_append_drop n text] at h
  exact h.of_append

theorem Terminated.newline_mem {text : List Char} (h : Terminated text) (hText : text ≠ []) :
    '\n' ∈ text := by
  have hLast := h _ (List.getLast?_eq_some_getLast hText)
  exact hLast ▸ List.getLast_mem hText

theorem ne_of_isBlank {c : Char} (h : isBlank c = true) : c ≠ '#' ∧ c ≠ '\n' := by
  constructor <;> rintro rfl <;> revert h <;> decide

theorem startsNothing_of_isBlank {c : Char} (h : isBlank c = true ∨ c = '#') :
    StartsNothing c := by
  simp only [isBlank, Bool.or_eq_true, beq_iff_eq] at h
  rcases h with ((rfl | rfl) | rfl) | rfl <;>
    exact ⟨by decide, by decide, by decide, by decide, by decide, by decide⟩

theorem Spells.head_not_layout {kind : Kind} {c : Char} {more : List Char}
    (h : Spells kind (c :: more)) : isBlank c = false ∧ c ≠ '#' := by
  constructor
  · rw [Bool.eq_false_iff]
    intro hBlank
    exact not_spellsFrom_of_startsNothing (startsNothing_of_isBlank (.inl hBlank))
      (spells_cons_iff.mp h)
  · intro hComment
    exact not_spellsFrom_of_startsNothing (startsNothing_of_isBlank (.inr hComment))
      (spells_cons_iff.mp h)

theorem comment_isPrefix (text : List Char) : comment text <+: text := by
  cases text with
  | nil => exact List.nil_prefix
  | cons c rest =>
    rw [comment]
    split
    · exact List.cons_prefix_cons.mpr ⟨rfl, List.takeWhile_prefix _⟩
    · exact List.nil_prefix

theorem layout_isPrefix (text : List Char) : layout text <+: text := by
  obtain ⟨after, hAfter⟩ := comment_isPrefix (text.dropWhile isBlank)
  refine ⟨after, ?_⟩
  rw [layout, List.append_assoc, hAfter, List.takeWhile_append_dropWhile]

theorem layout_append_drop (text : List Char) :
    layout text ++ text.drop (layout text).length = text :=
  List.prefix_iff_eq_append.mp (layout_isPrefix text)

theorem drop_layout {text rest : List Char} (h : layout text ++ rest = text) :
    text.drop (layout text).length = rest :=
  List.append_cancel_left ((layout_append_drop text).trans h.symm)

theorem layout_eq_nil {text : List Char}
    (h : ∀ c ∈ text.head?, isBlank c = false ∧ c ≠ '#') : layout text = [] := by
  cases text with
  | nil => rfl
  | cons c rest =>
    obtain ⟨hBlank, hHash⟩ := h c rfl
    simp [layout, comment, hBlank, hHash]

/-- Behind layout there is no more of it. -/
theorem layout_drop_layout (text : List Char) : layout (text.drop (layout text).length) = [] := by
  obtain ⟨after, hAfter⟩ := comment_isPrefix (text.dropWhile isBlank)
  have hDrop : text.drop (layout text).length = after := by
    apply drop_layout
    rw [layout, List.append_assoc, hAfter, List.takeWhile_append_dropWhile]
  rw [hDrop]
  apply layout_eq_nil
  intro x hx
  cases hRest : text.dropWhile isBlank with
  | nil =>
    rw [hRest] at hAfter
    have hNil : after = [] := (List.append_eq_nil_iff.mp hAfter).2
    rw [hNil] at hx
    cases hx
  | cons c rest =>
    rw [hRest] at hAfter
    by_cases hc : c = '#'
    · subst hc
      have hNewline : after = rest.dropWhile (· ≠ '\n') := by
        rw [comment, if_pos rfl, List.cons_append, List.cons.injEq] at hAfter
        exact List.append_cancel_left (hAfter.2.trans List.takeWhile_append_dropWhile.symm)
      have hHead := List.head?_dropWhile_not (· ≠ '\n') rest
      rw [← hNewline, Option.mem_def.mp hx] at hHead
      obtain rfl : x = '\n' := by simpa using hHead
      decide
    · have hHead := List.head?_dropWhile_not isBlank text
      rw [comment, if_neg hc, List.nil_append] at hAfter
      rw [hRest, ← hAfter, Option.mem_def.mp hx] at hHead
      rw [hAfter] at hx
      obtain rfl : x = c := by simpa using hx.symm
      exact ⟨by simpa using hHead, hc⟩

theorem layout_append {blanks rest : List Char} (hBlanks : ∀ c ∈ blanks, isBlank c = true)
    (hRest : ∀ c ∈ rest.head?, isBlank c = false) :
    layout (blanks ++ rest) = blanks ++ comment rest := by
  have hTake : rest.takeWhile isBlank = [] ∧ rest.dropWhile isBlank = rest := by
    cases rest with
    | nil => exact ⟨rfl, rfl⟩
    | cons c rest => simp [hRest c rfl]
  rw [layout, List.takeWhile_append_of_pos hBlanks, List.dropWhile_append_of_pos hBlanks,
    hTake.1, hTake.2, List.append_nil]

theorem comment_append_newline {note : List Char} (hNote : '\n' ∉ note) (rest : List Char) :
    comment ('#' :: (note ++ '\n' :: rest)) = '#' :: note := by
  have hRun : ∀ c ∈ note, decide (c ≠ '\n') = true := fun c hc => by
    have : c ≠ '\n' := fun h => hNote (h ▸ hc)
    simpa using this
  rw [comment, if_pos rfl, List.takeWhile_append_of_pos hRun]
  simp

theorem layout_of_isGap {gap spelling : List Char} {kind : Kind} (hGap : IsGap gap kind)
    (hSpells : Spells kind spelling) (rest : List Char) :
    layout (gap ++ (spelling ++ rest)) = gap := by
  obtain ⟨c, more, rfl⟩ := List.exists_cons_of_ne_nil hSpells.ne_nil
  have hHead := hSpells.head_not_layout
  cases hGap with
  | blanks hBlank =>
    rw [layout_append hBlank (by simp [hHead.1])]
    simp [comment, hHead.2]
  | @comment blanks note hBlank hNote =>
    have hNewline : c :: more = ['\n'] := by
      generalize c :: more = text at hSpells
      cases hSpells
      rfl
    rw [hNewline, List.append_assoc, layout_append hBlank (by simp; decide)]
    exact congrArg (blanks ++ ·) (comment_append_newline hNote rest)

/-- A text with a newline does not end in layout. What follows is the newline of a comment,
or the layout is a gap before any word. -/
theorem layout_cases {text : List Char} (hNewline : '\n' ∈ text) :
    (∃ c rest, text.drop (layout text).length = c :: rest ∧ ∀ kind, IsGap (layout text) kind) ∨
      ∃ rest, text.drop (layout text).length = '\n' :: rest ∧ IsGap (layout text) .newline := by
  have hBlanks : ∀ c ∈ text.takeWhile isBlank, isBlank c = true :=
    fun c hc => List.mem_takeWhile_imp hc
  have hSplit : text.takeWhile isBlank ++ text.dropWhile isBlank = text :=
    List.takeWhile_append_dropWhile
  cases hRest : text.dropWhile isBlank with
  | nil =>
    have hBlank := List.dropWhile_eq_nil_iff.mp hRest '\n' hNewline
    exact absurd rfl (ne_of_isBlank hBlank).2
  | cons c rest =>
    rw [hRest] at hSplit
    by_cases hc : c = '#'
    · subst hc
      have hInRest : '\n' ∈ rest := by
        rw [← hSplit, List.mem_append, List.mem_cons] at hNewline
        rcases hNewline with hBlank | hComment | hInRest
        · exact absurd rfl (ne_of_isBlank (hBlanks '\n' hBlank)).2
        · cases hComment
        · exact hInRest
      obtain ⟨note, after, rfl, hNote⟩ := List.eq_append_cons_of_mem hInRest
      have hLayout : layout text = text.takeWhile isBlank ++ '#' :: note := by
        rw [layout, hRest, comment_append_newline hNote]
      refine .inr ⟨after, drop_layout ?_, ?_⟩
      · rw [hLayout, List.append_assoc, List.cons_append, hSplit]
      · rw [hLayout]
        exact .comment hBlanks hNote
    · have hLayout : layout text = text.takeWhile isBlank := by
        rw [layout, hRest, comment, if_neg hc, List.append_nil]
      refine .inl ⟨c, rest, drop_layout ?_, fun kind => ?_⟩
      · rw [hLayout, hSplit]
      · rw [hLayout]
        exact .blanks hBlanks

theorem isGap_layout {text : List Char} {kind : Kind} {spelling : List Char}
    (hText : Terminated text)
    (hRead : ofText (text.drop (layout text).length) = .word kind spelling) :
    IsGap (layout text) kind := by
  have hNonempty : text ≠ [] := by
    rintro rfl
    cases hRead
  rcases layout_cases (hText.newline_mem hNonempty) with ⟨c, rest, -, hGap⟩ | ⟨rest, hRest, hGap⟩
  · exact hGap kind
  · rw [hRest, ofText_of_single (show single? '\n' = some .newline from rfl)] at hRead
    cases hRead
    exact hGap

end TeenyLexer
