import Mathlib.Data.List.Basic
import TeenyLexer.Proofs.Source.Gap

/-! # Texts that go on

What stands behind the newline at the end of a text has no part in what the text begins with: the
layout is the same, and so is the reading. Only a string that the text leaves open may be closed
by what follows.
-/

namespace TeenyLexer

section Runs

variable {α : Type} {p : α → Bool} {x : α} {text : List α}

theorem takeWhile_append_of_mem (hx : x ∈ text) (hStop : p x = false) (more : List α) :
    (text ++ more).takeWhile p = text.takeWhile p := by
  obtain ⟨before, after, rfl⟩ := List.append_of_mem hx
  induction before with
  | nil => simp [hStop]
  | cons y before ih =>
    have hInside : x ∈ before ++ x :: after := by simp
    rw [List.cons_append, List.cons_append, List.takeWhile_cons, List.takeWhile_cons, ih hInside]

theorem dropWhile_append_of_mem (hx : x ∈ text) (hStop : p x = false) (more : List α) :
    (text ++ more).dropWhile p = text.dropWhile p ++ more := by
  have hSplit : text.takeWhile p ++ (text ++ more).dropWhile p =
      text.takeWhile p ++ (text.dropWhile p ++ more) := by
    rw [← List.append_assoc, List.takeWhile_append_dropWhile,
      ← takeWhile_append_of_mem hx hStop more, List.takeWhile_append_dropWhile]
  exact List.append_cancel_left hSplit

theorem mem_dropWhile (hx : x ∈ text) (hStop : p x = false) : x ∈ text.dropWhile p := by
  have hSplit : text.takeWhile p ++ text.dropWhile p = text := List.takeWhile_append_dropWhile
  rw [← hSplit, List.mem_append] at hx
  rcases hx with hRun | hRest
  · rw [List.mem_takeWhile_imp hRun] at hStop
    cases hStop
  · exact hRest

end Runs

theorem layout_append_of_newline_mem {text : List Char} (h : '\n' ∈ text) (more : List Char) :
    layout (text ++ more) = layout text := by
  have hBlank : isBlank '\n' = false := by decide
  have hRest : '\n' ∈ text.dropWhile isBlank := mem_dropWhile h hBlank
  rw [layout, layout, takeWhile_append_of_mem h hBlank, dropWhile_append_of_mem h hBlank]
  cases hBehind : text.dropWhile isBlank with
  | nil => simp [hBehind] at hRest
  | cons c rest =>
    rw [List.cons_append, comment, comment]
    split
    next hSign =>
      have hInside : '\n' ∈ rest := by
        rw [hBehind, hSign] at hRest
        simpa using hRest
      rw [takeWhile_append_of_mem hInside (by simp)]
    next => rfl

namespace Reading

theorem numeral_append_of_newline_mem {text : List Char} (h : '\n' ∈ text) (more : List Char) :
    numeral (text ++ more) = numeral text := by
  have hDigit : Char.isDigit '\n' = false := by decide
  have hRest : '\n' ∈ text.dropWhile Char.isDigit := mem_dropWhile h hDigit
  rw [numeral, numeral, takeWhile_append_of_mem h hDigit, dropWhile_append_of_mem h hDigit]
  cases hBehind : text.dropWhile Char.isDigit with
  | nil => simp [hBehind] at hRest
  | cons c rest =>
    by_cases hPoint : c = '.'
    · have hInside : '\n' ∈ rest := by
        rw [hBehind, hPoint] at hRest
        simpa using hRest
      simp [hPoint, takeWhile_append_of_mem hInside hDigit]
    · simp [hPoint]

theorem ofText_append {text : List Char} (h : Terminated text) (hText : text ≠ [])
    (hClosed : ofText text ≠ .fault .unterminatedString) (more : List Char) :
    ofText (text ++ more) = ofText text := by
  obtain ⟨c, rest, rfl⟩ := List.exists_cons_of_ne_nil hText
  have hNewline := h.newline_mem hText
  have hBehind : c ≠ '\n' → '\n' ∈ rest := by
    intro hc
    rcases List.mem_cons.mp hNewline with hHere | hRest
    · exact absurd hHere.symm hc
    · exact hRest
  have hHead : c ≠ '\n' → (rest ++ more).head? = rest.head? := by
    intro hc
    exact List.head?_append_of_ne_nil rest (List.ne_nil_of_mem (hBehind hc))
  rw [List.cons_append]
  rcases start_cases c with ⟨k, hc⟩ | ⟨alone, joined, hc⟩ | rfl | rfl | hc | hc | hc
  · rw [ofText_of_single hc, ofText_of_single hc]
  · have hOther : c ≠ '\n' := by
      rintro rfl
      cases hc
    rw [ofText_of_joinable hc, ofText_of_joinable hc, hHead hOther]
  · rw [ofText_exclamation, ofText_exclamation, ofExclamation, ofExclamation,
      List.headD_eq_head?_getD, List.headD_eq_head?_getD, hHead (by decide)]
  · rw [ofText_quote, ofText_quote, ofQuote, ofQuote]
    by_cases hQuote : '"' ∈ rest
    · rw [if_pos hQuote, if_pos (List.mem_append_left more hQuote),
        takeWhile_append_of_mem hQuote (by simp)]
    · rw [ofText_quote, ofQuote, if_neg hQuote] at hClosed
      exact absurd rfl hClosed
  · rw [ofText_of_isNumberStart hc, ofText_of_isNumberStart hc, ← List.cons_append,
      numeral_append_of_newline_mem hNewline]
  · have hOther : c ≠ '\n' := by
      rintro rfl
      cases hc
    rw [ofText_of_isIdentifierStart hc, ofText_of_isIdentifierStart hc,
      takeWhile_append_of_mem (hBehind hOther) (by decide)]
  · rw [ofText_of_startsNothing hc, ofText_of_startsNothing hc]

end Reading

theorem IsLongestSpelling.append {text spelling : List Char} {kind : Kind}
    (h : IsLongestSpelling text kind spelling) (hText : Terminated text) (more : List Char) :
    IsLongestSpelling (text ++ more) kind spelling := by
  have hRead := ofText_eq_word_iff.mpr h
  have hNonempty : text ≠ [] := by
    rintro rfl
    cases hRead
  rw [← ofText_eq_word_iff, Reading.ofText_append hText hNonempty (by simp [hRead]), hRead]

end TeenyLexer
