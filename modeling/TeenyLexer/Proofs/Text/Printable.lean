import Mathlib
import TeenyLexer.Text.Align
import TeenyLexer.Text.ControlSequence
import TeenyLexer.Text.Quoted

/-! # Printable texts

Quoting, aligning and writing numbers in digits give printable texts. A printable text is on one
line, and nothing in it is taken for a control sequence.
-/

namespace TeenyLexer.Text

theorem isPrintable_of_ascii {c : Char} (h : 0x20 ≤ c.toNat) (h' : c.toNat < 0x7F) :
    isPrintable c = true := by
  rw [isPrintable, if_pos (by omega), decide_eq_true h, decide_eq_true h']
  rfl

theorem isPrintable_digitChar {n : Nat} (h : n < 16) : isPrintable n.digitChar = true := by
  have hDigits : ∀ n < 16, 0x20 ≤ n.digitChar.toNat ∧ n.digitChar.toNat < 0x7F := by decide
  exact isPrintable_of_ascii (hDigits n h).1 (hDigits n h).2

@[simp] theorem allPrintable_nil : allPrintable [] = true := rfl

@[simp] theorem allPrintable_cons (c : Char) (text : List Char) :
    allPrintable (c :: text) = (isPrintable c && allPrintable text) := List.all_cons

@[simp] theorem allPrintable_append (s t : List Char) :
    allPrintable (s ++ t) = (allPrintable s && allPrintable t) := List.all_append

theorem allPrintable_iff {text : List Char} :
    allPrintable text = true ↔ ∀ c ∈ text, isPrintable c = true := List.all_eq_true

theorem not_mem_of_allPrintable {c : Char} {text : List Char} (h : allPrintable text = true)
    (hc : isPrintable c = false) : c ∉ text := by
  intro hMem
  rw [allPrintable_iff.mp h c hMem] at hc
  cases hc

section Digits

theorem allPrintable_hex (width n : Nat) : allPrintable (hex width n) = true := by
  induction width generalizing n with
  | zero => rfl
  | succ width ih =>
    have hDigit : isPrintable (n % 16).digitChar = true := isPrintable_digitChar (by omega)
    simp [hex, ih, hDigit]

theorem isDigit_of_mem_repr {n : Nat} {c : Char} (h : c ∈ n.repr.toList) : c.isDigit = true := by
  rw [Nat.repr_eq_ofList_toDigits, String.toList_ofList] at h
  exact Nat.isDigit_of_mem_toDigits (by omega) (by omega) h

theorem digit_or_minus_of_mem_toString {n : Int} {c : Char} (h : c ∈ (toString n).toList) :
    c.isDigit = true ∨ c = '-' := by
  change c ∈ n.repr.toList at h
  rw [Int.repr_eq_if] at h
  split at h
  · exact .inl (isDigit_of_mem_repr h)
  · rw [String.toList_append] at h
    rcases List.mem_append.mp h with hSign | hDigits
    · exact .inr (List.mem_singleton.mp hSign)
    · exact .inl (isDigit_of_mem_repr hDigits)

theorem allPrintable_toString (n : Int) : allPrintable (toString n).toList = true := by
  apply allPrintable_iff.mpr
  intro c hc
  rcases digit_or_minus_of_mem_toString hc with hDigit | rfl
  · have hRange : 48 ≤ c.toNat ∧ c.toNat ≤ 57 := Char.isDigit_iff_toNat.mp hDigit
    apply isPrintable_of_ascii <;> omega
  · rfl

theorem allPrintable_toString_nat (n : Nat) : allPrintable (toString n).toList = true :=
  allPrintable_toString n

end Digits

section Aligned

theorem allPrintable_spaces (n : Nat) : allPrintable (List.replicate n ' ') = true := by
  apply allPrintable_iff.mpr
  intro c hc
  rw [List.eq_of_mem_replicate hc]
  rfl

variable {text : String}

theorem allPrintable_alignLeft (width : Nat) (h : allPrintable text.toList = true) :
    allPrintable (alignLeft width text).toList = true := by
  rw [alignLeft, String.toList_ofList, List.rightpad, allPrintable_append, h, allPrintable_spaces,
    Bool.and_self]

theorem allPrintable_alignRight (width : Nat) (h : allPrintable text.toList = true) :
    allPrintable (alignRight width text).toList = true := by
  rw [alignRight, String.toList_ofList, List.leftpad, allPrintable_append, allPrintable_spaces, h,
    Bool.and_self]

end Aligned

section Quoted

theorem isPrintable_delimiter (text : List Char) : isPrintable (delimiter text) = true := by
  rw [delimiter]
  split <;> rfl

theorem allPrintable_escapeChar {d : Char} (h : isPrintable d = true) (c : Char) :
    allPrintable (escapeChar d c) = true := by
  have hBackslash : isPrintable '\\' = true := rfl
  rw [escapeChar]
  split
  next hPlain =>
    rcases hPlain with rfl | rfl
    · simp [hBackslash, h]
    · rfl
  split
  · rfl
  split
  · rfl
  split
  · rfl
  split
  next hPrintable => simp [hPrintable]
  split
  · simp [hBackslash, allPrintable_hex]
    rfl
  split
  · simp [hBackslash, allPrintable_hex]
    rfl
  · simp [hBackslash, allPrintable_hex]
    rfl

theorem allPrintable_quote (text : String) : allPrintable (quote text).toList = true := by
  have hDelimiter := isPrintable_delimiter text.toList
  have hBody : allPrintable (text.toList.flatMap (escapeChar (delimiter text.toList))) = true := by
    apply allPrintable_iff.mpr
    intro c hc
    obtain ⟨c', -, hc'⟩ := List.mem_flatMap.mp hc
    exact allPrintable_iff.mp (allPrintable_escapeChar hDelimiter c') c hc'
  simp [quote, quoteChars, hDelimiter, hBody]

end Quoted

theorem controlSequenceLength_eq_zero {c : Char} (h : c ≠ '\x1b') (rest : List Char) :
    controlSequenceLength (c :: rest) = 0 := by
  rw [controlSequenceLength]
  intro _ hStart
  exact h (List.cons.inj hStart).1

theorem stripControlAfter_of_not_mem {text : List Char} (h : '\x1b' ∉ text) :
    stripControlAfter 0 text = text := by
  induction text with
  | nil => rfl
  | cons c rest ih =>
    have hc : c ≠ '\x1b' := (List.ne_of_not_mem_cons h).symm
    rw [stripControlAfter, controlSequenceLength_eq_zero hc, ih (List.not_mem_of_not_mem_cons h)]

theorem stripControl_of_not_mem {text : String} (h : '\x1b' ∉ text.toList) :
    stripControl text = text := by
  rw [stripControl, stripControlAfter_of_not_mem h, String.ofList_toList]

end TeenyLexer.Text
