import TeenyLexer.Proofs.Diagnostic.Caret
import TeenyLexer.Proofs.FileTree.Normal
import TeenyLexer.Proofs.Text.ControlSequence

/-! # Printable parts of a message

What a message says of a fault is printable whatever the character at fault is: a character that is
not printable is named by its code point. The line of the program is all of a message that need not
be printable, if the path of the file is.
-/

namespace TeenyLexer

namespace Text

theorem allPrintable_join {texts : List String} (h : ∀ t ∈ texts, allPrintable t.toList = true) :
    allPrintable (String.join texts).toList = true := by
  induction texts with
  | nil => rfl
  | cons t texts ih =>
    obtain ⟨hFirst, hMore⟩ := List.forall_mem_cons.mp h
    rw [String.join_cons, String.toList_append, allPrintable_append, hFirst, ih hMore]
    rfl

theorem isPrintable_toUpper_of_mem_toDigits {n : Nat} {c : Char} (h : c ∈ Nat.toDigits 16 n) :
    isPrintable c.toUpper = true := by
  have hDigits : ∀ k < 16, isPrintable k.digitChar.toUpper = true := by decide
  induction n using Nat.strongRecOn with
  | ind n ih =>
    rw [Nat.toDigits_eq_if (by decide)] at h
    split at h
    next hSmall =>
      rw [List.mem_singleton.mp h]
      exact hDigits n hSmall
    next hLarge =>
      rcases List.mem_append.mp h with hHigh | hLow
      · exact ih (n / 16) (Nat.div_lt_self (by omega) (by decide)) hHigh
      · rw [List.mem_singleton.mp hLow]
        exact hDigits (n % 16) (Nat.mod_lt n (by decide))

theorem allPrintable_codePoint (c : Char) : allPrintable (codePoint c).toList = true := by
  have hDigits : allPrintable (((Nat.toDigits 16 c.toNat).leftpad 4 '0').map Char.toUpper) =
      true := by
    apply allPrintable_iff.mpr
    intro x hx
    obtain ⟨digit, hDigit, rfl⟩ := List.mem_map.mp hx
    rcases List.mem_append.mp hDigit with hZero | hDigit
    · rw [List.eq_of_mem_replicate hZero]
      rfl
    · exact isPrintable_toUpper_of_mem_toDigits hDigit
  rw [codePoint, String.toList_append, String.toList_ofList, String.toList_ofList,
    allPrintable_append, hDigits]
  rfl

end Text

open Text

theorem Excerpt.allPrintable_describe (e : Excerpt) : allPrintable e.describe.toList = true := by
  have hQuote : allPrintable "'".toList = true := rfl
  rw [describe]
  split
  · rfl
  · split
    next hPrintable =>
      rw [isPrintable] at hPrintable
      simp only [String.toList_append, toString, String.toList_ofList, allPrintable_append, hQuote,
        hPrintable, Bool.and_self]
    next =>
      apply allPrintable_join
      intro t ht
      obtain ⟨c, -, rfl⟩ := List.mem_map.mp ht
      exact allPrintable_codePoint c

theorem Fault.description_unexpectedCharacter (found : Excerpt) :
    (unexpectedCharacter found).description = "unexpected character " ++ found.describe := rfl

theorem Fault.description_malformedOperator (following : Excerpt) :
    (malformedOperator following).description =
      if following.isPrintable then "expected '!=', got '!" ++ following.toString ++ "'"
      else "expected '!=', got '!' followed by " ++ following.describe := rfl

theorem Accuses.allPrintable_description {sourceLine : List Char} {column : Nat} {fault : Fault}
    (h : Accuses sourceLine column fault) : allPrintable fault.description.toList = true := by
  cases h with
  | unexpectedCharacter =>
    have hStart : allPrintable "unexpected character ".toList = true := by decide
    simp only [Fault.description_unexpectedCharacter, String.toList_append, allPrintable_append,
      hStart, Excerpt.allPrintable_describe, Bool.and_self]
  | malformedOperator =>
    have hStart : allPrintable "expected '!=', got '!".toList = true := by decide
    have hQuote : allPrintable "'".toList = true := rfl
    have hFollowed : allPrintable "expected '!=', got '!' followed by ".toList = true := by decide
    rw [Fault.description_malformedOperator]
    split
    next hPrintable =>
      rw [Excerpt.isPrintable] at hPrintable
      simp only [String.toList_append, Excerpt.toString, String.toList_ofList, allPrintable_append,
        hStart, hQuote, hPrintable, Bool.and_self]
    next =>
      simp only [String.toList_append, allPrintable_append, hFollowed,
        Excerpt.allPrintable_describe, Bool.and_self]
  | unterminatedString => decide

theorem Accuses.allPrintable_hint {sourceLine : List Char} {column : Nat} {fault : Fault}
    (h : Accuses sourceLine column fault) {hint : String} (hHint : fault.hint = some hint) :
    allPrintable hint.toList = true := by
  cases h <;> cases hHint <;> decide

namespace Exhibits

variable {source : String} {d : Diagnostic} {filename : String} {line column : Nat}
  {text : List Char} {hint : String}

theorem allPrintable_header (h : Exhibits source d filename line column text hint)
    (hName : allPrintable filename.toList = true) :
    allPrintable (filename ++ ":" ++ toString line ++ ":" ++ toString column ++ ": error: " ++
      d.fault.description).toList = true := by
  have hColon : allPrintable ":".toList = true := rfl
  have hError : allPrintable ": error: ".toList = true := by decide
  simp only [String.toList_append, allPrintable_append, hName, hColon, hError,
    allPrintable_toString_nat, h.accuses.allPrintable_description, Bool.and_self]

theorem allPrintable_hintLine (h : Exhibits source d filename line column text hint) :
    allPrintable ("hint: " ++ hint).toList = true := by
  rw [String.toList_append, allPrintable_append, h.accuses.allPrintable_hint h.hints]
  rfl

end Exhibits

theorem Path.allPrintable_normalize {path : String} (h : allPrintable path.toList = true) :
    allPrintable (Path.normalize path).toList = true := by
  have hRoot : allPrintable (root path.toList) = true := by
    rw [root]
    split <;> rfl
  have hKept : allPrintable (['/'].intercalate (kept path.toList)) = true := by
    apply allPrintable_iff.mpr
    intro c hc
    exact allPrintable_iff.mp h c ((intercalate_kept_sublist path.toList).subset hc)
  rw [normalize, String.toList_ofList, normalizeChars, ← kept]
  split
  · rfl
  next hText =>
    rw [allPrintable_append, hRoot, hKept]
    rfl

end TeenyLexer
