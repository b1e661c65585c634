import Mathlib
import TeenyLexer.Text.Quoted

/-! # Reading quoted text

A text is read back from between its quotes one character at a time, each as it stands or from its
escape. The quotes themselves play no part in this: the first and the last character are taken off,
whichever quote they are.
-/

namespace TeenyLexer.Text

section Hex

def hexDigits : List Char :=
  "0123456789abcdef".toList

/-- The number written in some hexadecimal digits. -/
def ofHex (digits : List Char) : Nat :=
  digits.foldl (fun n digit => 16 * n + hexDigits.idxOf digit) 0

theorem idxOf_digitChar {n : Nat} (h : n < 16) : hexDigits.idxOf n.digitChar = n := by
  revert n
  decide

theorem ofHex_hex {width n : Nat} (h : n < 16 ^ width) : ofHex (hex width n) = n := by
  induction width generalizing n with
  | zero => exact (Nat.lt_one_iff.mp h).symm
  | succ width ih =>
    have hHigh : n / 16 < 16 ^ width := Nat.div_lt_of_lt_mul (by rwa [← Nat.pow_succ'])
    have hLow : hexDigits.idxOf (n % 16).digitChar = n % 16 :=
      idxOf_digitChar (Nat.mod_lt n (by decide))
    rw [hex, ofHex, List.foldl_append, ← ofHex, ih hHigh, List.foldl_cons, hLow, List.foldl_nil,
      Nat.div_add_mod]

end Hex

def readHex (width : Nat) (rest : List Char) : Char × List Char :=
  (Char.ofNat (ofHex (rest.take width)), rest.drop width)

/-- The character for which a letter stands behind a backslash, and what is left behind its
escape. -/
def readEscape (letter : Char) (rest : List Char) : Char × List Char :=
  if letter = 't' then ('\t', rest)
  else if letter = 'n' then ('\n', rest)
  else if letter = 'r' then ('\r', rest)
  else if letter = 'x' then readHex 2 rest
  else if letter = 'u' then readHex 4 rest
  else if letter = 'U' then readHex 8 rest
  else (letter, rest)

theorem length_readEscape_le (letter : Char) (rest : List Char) :
    (readEscape letter rest).2.length ≤ rest.length := by
  have hHex : ∀ width, (readHex width rest).2.length ≤ rest.length := by
    intro width
    rw [readHex, List.length_drop]
    exact Nat.sub_le _ _
  rw [readEscape]
  split_ifs <;> first | exact Nat.le_refl _ | exact hHex _

def unescape : List Char → Option (List Char)
  | [] => some []
  | c :: rest =>
    if c = '\\' then
      match rest with
      | [] => none
      | letter :: rest =>
        ((readEscape letter rest).1 :: ·) <$> unescape (readEscape letter rest).2
    else (c :: ·) <$> unescape rest
termination_by text => text.length
decreasing_by
  · have := length_readEscape_le letter rest
    simp only [List.length_cons]
    omega
  · simp only [List.length_cons]
    omega

/-- A quoted text without its quotes, if it begins and ends in the same character. -/
def readQuoted? : List Char → Option (List Char)
  | [] => none
  | d :: rest => if rest.getLast? = some d then unescape rest.dropLast else none

theorem unescape_backslash (letter : Char) (rest : List Char) :
    unescape ('\\' :: letter :: rest) =
      ((readEscape letter rest).1 :: ·) <$> unescape (readEscape letter rest).2 := by
  rw [unescape.eq_def]
  exact if_pos rfl

theorem unescape_plain {c : Char} (h : c ≠ '\\') (rest : List Char) :
    unescape (c :: rest) = (c :: ·) <$> unescape rest := by
  rw [unescape.eq_def]
  exact if_neg h

theorem unescape_hex {letter : Char} {width : Nat}
    (h : ∀ rest, readEscape letter rest = readHex width rest) {c : Char}
    (hc : c.toNat < 16 ^ width) (rest : List Char) :
    unescape ('\\' :: letter :: (hex width c.toNat ++ rest)) = (c :: ·) <$> unescape rest := by
  have hTake : (hex width c.toNat ++ rest).take width = hex width c.toNat :=
    List.take_left' (length_hex width c.toNat)
  have hDrop : (hex width c.toNat ++ rest).drop width = rest :=
    List.drop_left' (length_hex width c.toNat)
  rw [unescape_backslash, h, readHex, hTake, hDrop, ofHex_hex hc, Char.ofNat_toNat]

theorem unescape_escapeChar {d : Char} (hd : d = '\'' ∨ d = '"') (c : Char) (rest : List Char) :
    unescape (escapeChar d c ++ rest) = (c :: ·) <$> unescape rest := by
  rw [escapeChar]
  split_ifs with hMark hTab hNewline hReturn _ hShort hLong
  · have hLetter : readEscape c rest = (c, rest) := by
      rcases hMark with rfl | rfl
      · rcases hd with rfl | rfl <;> rfl
      · rfl
    rw [List.cons_append, List.cons_append, List.nil_append, unescape_backslash, hLetter]
  · subst hTab
    exact unescape_backslash 't' rest
  · subst hNewline
    exact unescape_backslash 'n' rest
  · subst hReturn
    exact unescape_backslash 'r' rest
  · exact unescape_plain (fun hBackslash => hMark (.inr hBackslash)) rest
  · exact unescape_hex (fun _ => rfl) hShort rest
  · exact unescape_hex (fun _ => rfl) hLong rest
  · have hWide : c.toNat < 16 ^ 8 := Nat.lt_of_lt_of_eq c.val.toNat_lt rfl
    exact unescape_hex (fun _ => rfl) hWide rest

theorem unescape_flatMap_escapeChar {d : Char} (hd : d = '\'' ∨ d = '"') (text : List Char) :
    unescape (text.flatMap (escapeChar d)) = some text := by
  induction text with
  | nil => rw [List.flatMap_nil, unescape]
  | cons c text ih =>
    rw [List.flatMap_cons, unescape_escapeChar hd, ih]
    rfl

theorem delimiter_cases (text : List Char) : delimiter text = '\'' ∨ delimiter text = '"' := by
  rw [delimiter]
  split
  · exact .inr rfl
  · exact .inl rfl

theorem readQuoted?_quoteChars (text : List Char) : readQuoted? (quoteChars text) = some text := by
  rw [quoteChars, List.cons_append, readQuoted?, List.getLast?_concat, if_pos rfl,
    List.dropLast_concat, unescape_flatMap_escapeChar (delimiter_cases text)]

end TeenyLexer.Text
