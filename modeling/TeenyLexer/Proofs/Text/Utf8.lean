import Mathlib
import TeenyLexer.Text.Utf8

/-! # Decoding and encoding

Decoding accepts exactly the encodings of texts, and gives the text back that has been encoded.
A character is a lead byte and the bytes that have to follow it, each in its span.
-/

namespace TeenyLexer.Text.Utf8

/-- Bytes that continue a character, each in its span. -/
def Continues (spans : List Span) (tail : List UInt8) : Prop :=
  List.Forall₂ (fun span b => span.first ≤ b ∧ b ≤ span.last) spans tail

/-- The code point of a lead that contributes `value` and the bytes that continue it. -/
def codePointOf (value : Nat) (tail : List UInt8) : Nat :=
  tail.foldl (fun v b => v * 64 + (b.toNat - 0x80)) value

@[simp] theorem codePointOf_nil (value : Nat) : codePointOf value [] = value := rfl

@[simp] theorem codePointOf_cons (value : Nat) (b : UInt8) (tail : List UInt8) :
    codePointOf value (b :: tail) = codePointOf (value * 64 + (b.toNat - 0x80)) tail :=
  List.foldl_cons

theorem decodeFrom_continues {p : Partial} {tail : List UInt8}
    (h : Continues (p.expected :: p.further) tail) (offset : Nat) (rest : List UInt8) :
    decodeFrom offset (some p) (tail ++ rest) =
      (Char.ofNat (codePointOf p.value tail) :: ·) <$> decodeFrom (offset + tail.length) none rest := by
  induction tail generalizing p offset with
  | nil => cases h
  | cons b tail ih =>
    obtain ⟨hFirst, hTail⟩ := List.forall₂_cons.mp h
    rw [List.cons_append, decodeFrom, if_pos hFirst]
    cases hFurther : p.further with
    | nil =>
      rw [hFurther] at hTail
      cases hTail
      rw [codePointOf_cons, codePointOf_nil]
      rfl
    | cons expected further =>
      rw [hFurther] at hTail
      have hRest := ih (p := ⟨b :: p.read, p.value * 64 + (b.toNat - 0x80), expected, further⟩)
        hTail (offset + 1)
      simp only [hRest, codePointOf_cons, List.length_cons, Nat.add_assoc, Nat.add_comm 1]

theorem decodeFrom_lead {b : UInt8} {value : Nat} {spans : List Span} {tail : List UInt8}
    (hLead : lead? b = some (value, spans)) (hTail : Continues spans tail) (offset : Nat)
    (rest : List UInt8) :
    decodeFrom offset none (b :: tail ++ rest) =
      (Char.ofNat (codePointOf value tail) :: ·) <$>
        decodeFrom (offset + 1 + tail.length) none rest := by
  rw [List.cons_append, decodeFrom, hLead]
  cases spans with
  | nil =>
    cases hTail
    rfl
  | cons expected further => exact decodeFrom_continues (p := ⟨[b], value, expected, further⟩) hTail _ _

theorem continues_of_decodeFrom {p : Partial} {offset : Nat} {bytes : List UInt8} {text : List Char}
    (h : decodeFrom offset (some p) bytes = .ok text) :
    ∃ tail rest, bytes = tail ++ rest ∧ Continues (p.expected :: p.further) tail := by
  induction bytes generalizing p offset text with
  | nil =>
    rw [decodeFrom] at h
    cases h
  | cons b bytes ih =>
    rw [decodeFrom] at h
    split at h
    next hFirst =>
      split at h
      next hFurther =>
        exact ⟨[b], bytes, rfl, by rw [hFurther]; exact .cons hFirst .nil⟩
      next expected further hFurther =>
        obtain ⟨tail, rest, rfl, hTail⟩ := ih h
        exact ⟨b :: tail, rest, rfl, by rw [hFurther]; exact .cons hFirst hTail⟩
    next => cases h

theorem lead?_ofNat {n : Nat} (h : n < 256) : lead? (UInt8.ofNat n) =
    if n < 0x80 then some (n, [])
    else if n < 0xC2 then none
    else if n < 0xE0 then some (n - 0xC0, [.tail])
    else if n = 0xE0 then some (0x0, [⟨0xA0, 0xBF⟩, .tail])
    else if n = 0xED then some (0xD, [⟨0x80, 0x9F⟩, .tail])
    else if n < 0xF0 then some (n - 0xE0, [.tail, .tail])
    else if n = 0xF0 then some (0x0, [⟨0x90, 0xBF⟩, .tail, .tail])
    else if n < 0xF4 then some (n - 0xF0, [.tail, .tail, .tail])
    else if n = 0xF4 then some (0x4, [⟨0x80, 0x8F⟩, .tail, .tail])
    else none := by
  have hNat : (UInt8.ofNat n).toNat = n := by
    rw [UInt8.toNat_ofNat']
    omega
  simp only [lead?, UInt8.lt_iff_toNat_lt, ← UInt8.toNat_inj, hNat, UInt8.toNat_ofNat]

theorem mem_span_ofNat {span : Span} {n : Nat} (hFirst : span.first.toNat ≤ n)
    (hLast : n ≤ span.last.toNat) :
    span.first ≤ UInt8.ofNat n ∧ UInt8.ofNat n ≤ span.last := by
  have hByte := span.last.toNat_lt
  rw [UInt8.le_iff_toNat_le, UInt8.le_iff_toNat_le, UInt8.toNat_ofNat']
  omega

theorem mem_tail_ofNat (n : Nat) : Span.tail.first ≤ UInt8.ofNat (n % 64 + 128) ∧
    UInt8.ofNat (n % 64 + 128) ≤ Span.tail.last := by
  apply mem_span_ofNat
  · change 128 ≤ n % 64 + 128
    omega
  · change n % 64 + 128 ≤ 191
    omega

/-- Bytes that decoding takes for one character with the code point `n`. -/
def Encodes (n : Nat) (bytes : List UInt8) : Prop :=
  ∃ b value spans tail, bytes = b :: tail ∧ lead? b = some (value, spans) ∧
    Continues spans tail ∧ codePointOf value tail = n

section Forward

variable {n : Nat}

theorem encodes_one (h : n < 0x80) : Encodes n [UInt8.ofNat n] := by
  refine ⟨_, n, [], [], rfl, ?_, .nil, rfl⟩
  rw [lead?_ofNat (by omega), if_pos h]

theorem encodes_two (h : 0x80 ≤ n) (h' : n < 0x800) :
    Encodes n [UInt8.ofNat (n / 64 % 32 + 192), UInt8.ofNat (n % 64 + 128)] := by
  have hCode : codePointOf (n / 64) [UInt8.ofNat (n % 64 + 128)] = n := by
    simp only [codePointOf_cons, codePointOf_nil, UInt8.toNat_ofNat']
    omega
  refine ⟨_, n / 64, [.tail], _, rfl, ?_, .cons (mem_tail_ofNat _) .nil, hCode⟩
  have hValue : n / 64 % 32 + 192 - 0xC0 = n / 64 := by omega
  rw [lead?_ofNat (by omega), if_neg (by omega), if_neg (by omega), if_pos (by omega), hValue]

/-- The second byte is narrowed behind the first and the last but two of the leads, which keeps
out over-long forms and surrogates. -/
theorem exists_lead?_three {value : Nat} (h : value < 0x10) :
    ∃ span, lead? (UInt8.ofNat (value + 224)) = some (value, [span, .tail]) ∧
      (span.first.toNat = 0x80 ∨ span.first.toNat = 0xA0 ∧ value = 0) ∧
        (span.last.toNat = 0xBF ∨ span.last.toNat = 0x9F ∧ value = 0xD) := by
  interval_cases value <;> exact ⟨_, rfl, by decide, by decide⟩

theorem encodes_three (h : 0x800 ≤ n) (h' : n < 0x10000) (hValid : n < 0xD800 ∨ 0xDFFF < n) :
    Encodes n [UInt8.ofNat (n / 4096 % 16 + 224), UInt8.ofNat (n / 64 % 64 + 128),
      UInt8.ofNat (n % 64 + 128)] := by
  have hCode : codePointOf (n / 4096 % 16) [UInt8.ofNat (n / 64 % 64 + 128),
      UInt8.ofNat (n % 64 + 128)] = n := by
    simp only [codePointOf_cons, codePointOf_nil, UInt8.toNat_ofNat']
    omega
  obtain ⟨span, hLead, hFirst, hLast⟩ := exists_lead?_three (Nat.mod_lt (n / 4096) (by decide))
  refine ⟨_, _, _, _, rfl, hLead, .cons ?_ (.cons (mem_tail_ofNat _) .nil), hCode⟩
  apply mem_span_ofNat <;> omega

theorem exists_lead?_four {value : Nat} (h : value < 5) :
    ∃ span, lead? (UInt8.ofNat (value + 240)) = some (value, [span, .tail, .tail]) ∧
      (span.first.toNat = 0x80 ∨ span.first.toNat = 0x90 ∧ value = 0) ∧
        (span.last.toNat = 0xBF ∨ span.last.toNat = 0x8F ∧ value = 4) := by
  interval_cases value <;> exact ⟨_, rfl, by decide, by decide⟩

theorem encodes_four (h : 0x10000 ≤ n) (h' : n < 0x110000) :
    Encodes n [UInt8.ofNat (n / 262144 % 8 + 240), UInt8.ofNat (n / 4096 % 64 + 128),
      UInt8.ofNat (n / 64 % 64 + 128), UInt8.ofNat (n % 64 + 128)] := by
  have hCode : codePointOf (n / 262144 % 8) [UInt8.ofNat (n / 4096 % 64 + 128),
      UInt8.ofNat (n / 64 % 64 + 128), UInt8.ofNat (n % 64 + 128)] = n := by
    simp only [codePointOf_cons, codePointOf_nil, UInt8.toNat_ofNat']
    omega
  have hTail : Continues [.tail, .tail] [UInt8.ofNat (n / 64 % 64 + 128), UInt8.ofNat (n % 64 + 128)] :=
    .cons (mem_tail_ofNat _) (.cons (mem_tail_ofNat _) .nil)
  have hValue : n / 262144 % 8 < 5 := by omega
  obtain ⟨span, hLead, hFirst, hLast⟩ := exists_lead?_four hValue
  refine ⟨_, _, _, _, rfl, hLead, .cons ?_ hTail, hCode⟩
  apply mem_span_ofNat <;> omega

end Forward

theorem utf8EncodeChar_eq (c : Char) : String.utf8EncodeChar c =
    if c.toNat ≤ 0x7F then [UInt8.ofNat c.toNat]
    else if c.toNat ≤ 0x7FF then
      [UInt8.ofNat (c.toNat / 64 % 32 + 192), UInt8.ofNat (c.toNat % 64 + 128)]
    else if c.toNat ≤ 0xFFFF then
      [UInt8.ofNat (c.toNat / 4096 % 16 + 224), UInt8.ofNat (c.toNat / 64 % 64 + 128),
        UInt8.ofNat (c.toNat % 64 + 128)]
    else
      [UInt8.ofNat (c.toNat / 262144 % 8 + 240), UInt8.ofNat (c.toNat / 4096 % 64 + 128),
        UInt8.ofNat (c.toNat / 64 % 64 + 128), UInt8.ofNat (c.toNat % 64 + 128)] := rfl

theorem encodes_utf8EncodeChar (c : Char) : Encodes c.toNat (String.utf8EncodeChar c) := by
  have hValid : c.toNat < 0xD800 ∨ 0xDFFF < c.toNat ∧ c.toNat < 0x110000 := c.valid
  rw [utf8EncodeChar_eq]
  generalize c.toNat = n at hValid
  split
  · exact encodes_one (by omega)
  split
  · exact encodes_two (by omega) (by omega)
  split
  · exact encodes_three (by omega) (by omega) (by omega)
  · exact encodes_four (by omega) (by omega)

section Backward

theorem toNat_ofNat_of_valid {n : Nat} (h : n < 0xD800 ∨ 0xDFFF < n ∧ n < 0x110000) :
    (Char.ofNat n).toNat = n := by
  rw [Char.toNat_ofNat, if_pos h]

theorem ofNat_eq_of_toNat {n : Nat} {b : UInt8} (h : n = b.toNat) : UInt8.ofNat n = b := by
  rw [h, UInt8.ofNat_toNat]

theorem continues_cons_iff {span : Span} {spans : List Span} {tail : List UInt8} :
    Continues (span :: spans) tail ↔ ∃ t rest, tail = t :: rest ∧
      (span.first.toNat ≤ t.toNat ∧ t.toNat ≤ span.last.toNat) ∧ Continues spans rest := by
  simp only [← UInt8.le_iff_toNat_le]
  constructor
  · rintro (_ | ⟨hFirst, hRest⟩)
    exact ⟨_, _, rfl, hFirst, hRest⟩
  · rintro ⟨t, rest, rfl, hFirst, hRest⟩
    exact .cons hFirst hRest

theorem Continues.two {span : Span} {tail : List UInt8} (h : Continues [span, .tail] tail) :
    ∃ t u, tail = [t, u] ∧ (span.first.toNat ≤ t.toNat ∧ t.toNat ≤ span.last.toNat) ∧
      0x80 ≤ u.toNat ∧ u.toNat ≤ 0xBF := by
  obtain ⟨t, _, rfl, ht, hMore⟩ := continues_cons_iff.mp h
  obtain ⟨u, _, rfl, hu, ⟨⟩⟩ := continues_cons_iff.mp hMore
  exact ⟨t, u, rfl, ht, hu⟩

theorem Continues.three {span : Span} {tail : List UInt8} (h : Continues [span, .tail, .tail] tail) :
    ∃ t u v, tail = [t, u, v] ∧ (span.first.toNat ≤ t.toNat ∧ t.toNat ≤ span.last.toNat) ∧
      (0x80 ≤ u.toNat ∧ u.toNat ≤ 0xBF) ∧ 0x80 ≤ v.toNat ∧ v.toNat ≤ 0xBF := by
  obtain ⟨t, _, rfl, ht, hMore⟩ := continues_cons_iff.mp h
  obtain ⟨u, v, rfl, hu, hv⟩ := Continues.two hMore
  exact ⟨t, u, v, rfl, ht, hu, hv⟩

variable {b : UInt8} {span : Span} {tail : List UInt8}

theorem utf8EncodeChar_one (h : b.toNat < 0x80) :
    String.utf8EncodeChar (Char.ofNat b.toNat) = [b] := by
  rw [utf8EncodeChar_eq, toNat_ofNat_of_valid (by omega), if_pos (by omega), UInt8.ofNat_toNat]

theorem utf8EncodeChar_two (hb : 0xC2 ≤ b.toNat) (hb' : b.toNat < 0xE0)
    (hTail : Continues [.tail] tail) :
    String.utf8EncodeChar (Char.ofNat (codePointOf (b.toNat - 0xC0) tail)) = b :: tail := by
  obtain ⟨t, _, rfl, ht, ⟨⟩⟩ := continues_cons_iff.mp hTail
  change 0x80 ≤ t.toNat ∧ t.toNat ≤ 0xBF at ht
  rw [codePointOf_cons, codePointOf_nil]
  generalize hn : (b.toNat - 0xC0) * 64 + (t.toNat - 0x80) = n
  have hb'' : n / 64 % 32 + 192 = b.toNat := by omega
  have ht' : n % 64 + 128 = t.toNat := by omega
  rw [utf8EncodeChar_eq, toNat_ofNat_of_valid (by omega), if_neg (by omega), if_pos (by omega),
    ofNat_eq_of_toNat hb'', ofNat_eq_of_toNat ht']

/-- Where the lead contributes nothing the second byte is high, which keeps out over-long forms,
and where it contributes the thirteen of the surrogates the second byte is low. -/
theorem utf8EncodeChar_three {value : Nat} (hValue : b.toNat = 0xE0 + value) (hb : value < 0x10)
    (hTail : Continues [span, .tail] tail)
    (hSpan : 0x80 ≤ span.first.toNat ∧ span.last.toNat ≤ 0xBF)
    (hLong : value = 0 → 0xA0 ≤ span.first.toNat) (hValid : value = 0xD → span.last.toNat ≤ 0x9F) :
    String.utf8EncodeChar (Char.ofNat (codePointOf value tail)) = b :: tail := by
  obtain ⟨t, u, rfl, ht, hu⟩ := hTail.two
  simp only [codePointOf_cons, codePointOf_nil]
  generalize hn : (value * 64 + (t.toNat - 0x80)) * 64 + (u.toNat - 0x80) = n
  have hb'' : n / 4096 % 16 + 224 = b.toNat := by omega
  have ht' : n / 64 % 64 + 128 = t.toNat := by omega
  have hu' : n % 64 + 128 = u.toNat := by omega
  rw [utf8EncodeChar_eq, toNat_ofNat_of_valid (by omega), if_neg (by omega), if_neg (by omega),
    if_pos (by omega), ofNat_eq_of_toNat hb'', ofNat_eq_of_toNat ht', ofNat_eq_of_toNat hu']

theorem utf8EncodeChar_four {value : Nat} (hValue : b.toNat = 0xF0 + value) (hb : value ≤ 4)
    (hTail : Continues [span, .tail, .tail] tail)
    (hSpan : 0x80 ≤ span.first.toNat ∧ span.last.toNat ≤ 0xBF)
    (hLong : value = 0 → 0x90 ≤ span.first.toNat) (hValid : value = 4 → span.last.toNat ≤ 0x8F) :
    String.utf8EncodeChar (Char.ofNat (codePointOf value tail)) = b :: tail := by
  obtain ⟨t, u, v, rfl, ht, hu, hv⟩ := hTail.three
  simp only [codePointOf_cons, codePointOf_nil]
  generalize hn : ((value * 64 + (t.toNat - 0x80)) * 64 + (u.toNat - 0x80)) * 64 +
    (v.toNat - 0x80) = n
  have hb'' : n / 262144 % 8 + 240 = b.toNat := by omega
  have ht' : n / 4096 % 64 + 128 = t.toNat := by omega
  have hu' : n / 64 % 64 + 128 = u.toNat := by omega
  have hv' : n % 64 + 128 = v.toNat := by omega
  rw [utf8EncodeChar_eq, toNat_ofNat_of_valid (by omega), if_neg (by omega), if_neg (by omega),
    if_neg (by omega), ofNat_eq_of_toNat hb'', ofNat_eq_of_toNat ht', ofNat_eq_of_toNat hu',
    ofNat_eq_of_toNat hv']

theorem utf8EncodeChar_codePointOf {value : Nat} {spans : List Span}
    (hLead : lead? b = some (value, spans)) (hTail : Continues spans tail) :
    String.utf8EncodeChar (Char.ofNat (codePointOf value tail)) = b :: tail := by
  have hWide : 0x80 ≤ Span.tail.first.toNat ∧ Span.tail.last.toNat ≤ 0xBF := by decide
  rw [← UInt8.ofNat_toNat (x := b), lead?_ofNat b.toNat_lt] at hLead
  split at hLead
  next hOne =>
    obtain ⟨rfl, rfl⟩ := Prod.mk.inj (Option.some.inj hLead)
    cases hTail
    exact utf8EncodeChar_one hOne
  split at hLead
  next => cases hLead
  split at hLead
  next =>
    obtain ⟨rfl, rfl⟩ := Prod.mk.inj (Option.some.inj hLead)
    exact utf8EncodeChar_two (by omega) (by omega) hTail
  -- Of the leads of three bytes two narrow the byte behind them.
  split at hLead
  next hLow =>
    obtain ⟨rfl, rfl⟩ := Prod.mk.inj (Option.some.inj hLead)
    exact utf8EncodeChar_three hLow (by decide) hTail (by decide) (by decide) (by decide)
  split at hLead
  next hSurrogate =>
    obtain ⟨rfl, rfl⟩ := Prod.mk.inj (Option.some.inj hLead)
    exact utf8EncodeChar_three hSurrogate (by decide) hTail (by decide) (by decide) (by decide)
  split at hLead
  next =>
    obtain ⟨rfl, rfl⟩ := Prod.mk.inj (Option.some.inj hLead)
    exact utf8EncodeChar_three (by omega) (by omega) hTail hWide (by omega) (by omega)
  -- And of those of four.
  split at hLead
  next hLow =>
    obtain ⟨rfl, rfl⟩ := Prod.mk.inj (Option.some.inj hLead)
    exact utf8EncodeChar_four hLow (by decide) hTail (by decide) (by decide) (by decide)
  split at hLead
  next =>
    obtain ⟨rfl, rfl⟩ := Prod.mk.inj (Option.some.inj hLead)
    exact utf8EncodeChar_four (by omega) (by omega) hTail hWide (by omega) (by omega)
  split at hLead
  next hHigh =>
    obtain ⟨rfl, rfl⟩ := Prod.mk.inj (Option.some.inj hLead)
    exact utf8EncodeChar_four hHigh (by decide) hTail (by decide) (by decide) (by decide)
  next => cases hLead

end Backward

theorem decodeFrom_encodes {n : Nat} {bytes : List UInt8} (h : Encodes n bytes) (offset : Nat)
    (rest : List UInt8) : decodeFrom offset none (bytes ++ rest) =
      (Char.ofNat n :: ·) <$> decodeFrom (offset + bytes.length) none rest := by
  obtain ⟨b, value, spans, tail, rfl, hLead, hTail, rfl⟩ := h
  rw [decodeFrom_lead hLead hTail, List.length_cons, Nat.add_right_comm, Nat.add_assoc]

theorem decodeFrom_encode (text : List Char) (offset : Nat) :
    decodeFrom offset none (encode text) = .ok text := by
  induction text generalizing offset with
  | nil => rfl
  | cons c text ih =>
    rw [encode, List.flatMap_cons, decodeFrom_encodes (encodes_utf8EncodeChar c), ← encode, ih,
      Char.ofNat_toNat]
    rfl

theorem exists_lead_of_decodeFrom {b : UInt8} {bytes : List UInt8} {offset : Nat} {text : List Char}
    (h : decodeFrom offset none (b :: bytes) = .ok text) :
    ∃ value spans tail rest, bytes = tail ++ rest ∧ lead? b = some (value, spans) ∧
      Continues spans tail := by
  rw [decodeFrom] at h
  split at h
  next => cases h
  next value hLead => exact ⟨value, [], [], bytes, rfl, hLead, .nil⟩
  next value expected further hLead =>
    obtain ⟨tail, rest, rfl, hTail⟩ := continues_of_decodeFrom h
    exact ⟨value, expected :: further, tail, rest, rfl, hLead, hTail⟩

theorem encode_of_decodeFrom {bytes : List UInt8} {offset : Nat} {text : List Char}
    (h : decodeFrom offset none bytes = .ok text) : encode text = bytes := by
  generalize hLength : bytes.length = length
  induction length using Nat.strong_induction_on generalizing bytes offset text with
  | h length ih =>
    cases bytes with
    | nil =>
      cases h
      rfl
    | cons b bytes =>
      obtain ⟨value, spans, tail, rest, rfl, hLead, hTail⟩ := exists_lead_of_decodeFrom h
      rw [← List.cons_append, decodeFrom_lead hLead hTail] at h
      cases hRest : decodeFrom (offset + 1 + tail.length) none rest with
      | error malformed =>
        rw [hRest] at h
        cases h
      | ok text' =>
        rw [hRest] at h
        cases h
        have hShorter : rest.length < length := by
          simp only [← hLength, List.length_cons, List.length_append]
          omega
        rw [encode, List.flatMap_cons, utf8EncodeChar_codePointOf hLead hTail, ← encode,
          ih _ hShorter hRest rfl, List.cons_append]

theorem decode_eq_ok_iff {bytes : List UInt8} {text : List Char} :
    decode bytes = .ok text ↔ encode text = bytes := by
  constructor
  · exact encode_of_decodeFrom
  · rintro rfl
    exact decodeFrom_encode text 0

theorem encode_injective {text text' : List Char} (h : encode text = encode text') :
    text = text' :=
  Except.ok.inj ((decode_eq_ok_iff.mpr h).symm.trans (decode_eq_ok_iff.mpr rfl))

theorem encode_ne_of_decode_eq_error {bytes : List UInt8} {malformed : Malformed}
    (h : decode bytes = .error malformed) (text : List Char) : encode text ≠ bytes := by
  intro hEncode
  cases h.symm.trans (decode_eq_ok_iff.mpr hEncode)

end TeenyLexer.Text.Utf8
