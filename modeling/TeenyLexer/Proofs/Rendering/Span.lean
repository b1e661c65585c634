import TeenyLexer.Proofs.Scanner.Decomposition

/-! # Spans

Every token of a program covers a stretch of offsets, from its place on and as long as it is
written. The spans follow one another in the order of the tokens. What lies outside of all of
them is layout: a blank, or a character of a comment.
-/

namespace TeenyLexer

/-- A stretch of offsets, from `start` up to but not including `stop`. -/
structure Span where
  start : Nat
  stop : Nat

def covered (spans : List Span) (offset : Nat) : Bool :=
  spans.any fun span => decide (span.start ≤ offset ∧ offset < span.stop)

/-- A text that begins at an offset, with a space for every character outside of the spans. -/
def blankOutside (offset : Nat) (spans : List Span) (text : List Char) : List Char :=
  text.mapIdx fun i c => if covered spans (offset + i) then c else ' '

/-- A character of a text that begins at an offset, when it is a blank or stands behind a number
sign on the same line with no span between them. -/
def InLayout (offset : Nat) (spans : List Span) (text : List Char) (i : Nat) : Prop :=
  (∃ c, text[i]? = some c ∧ isBlank c = true) ∨
    ∃ sign ≤ i, text[sign]? = some '#' ∧ ∀ j, sign ≤ j → j ≤ i →
      covered spans (offset + j) = false ∧ text[j]? ≠ some '\n'

def Token.span (text : List Char) (t : Token) : Span :=
  let start := Place.offset text t.location
  ⟨start, start + t.spelling.length⟩

/-- The tokens that are written, which are those before the end of the input. -/
def beforeEnd (tokens : List Token) : List Token :=
  tokens.takeWhile (·.kind ≠ .endOfInput)

def spansOf (text : List Char) (tokens : List Token) : List Span :=
  (beforeEnd tokens).map (Token.span text)

theorem beforeEnd_tokensOf {text : List Char} {pieces : List Piece} (h : FallsInto text pieces)
    (filename : String) (passed : List Char) :
    beforeEnd (tokensOf filename passed pieces) = placed filename passed pieces := by
  induction pieces generalizing text passed with
  | nil => rfl
  | cons piece pieces ih =>
    obtain ⟨rest, -, -, hWord, hMore⟩ := fallsInto_cons_iff.mp h
    have hKind := Piece.kind_word_ne_endOfInput hWord.spells
    rw [tokensOf_cons, beforeEnd, List.takeWhile_cons_of_pos (by simpa using hKind)]
    exact congrArg _ (ih hMore _)

theorem newline_not_mem_of_isGap {gap : List Char} {kind : Kind} (h : IsGap gap kind) :
    '\n' ∉ gap := by
  cases h with
  | blanks hBlank => exact fun hNewline => (ne_of_isBlank (hBlank _ hNewline)).2 rfl
  | comment hBlank hNote =>
    intro hNewline
    rcases List.mem_append.mp hNewline with hNewline | hNewline
    · exact (ne_of_isBlank (hBlank _ hNewline)).2 rfl
    · rcases List.mem_cons.mp hNewline with hSign | hNewline
      · cases hSign
      · exact hNote hNewline

theorem IsGap.blank_or_sign {gap : List Char} {kind : Kind} (h : IsGap gap kind) {i : Nat}
    {c : Char} (hc : gap[i]? = some c) :
    isBlank c = true ∨ ∃ sign ≤ i, gap[sign]? = some '#' := by
  cases h with
  | blanks hBlank => exact .inl (hBlank c (List.mem_of_getElem? hc))
  | @comment blanks note hBlank hNote =>
    rcases Nat.lt_or_ge i blanks.length with hi | hi
    · rw [List.getElem?_append_left hi] at hc
      exact .inl (hBlank c (List.mem_of_getElem? hc))
    · refine .inr ⟨blanks.length, hi, ?_⟩
      rw [List.getElem?_append_right le_rfl, Nat.sub_self]
      rfl

def spansFrom (offset : Nat) : List Piece → List Span
  | [] => []
  | piece :: pieces =>
    ⟨offset + piece.gap.length, offset + piece.text.length⟩ ::
      spansFrom (offset + piece.text.length) pieces

theorem Token.span_of_append {t : Token} {before : List Char} {filename : String}
    (h : t.location = Place.location filename before) (after : List Char) :
    t.span (before ++ after) = ⟨before.length, before.length + t.spelling.length⟩ := by
  rw [Token.span, h, Place.offset_append]

theorem exists_append_of_mem_placed {text : List Char} {pieces : List Piece}
    (h : FallsInto text pieces) {filename : String} {passed : List Char} {t : Token}
    (ht : t ∈ placed filename passed pieces) :
    ∃ before after, passed ++ text = before ++ (t.spelling ++ after) ∧
      t.location = Place.location filename before ∧ t.spelling ≠ [] := by
  induction pieces generalizing text passed with
  | nil => cases ht
  | cons piece pieces ih =>
    obtain ⟨rest, rfl, -, hWord, hMore⟩ := fallsInto_cons_iff.mp h
    rcases List.mem_cons.mp ht with rfl | ht
    · have hSpelling := Piece.spelling_word hWord.spells
      refine ⟨passed ++ piece.gap, rest, ?_, rfl, ?_⟩
      · rw [hSpelling, List.append_assoc]
      · rw [hSpelling]
        exact hWord.spells.ne_nil
    · obtain ⟨before, after, hText, hRest⟩ := ih hMore ht
      refine ⟨before, after, ?_, hRest⟩
      rw [← hText, Piece.text, List.append_assoc, List.append_assoc]

theorem map_span_placed {text : List Char} {pieces : List Piece} (h : FallsInto text pieces)
    (filename : String) (passed : List Char) :
    (placed filename passed pieces).map (Token.span (passed ++ text)) =
      spansFrom passed.length pieces := by
  induction pieces generalizing text passed with
  | nil => rfl
  | cons piece pieces ih =>
    obtain ⟨rest, rfl, -, hWord, hMore⟩ := fallsInto_cons_iff.mp h
    have hSpan : Token.span (passed ++ (piece.gap ++ (piece.spelling ++ rest)))
        ⟨piece.word, Place.location filename (passed ++ piece.gap)⟩ =
        ⟨passed.length + piece.gap.length, passed.length + piece.text.length⟩ := by
      rw [← List.append_assoc, Token.span_of_append rfl, Piece.spelling_word hWord.spells,
        Piece.length_text, List.length_append, Nat.add_assoc]
    have hTail := ih hMore (passed ++ piece.text)
    rw [List.length_append, Piece.text, List.append_assoc, List.append_assoc] at hTail
    rw [placed, List.map_cons, hSpan, spansFrom, Piece.text, hTail]

theorem spansOf_tokensOf {text : List Char} {pieces : List Piece} (h : FallsInto text pieces)
    (filename : String) : spansOf text (tokensOf filename [] pieces) = spansFrom 0 pieces := by
  rw [spansOf, beforeEnd_tokensOf h]
  exact map_span_placed h filename []

theorem start_ge_of_mem_spansFrom {offset : Nat} {pieces : List Piece} {span : Span}
    (h : span ∈ spansFrom offset pieces) : offset ≤ span.start := by
  induction pieces generalizing offset with
  | nil => cases h
  | cons piece pieces ih =>
    rcases List.mem_cons.mp h with rfl | h
    · exact Nat.le_add_right _ _
    · exact (Nat.le_add_right _ _).trans (ih h)

theorem pairwise_spansFrom (offset : Nat) (pieces : List Piece) :
    (spansFrom offset pieces).Pairwise fun span later => span.stop ≤ later.start := by
  induction pieces generalizing offset with
  | nil => exact .nil
  | cons piece pieces ih => exact .cons (fun _ => start_ge_of_mem_spansFrom) (ih _)

theorem covered_eq_true_iff {spans : List Span} {i : Nat} :
    covered spans i = true ↔ ∃ span ∈ spans, span.start ≤ i ∧ i < span.stop := by
  simp [covered]

theorem covered_eq_false_iff {spans : List Span} {i : Nat} :
    covered spans i = false ↔ ∀ span ∈ spans, span.start ≤ i → span.stop ≤ i := by
  simp [covered]

theorem covered_gap {offset i : Nat} {piece : Piece} (hi : i < offset + piece.gap.length)
    (pieces : List Piece) : covered (spansFrom offset (piece :: pieces)) i = false := by
  have hText := piece.length_text
  refine covered_eq_false_iff.mpr fun span hSpan hStart => ?_
  rcases List.mem_cons.mp hSpan with rfl | hSpan
  · exact absurd hStart hi.not_ge
  · have := start_ge_of_mem_spansFrom hSpan
    omega

theorem covered_spelling {offset i : Nat} {piece : Piece} (hi : offset + piece.gap.length ≤ i)
    (hi' : i < offset + piece.text.length) (pieces : List Piece) :
    covered (spansFrom offset (piece :: pieces)) i = true := by
  simp [covered, spansFrom, hi, hi']

theorem covered_behind {offset i : Nat} {piece : Piece} (hi : offset + piece.text.length ≤ i)
    (pieces : List Piece) : covered (spansFrom offset (piece :: pieces)) i =
      covered (spansFrom (offset + piece.text.length) pieces) i := by
  simp [covered, spansFrom, hi.not_gt]

theorem blankOutside_append (offset : Nat) (spans : List Span) (text more : List Char) :
    blankOutside offset spans (text ++ more) =
      blankOutside offset spans text ++ blankOutside (offset + text.length) spans more := by
  simp only [blankOutside, List.mapIdx_append, Nat.add_assoc, Nat.add_comm text.length]

theorem blankOutside_of_covered {offset : Nat} {spans : List Span} {text : List Char}
    (h : ∀ i < text.length, covered spans (offset + i) = true) :
    blankOutside offset spans text = text := by
  refine List.ext_getElem (by simp [blankOutside]) fun i _ hi => ?_
  simp [blankOutside, h i hi]

theorem blankOutside_of_not_covered {offset : Nat} {spans : List Span} {text : List Char}
    (h : ∀ i < text.length, covered spans (offset + i) = false) :
    blankOutside offset spans text = List.replicate text.length ' ' := by
  refine List.ext_getElem (by simp [blankOutside]) fun i hi _ => ?_
  simp [blankOutside, h i (by simpa [blankOutside] using hi)]

theorem blankOutside_congr {offset : Nat} {spans spans' : List Span}
    (h : ∀ i, covered spans (offset + i) = covered spans' (offset + i)) (text : List Char) :
    blankOutside offset spans text = blankOutside offset spans' text := by
  simp only [blankOutside, h]

def Piece.blanked (piece : Piece) : List Char :=
  List.replicate piece.gap.length ' ' ++ piece.spelling

theorem blankOutside_spansFrom {text : List Char} {pieces : List Piece} (h : FallsInto text pieces)
    (offset : Nat) :
    blankOutside offset (spansFrom offset pieces) text = pieces.flatMap Piece.blanked := by
  induction pieces generalizing text offset with
  | nil => rw [fallsInto_nil_iff.mp h, blankOutside, List.mapIdx_nil, List.flatMap_nil]
  | cons piece pieces ih =>
    obtain ⟨rest, rfl, -, -, hMore⟩ := fallsInto_cons_iff.mp h
    have hLength := piece.length_text
    have hGap : ∀ i < piece.gap.length,
        covered (spansFrom offset (piece :: pieces)) (offset + i) = false :=
      fun i hi => covered_gap (by omega) pieces
    have hSpelling : ∀ i < piece.spelling.length,
        covered (spansFrom offset (piece :: pieces)) (offset + piece.gap.length + i) = true :=
      fun i hi => covered_spelling (by omega) (by omega) pieces
    have hRest : ∀ i,
        covered (spansFrom offset (piece :: pieces)) (offset + piece.text.length + i) =
          covered (spansFrom (offset + piece.text.length) pieces)
            (offset + piece.text.length + i) :=
      fun i => covered_behind (by omega) pieces
    rw [blankOutside_append, blankOutside_append, blankOutside_of_not_covered hGap,
      blankOutside_of_covered hSpelling, Nat.add_assoc, ← hLength, blankOutside_congr hRest,
      ih hMore, List.flatMap_cons, Piece.blanked, List.append_assoc]

theorem InLayout.of_append {offset i : Nat} {spans spans' : List Span} {text : List Char}
    (before : List Char) (h : InLayout (offset + before.length) spans text i)
    (hSpans : ∀ j, covered spans' (offset + before.length + j) =
      covered spans (offset + before.length + j)) :
    InLayout offset spans' (before ++ text) (before.length + i) := by
  rcases h with ⟨c, hc, hBlank⟩ | ⟨sign, hSign, hMark, hOutside⟩
  · exact .inl ⟨c, by rwa [List.getElem?_append_right (by omega), Nat.add_sub_cancel_left], hBlank⟩
  · refine .inr ⟨before.length + sign, by omega, ?_, fun j hj hj' => ?_⟩
    · rwa [List.getElem?_append_right (by omega), Nat.add_sub_cancel_left]
    · obtain ⟨k, rfl⟩ := Nat.exists_eq_add_of_le (Nat.le_of_add_right_le hj)
      rw [← Nat.add_assoc, hSpans, List.getElem?_append_right (by omega), Nat.add_sub_cancel_left]
      exact hOutside k (by omega) (by omega)

theorem inLayout_of_not_covered {text : List Char} {pieces : List Piece}
    (h : FallsInto text pieces) {offset i : Nat} (hi : i < text.length)
    (hOutside : covered (spansFrom offset pieces) (offset + i) = false) :
    InLayout offset (spansFrom offset pieces) text i := by
  induction pieces generalizing text offset i with
  | nil =>
    rw [fallsInto_nil_iff.mp h] at hi
    cases hi
  | cons piece pieces ih =>
    obtain ⟨rest, rfl, hGap, -, hMore⟩ := fallsInto_cons_iff.mp h
    have hLength := piece.length_text
    rcases Nat.lt_or_ge i piece.gap.length with hInGap | hBehind
    · obtain ⟨c, hc⟩ : ∃ c, piece.gap[i]? = some c := ⟨_, List.getElem?_eq_getElem hInGap⟩
      rcases hGap.blank_or_sign hc with hBlank | ⟨sign, hSign, hMark⟩
      · exact .inl ⟨c, by rwa [List.getElem?_append_left hInGap], hBlank⟩
      · refine .inr ⟨sign, hSign, ?_, fun j _ hj => ⟨covered_gap (by omega) pieces, ?_⟩⟩
        · rwa [List.getElem?_append_left (by omega)]
        · rw [List.getElem?_append_left (by omega)]
          exact fun hNewline => newline_not_mem_of_isGap hGap (List.mem_of_getElem? hNewline)
    · rcases Nat.lt_or_ge i piece.text.length with hInSpelling | hInRest
      · rw [covered_spelling (by omega) (by omega) pieces] at hOutside
        cases hOutside
      · obtain ⟨k, rfl⟩ := Nat.exists_eq_add_of_le hInRest
        have hSpans : ∀ j,
            covered (spansFrom offset (piece :: pieces)) (offset + piece.text.length + j) =
              covered (spansFrom (offset + piece.text.length) pieces)
                (offset + piece.text.length + j) :=
          fun j => covered_behind (by omega) pieces
        rw [← Nat.add_assoc, hSpans] at hOutside
        simp only [List.length_append] at hi
        rw [← List.append_assoc]
        exact (ih hMore (by omega) hOutside).of_append piece.text hSpans

end TeenyLexer
