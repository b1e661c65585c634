import TeenyLexer.Proofs.Rendering.Respacing

/-! # Carriage returns at the ends of lines

A newline outside of the strings of a program is a word of its own. A carriage return in front of
each of these goes into the gaps of the program, and nowhere else.
-/

namespace TeenyLexer

def stringSpans (text : List Char) (tokens : List Token) : List Span :=
  (tokens.filter fun t => t.kind = .string).map (Token.span text)

/-- A text that begins at an offset, with a carriage return before every newline outside of the
spans. -/
def returnsOutside (offset : Nat) (spans : List Span) (text : List Char) : List Char :=
  (text.mapIdx fun i c =>
    if c = '\n' ∧ covered spans (offset + i) = false then ['\r', c] else [c]).flatten

section Returns

variable {offset : Nat} {spans : List Span} {text : List Char}

theorem returnsOutside_append (offset : Nat) (spans : List Span) (text more : List Char) :
    returnsOutside offset spans (text ++ more) =
      returnsOutside offset spans text ++ returnsOutside (offset + text.length) spans more := by
  simp only [returnsOutside, List.mapIdx_append, List.flatten_append, Nat.add_assoc,
    Nat.add_comm text.length]

theorem returnsOutside_eq_self
    (h : ∀ i < text.length, text[i]? = some '\n' → covered spans (offset + i) = true) :
    returnsOutside offset spans text = text := by
  have hChars : text.mapIdx (fun i c =>
      if c = '\n' ∧ covered spans (offset + i) = false then ['\r', c] else [c]) =
      text.map fun c => [c] := by
    apply List.ext_getElem (by simp)
    intro i hi _
    rw [List.length_mapIdx] at hi
    rw [List.getElem_mapIdx, List.getElem_map, if_neg]
    rintro ⟨hNewline, hOutside⟩
    rw [h i hi (by rw [List.getElem?_eq_getElem hi, hNewline])] at hOutside
    cases hOutside
  rw [returnsOutside, hChars, ← List.flatMap_def, List.flatMap_singleton']

theorem returnsOutside_of_not_mem (h : '\n' ∉ text) : returnsOutside offset spans text = text := by
  apply returnsOutside_eq_self
  intro i _ hNewline
  exact absurd (List.mem_of_getElem? hNewline) h

theorem returnsOutside_newline (h : covered spans offset = false) :
    returnsOutside offset spans ['\n'] = ['\r', '\n'] := by
  simp [returnsOutside, h]

end Returns

def Piece.withReturn (piece : Piece) : Piece :=
  if piece.kind = .newline then { piece with gap := piece.gap ++ ['\r'] } else piece

theorem Piece.respaces_withReturn {piece : Piece} (h : IsGap piece.gap piece.kind) :
    Respaces piece piece.withReturn := by
  rw [Piece.withReturn]
  split
  · refine ⟨rfl, rfl, ?_, fun hNone => .inl (List.append_eq_nil_iff.mp hNone).1⟩
    exact h.append_blanks (List.forall_mem_singleton.mpr rfl)
  · exact .refl h

theorem returnsOutside_text {piece : Piece} (hGap : IsGap piece.gap piece.kind)
    (hSpells : Spells piece.kind piece.spelling) {offset : Nat} {spans : List Span}
    (hCovered : ∀ i, offset + piece.gap.length ≤ i → i < offset + piece.text.length →
      covered spans i = decide (piece.kind = .string)) :
    returnsOutside offset spans piece.text = piece.withReturn.text := by
  have hLength := piece.length_text
  rw [Piece.text, returnsOutside_append, returnsOutside_of_not_mem (newline_not_mem_of_isGap hGap),
    Piece.withReturn]
  split
  · rename_i hNewline
    rw [hNewline] at hSpells
    have hWord := hSpells.of_newline
    rw [hWord] at hLength
    have hOutside : covered spans (offset + piece.gap.length) = false := by
      rw [hCovered _ le_rfl (by simp [hLength]), hNewline]
      rfl
    rw [hWord, returnsOutside_newline hOutside]
    simp [Piece.text]
  · rename_i hNewline
    have hWord : returnsOutside (offset + piece.gap.length) spans piece.spelling =
        piece.spelling := by
      by_cases hString : piece.kind = .string
      · apply returnsOutside_eq_self
        intro i hi _
        rw [hCovered _ (Nat.le_add_right _ _) (by omega), hString]
        rfl
      · exact returnsOutside_of_not_mem (hSpells.newline_not_mem hNewline hString)
    rw [hWord, Piece.text]

theorem covered_append (spans spans' : List Span) (i : Nat) :
    covered (spans ++ spans') i = (covered spans i || covered spans' i) :=
  List.any_append

theorem stringSpans_placed_cons {piece : Piece} (hSpells : Spells piece.kind piece.spelling)
    (filename : String) (passed after : List Char) (pieces : List Piece) :
    stringSpans (passed ++ (piece.text ++ after)) (placed filename passed (piece :: pieces)) =
      (if piece.kind = .string then
        [⟨passed.length + piece.gap.length, passed.length + piece.text.length⟩] else []) ++
      stringSpans (passed ++ piece.text ++ after)
        (placed filename (passed ++ piece.text) pieces) := by
  have hSpan : Token.span (passed ++ (piece.text ++ after))
      ⟨piece.word, Place.location filename (passed ++ piece.gap)⟩ =
      ⟨passed.length + piece.gap.length, passed.length + piece.text.length⟩ := by
    rw [Piece.text, List.append_assoc, ← List.append_assoc, Token.span_of_append rfl,
      Piece.spelling_word hSpells, List.length_append, List.length_append, Nat.add_assoc]
  rw [stringSpans, placed, List.filter_cons, Piece.kind_word]
  split <;> simp_all [stringSpans]

theorem start_ge_of_mem_stringSpans {pieces : List Piece}
    (h : ∀ piece ∈ pieces, Spells piece.kind piece.spelling) {filename : String}
    {passed after : List Char} {span : Span}
    (hSpan : span ∈ stringSpans (passed ++ (pieces.flatMap Piece.text ++ after))
      (placed filename passed pieces)) : passed.length ≤ span.start := by
  induction pieces generalizing passed with
  | nil => cases hSpan
  | cons piece pieces ih =>
    obtain ⟨hSpells, hMore⟩ := List.forall_mem_cons.mp h
    rw [List.flatMap_cons, List.append_assoc, stringSpans_placed_cons hSpells,
      List.mem_append] at hSpan
    rcases hSpan with hFirst | hLater
    · split at hFirst
      · rw [List.mem_singleton.mp hFirst]
        exact Nat.le_add_right _ _
      · cases hFirst
    · have := ih hMore hLater
      rw [List.length_append] at this
      omega

/-- The induction keeps the spans of the strings that are still to come. -/
theorem returnsOutside_placed {pieces : List Piece}
    (h : ∀ piece ∈ pieces, IsGap piece.gap piece.kind ∧ Spells piece.kind piece.spelling)
    (filename : String) (passed after : List Char) {spans : List Span}
    (hSpans : ∀ i, passed.length ≤ i → covered spans i =
      covered (stringSpans (passed ++ (pieces.flatMap Piece.text ++ after))
        (placed filename passed pieces)) i) :
    returnsOutside passed.length spans (pieces.flatMap Piece.text) =
      (pieces.map Piece.withReturn).flatMap Piece.text := by
  induction pieces generalizing passed with
  | nil => rfl
  | cons piece pieces ih =>
    obtain ⟨⟨hGap, hSpells⟩, hMore⟩ := List.forall_mem_cons.mp h
    have hLength := piece.length_text
    rw [List.flatMap_cons, List.append_assoc, stringSpans_placed_cons hSpells,
      ← List.append_assoc] at hSpans
    have hPiece : returnsOutside passed.length spans piece.text = piece.withReturn.text := by
      apply returnsOutside_text hGap hSpells
      intro i hi hi'
      have hLater : covered (stringSpans (passed ++ piece.text ++ (pieces.flatMap Piece.text ++
          after)) (placed filename (passed ++ piece.text) pieces)) i = false := by
        apply covered_eq_false_iff.mpr
        intro span hSpan hStart
        have := start_ge_of_mem_stringSpans (fun p hp => (hMore p hp).2) hSpan
        rw [List.length_append] at this
        omega
      rw [hSpans i (by omega), covered_append, List.append_assoc, hLater, Bool.or_false]
      split <;> simp_all [covered]
    have hRest : returnsOutside (passed ++ piece.text).length spans (pieces.flatMap Piece.text) =
        (pieces.map Piece.withReturn).flatMap Piece.text := by
      apply ih hMore
      intro i hi
      rw [List.length_append] at hi
      rw [hSpans i (by omega), covered_append]
      split <;> simp [covered, hi]
    rw [List.flatMap_cons, returnsOutside_append, ← List.length_append, hPiece, hRest,
      List.map_cons, List.flatMap_cons]

/-- Neither the newline that ends a program nor the end of the input is a string. -/
theorem stringSpans_tokensOf_concat (text : List Char) (filename : String) (passed gap : List Char)
    (before : List Piece) :
    stringSpans text (tokensOf filename passed (before ++ [⟨gap, .newline, ['\n']⟩])) =
      stringSpans text (placed filename passed before) := by
  simp [stringSpans, tokensOf, placed_append, placed, endToken, Word.endOfInput]

/-- The newline at the end of a program is not in its source, so it gets no return. -/
theorem returnsOutside_source {source : String} {before : List Piece} {gap : List Char}
    (h : FallsInto (programText source) (before ++ [⟨gap, .newline, ['\n']⟩])) (filename : String) :
    returnsOutside 0 (stringSpans (programText source)
        (tokensOf filename [] (before ++ [⟨gap, .newline, ['\n']⟩]))) source.toList =
      (before.map Piece.withReturn).flatMap Piece.text ++ gap := by
  have hGap := (h.of_mem (List.mem_append_right _ List.mem_cons_self)).1
  have hText : programText source = before.flatMap Piece.text ++ (gap ++ ['\n']) := by
    rw [h.eq_flatMap, List.flatMap_append, List.flatMap_singleton, Piece.text]
  have hSource : source.toList = before.flatMap Piece.text ++ gap := by
    rw [programText, ← List.append_assoc] at hText
    exact List.append_cancel_right hText
  have hBefore : ∀ p ∈ before, IsGap p.gap p.kind ∧ Spells p.kind p.spelling :=
    fun p hp => h.of_mem (List.mem_append_left _ hp)
  rw [stringSpans_tokensOf_concat, hText, hSource, returnsOutside_append,
    returnsOutside_of_not_mem (newline_not_mem_of_isGap hGap)]
  exact congrArg (· ++ gap) (returnsOutside_placed hBefore _ [] (gap ++ ['\n']) fun _ _ => rfl)

end TeenyLexer
