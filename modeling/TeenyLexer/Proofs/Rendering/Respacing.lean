import TeenyLexer.Proofs.Rendering.Span
import TeenyLexer.Proofs.Source.Growth

/-! # Pieces with other gaps

The gaps before the words of a program may be changed, as long as none is closed. The program still
falls into the same words, and none of them changes its line.
-/

namespace TeenyLexer

/-- The same word behind another gap. There may be a gap where there was none, but the other way
round only before a newline, which no word runs into. -/
structure Respaces (piece piece' : Piece) : Prop where
  kind : piece'.kind = piece.kind
  spelling : piece'.spelling = piece.spelling
  isGap : IsGap piece'.gap piece.kind
  keeps : piece'.gap = [] → piece.gap = [] ∨ piece.kind = .newline

theorem Respaces.refl {piece : Piece} (h : IsGap piece.gap piece.kind) : Respaces piece piece :=
  ⟨rfl, rfl, h, .inl⟩

theorem Respaces.word {piece piece' : Piece} (h : Respaces piece piece') :
    piece'.word = piece.word := by
  rw [Piece.word, Piece.word, h.kind, h.spelling]

section Gaps

variable {gap blanks : List Char} {kind : Kind}

theorem IsGap.append_blanks (h : IsGap gap kind) (hBlanks : ∀ c ∈ blanks, isBlank c = true) :
    IsGap (gap ++ blanks) kind := by
  cases h with
  | blanks hGap => exact .blanks (List.forall_mem_append.mpr ⟨hGap, hBlanks⟩)
  | @comment before note hBefore hNote =>
    rw [List.append_assoc, List.cons_append]
    apply IsGap.comment hBefore
    rw [List.mem_append, not_or]
    exact ⟨hNote, newline_not_mem_of_isGap (.blanks hBlanks : IsGap blanks .newline)⟩

theorem IsGap.blanks_append (h : IsGap gap kind) (hBlanks : ∀ c ∈ blanks, isBlank c = true) :
    IsGap (blanks ++ gap) kind := by
  cases h with
  | blanks hGap => exact .blanks (List.forall_mem_append.mpr ⟨hBlanks, hGap⟩)
  | comment hBefore hNote =>
    rw [← List.append_assoc]
    exact .comment (List.forall_mem_append.mpr ⟨hBlanks, hBefore⟩) hNote

theorem IsGap.append_comment {note : List Char} (h : IsGap gap .newline) (hNote : '\n' ∉ note) :
    IsGap (gap ++ '#' :: note) .newline := by
  cases h with
  | blanks hGap => exact .comment hGap hNote
  | @comment before inner hBefore hInner =>
    rw [List.append_assoc, List.cons_append]
    apply IsGap.comment hBefore
    rw [List.mem_append, not_or]
    exact ⟨hInner, List.not_mem_cons_of_ne_of_not_mem (by decide) hNote⟩

theorem IsGap.head_cases {c : Char} (h : IsGap (c :: gap) kind) : isBlank c = true ∨ c = '#' := by
  rcases h.blank_or_sign (i := 0) rfl with hBlank | ⟨sign, hSign, hMark⟩
  · exact .inl hBlank
  · rw [Nat.le_zero.mp hSign] at hMark
    exact .inr (Option.some.inj hMark)

end Gaps

/-- Where a program begins stands what has stood there before, or what separates words. -/
theorem head_respaced {text : List Char} {pieces pieces' : List Piece} (h : FallsInto text pieces)
    (hGaps : List.Forall₂ Respaces pieces pieces') {d : Char}
    (hd : d ∈ (pieces'.flatMap Piece.text).head?) :
    d ∈ text.head? ∨ isBlank d = true ∨ d = '#' ∨ d = '\n' := by
  cases hGaps with
  | nil => cases hd
  | @cons piece piece' _ _ hPiece _ =>
    obtain ⟨rest, rfl, -, hWord, -⟩ := fallsInto_cons_iff.mp h
    obtain ⟨c, more, hSpelling⟩ := List.exists_cons_of_ne_nil hWord.spells.ne_nil
    rw [List.flatMap_cons, Piece.text, hPiece.spelling, hSpelling] at hd
    cases hGap : piece'.gap with
    | nil =>
      rw [hGap] at hd
      rcases hPiece.keeps hGap with hNone | hNewline
      · rw [hNone, hSpelling]
        exact .inl hd
      · have hSpells := hWord.spells
        rw [hNewline] at hSpells
        cases hSpelling.symm.trans hSpells.of_newline
        exact .inr (.inr (.inr (Option.some.inj hd).symm))
    | cons e inner =>
      rw [hGap] at hd
      obtain rfl : e = d := Option.some.inj hd
      have hIsGap := hPiece.isGap
      rw [hGap] at hIsGap
      exact .inr (hIsGap.head_cases.imp_right .inl)

theorem FallsInto.respace {text : List Char} {pieces pieces' : List Piece}
    (h : FallsInto text pieces) (hGaps : List.Forall₂ Respaces pieces pieces') :
    FallsInto (pieces'.flatMap Piece.text) pieces' := by
  induction hGaps generalizing text with
  | nil => exact .nil
  | @cons piece piece' pieces pieces' hPiece hGaps ih =>
    obtain ⟨rest, -, -, hWord, hMore⟩ := fallsInto_cons_iff.mp h
    rw [List.flatMap_cons]
    apply FallsInto.cons
    · rw [hPiece.kind]
      exact hPiece.isGap
    · rw [hPiece.kind, hPiece.spelling]
      apply hWord.congr
      intro d hd
      rcases head_respaced hMore hGaps hd with hSame | hSeparates
      · exact .inl hSame
      · exact .inr (not_growsBy_of_separates hWord.spells hSeparates)
    · exact ih hMore

def Token.wordAndLine (t : Token) : Word × Int :=
  (t.toWord, t.location.line)

theorem map_wordAndLine_respaced {text : List Char} {pieces pieces' : List Piece}
    (h : FallsInto text pieces) (hGaps : List.Forall₂ Respaces pieces pieces')
    {passed passed' : List Char} (hLines : passed'.count '\n' = passed.count '\n')
    (filename : String) :
    (tokensOf filename passed' pieces').map Token.wordAndLine =
      (tokensOf filename passed pieces).map Token.wordAndLine := by
  induction hGaps generalizing text passed passed' with
  | nil => simp [tokensOf, placed, endToken, Token.wordAndLine, Place.location, Place.line, hLines]
  | @cons piece piece' pieces pieces' hPiece hGaps ih =>
    obtain ⟨rest, -, hGap, -, hMore⟩ := fallsInto_cons_iff.mp h
    have hNone := List.count_eq_zero.mpr (newline_not_mem_of_isGap hGap)
    have hNone' := List.count_eq_zero.mpr (newline_not_mem_of_isGap hPiece.isGap)
    have hHead : Token.wordAndLine
        ⟨piece'.word, Place.location filename (passed' ++ piece'.gap)⟩ =
        Token.wordAndLine ⟨piece.word, Place.location filename (passed ++ piece.gap)⟩ := by
      simp only [Token.wordAndLine, Place.location, Place.line, List.count_append, hNone, hNone',
        hLines, hPiece.word]
    have hBehind : (passed' ++ piece'.text).count '\n' = (passed ++ piece.text).count '\n' := by
      simp only [Piece.text, List.count_append, hNone, hNone', hLines, hPiece.spelling]
    rw [tokensOf_cons, tokensOf_cons, List.map_cons, List.map_cons, hHead, ih hMore hBehind]

end TeenyLexer
