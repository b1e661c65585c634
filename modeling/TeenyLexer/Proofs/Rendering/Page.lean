import TeenyLexer.Proofs.Rendering.Span

/-! # Pages

Tokens are laid out on a page by writing each behind spaces at its place. For the tokens of a
program this never fails, and the page shows the program with a space for every character that
lies outside of all tokens.
-/

namespace TeenyLexer

namespace Page

/-- Writes a token on a page behind spaces. The place of the token has to lie on the line on
which the page ends, and not before that end. -/
def write? (page : List Char) (t : Token) : Option (List Char) :=
  if t.location.line = Place.line page ∧ Place.column page ≤ t.location.column then
    some (page ++ List.replicate (t.location.column - Place.column page).toNat ' ' ++ t.spelling)
  else none

def ofTokens? (tokens : List Token) : Option (List Char) :=
  tokens.foldlM write? []

end Page

/-- The induction keeps the end of the page at the place behind what has been passed. -/
theorem foldlM_write?_placed {text page passed : List Char} {pieces : List Piece}
    (h : FallsInto text pieces) (hLine : Place.line page = Place.line passed)
    (hColumn : Place.column page = Place.column passed) (filename : String) :
    (placed filename passed pieces).foldlM Page.write? page =
      some (page ++ pieces.flatMap Piece.blanked) := by
  induction pieces generalizing text page passed with
  | nil => simp [placed]
  | cons piece pieces ih =>
    obtain ⟨rest, -, hGap, hWord, hMore⟩ := fallsInto_cons_iff.mp h
    have hNewline := newline_not_mem_of_isGap hGap
    have hSpaces : '\n' ∉ List.replicate piece.gap.length ' ' := by simp
    have hWrite : Page.write? page ⟨piece.word, Place.location filename (passed ++ piece.gap)⟩ =
        some (page ++ piece.blanked) := by
      have hWidth : (((Place.column passed + piece.gap.length : Nat) : Int) -
          (Place.column passed : Nat)).toNat = piece.gap.length := by omega
      have hBehind : (Place.column passed : Int) ≤
          ((Place.column passed + piece.gap.length : Nat) : Int) := by omega
      rw [Page.write?, Place.location, hLine, hColumn, Place.line_append,
        Place.column_append_of_not_mem hNewline, List.count_eq_zero.mpr hNewline, hWidth,
        Piece.spelling_word hWord.spells, if_pos ⟨rfl, hBehind⟩, Piece.blanked, List.append_assoc]
    have hLine' : Place.line (page ++ piece.blanked) = Place.line (passed ++ piece.text) := by
      simp only [Piece.blanked, Piece.text, Place.line_append, List.count_append, hLine,
        List.count_eq_zero.mpr hNewline, List.count_eq_zero.mpr hSpaces]
    have hColumn' : Place.column (page ++ piece.blanked) = Place.column (passed ++ piece.text) := by
      rw [Piece.blanked, Piece.text, ← List.append_assoc, ← List.append_assoc]
      refine Place.column_append_congr ?_ _
      rw [Place.column_append_of_not_mem hSpaces, Place.column_append_of_not_mem hNewline, hColumn,
        List.length_replicate]
    rw [placed, List.foldlM_cons, hWrite]
    simpa using ih hMore hLine' hColumn'

/-- The tokens of a program show it up to layout. Their spans are in order, each shows the
spelling of its token, and what is left over is layout. -/
theorem tokenize_lossless {source : String} {filename : Option String} {settings : Settings}
    {tokens : List Token} (h : tokenize source filename settings = .ok tokens) :
    Page.ofTokens? (beforeEnd tokens) =
        some (blankOutside 0 (spansOf (programText source) tokens) (programText source)) ∧
      (spansOf (programText source) tokens).Pairwise
        (fun span later => span.stop ≤ later.start) ∧
      (∀ t ∈ beforeEnd tokens, ∃ before after,
        programText source = before ++ (t.spelling ++ after) ∧
        t.location = Place.location t.location.filename before ∧
        t.span (programText source) = ⟨before.length, before.length + t.spelling.length⟩ ∧
        t.spelling ≠ []) ∧
      ∀ i < (programText source).length,
        covered (spansOf (programText source) tokens) i = false →
          InLayout 0 (spansOf (programText source) tokens) (programText source) i := by
  obtain ⟨pieces, hPieces, rfl⟩ := tokenize_eq_ok_iff.mp h
  have hBefore :=
    beforeEnd_tokensOf hPieces (Settings.filenameOr settings.filename filename) []
  have hSpans : spansOf (programText source)
      (tokensOf (Settings.filenameOr settings.filename filename) [] pieces) = spansFrom 0 pieces := by
    rw [spansOf, hBefore]
    exact map_span_placed hPieces _ []
  rw [hSpans, hBefore]
  refine ⟨?_, pairwise_spansFrom 0 pieces, fun t ht => ?_, fun i hi hOutside => ?_⟩
  · rw [blankOutside_spansFrom hPieces]
    exact foldlM_write?_placed hPieces rfl rfl _
  · obtain ⟨before, after, hText, hLocation, hSpelling⟩ := exists_append_of_mem_placed hPieces ht
    rw [List.nil_append] at hText
    refine ⟨before, after, hText, by rw [hLocation]; rfl, ?_, hSpelling⟩
    rw [hText]
    exact Token.span_of_append hLocation _
  · rw [← Nat.zero_add i] at hOutside
    exact inLayout_of_not_covered hPieces hi hOutside

/-- A string over two lines with a null character in it, and a comment. -/
theorem tokenize_lossless_over_two_lines :
    ∃ tokens, tokenize "\tx \"%\n\x00\"y# é" none {} = .ok tokens ∧
      Page.ofTokens? (beforeEnd tokens) = some " x \"%\n\x00\"y   \n".toList := by
  have hTokens : tokenize "\tx \"%\n\x00\"y# é" none {} = .ok
      [⟨⟨.identifier, "x"⟩, ⟨"<input>", 1, 2⟩⟩, ⟨⟨.string, "\\%\n\x00"⟩, ⟨"<input>", 1, 4⟩⟩,
        ⟨⟨.identifier, "y"⟩, ⟨"<input>", 2, 3⟩⟩, ⟨⟨.newline, "\n"⟩, ⟨"<input>", 2, 7⟩⟩,
        ⟨.endOfInput, ⟨"<input>", 3, 1⟩⟩] := by cbv
  exact ⟨_, hTokens, (tokenize_lossless hTokens).1.trans (by cbv)⟩

end TeenyLexer
