import TeenyLexer.Proofs.Scanner.Decomposition
import TeenyLexer.Proofs.Source.Growth

/-! # Lines of words without layout

Words that follow one another without layout are told apart by where a word cannot go on. A rule
that says before which characters a text is cut gives its words, if no piece goes on over a cut and
every piece is a word. The tokens are then the pieces, each in the column behind those before it.
-/

namespace TeenyLexer

/-- The pieces of a text that is cut before those of its characters at which a rule says so. The
rule is asked about each character with all that stands before it. `before` has been passed, and
`piece` is what has been passed since the last cut. -/
def cutFrom (cuts : List Char → Char → Bool) (before piece : List Char) :
    List Char → List (List Char)
  | [] => [piece]
  | c :: rest =>
    if cuts before c then piece :: cutFrom cuts (before ++ [c]) [c] rest
    else cutFrom cuts (before ++ [c]) (piece ++ [c]) rest

/-- The pieces of a whole text. Nothing is cut off before its first character. -/
def cutWhere (cuts : List Char → Char → Bool) : List Char → List (List Char)
  | [] => []
  | c :: rest => cutFrom cuts [c] [c] rest

section Cuts

variable {cuts : List Char → Char → Bool}

theorem cutFrom_cons_of_cuts {before : List Char} {c : Char} (h : cuts before c = true)
    (piece rest : List Char) : cutFrom cuts before piece (c :: rest) =
      piece :: cutFrom cuts (before ++ [c]) [c] rest := by
  rw [cutFrom, if_pos h]

theorem cutFrom_cons_of_not_cuts {before : List Char} {c : Char} (h : cuts before c = false)
    (piece rest : List Char) : cutFrom cuts before piece (c :: rest) =
      cutFrom cuts (before ++ [c]) (piece ++ [c]) rest := by
  rw [cutFrom, if_neg (Bool.eq_false_iff.mp h)]

end Cuts

/-- The tokens of a program that is one line of words without layout: the words, each in the column
behind the words before it, the newline, and the end of the input on the next line. -/
structure FillsLine (source name : String) (words tokens : List Token) : Prop where
  ends : tokens = words ++ [⟨⟨.newline, "\n"⟩, ⟨name, 1, source.length + 1⟩⟩,
    ⟨.endOfInput, ⟨name, 2, 1⟩⟩]
  joined : String.join (words.map fun t => t.lexeme) = source
  column : ∀ before t after, words = before ++ t :: after →
    t.location = ⟨name, 1, 1 + (before.map fun t => t.lexeme.length).sum⟩

/-- A word of a line on which nothing stands between the words. -/
structure Piece.IsBare (p : Piece) : Prop where
  gap : p.gap = []
  spells : Spells p.kind p.spelling
  newline : p.kind ≠ .newline
  string : p.kind ≠ .string

namespace Piece.IsBare

variable {p : Piece}

theorem word_eq (h : p.IsBare) : p.word = ⟨p.kind, String.ofList p.spelling⟩ :=
  if_neg h.string

theorem text_eq (h : p.IsBare) : p.text = p.spelling := by
  rw [text, h.gap, List.nil_append]

theorem newline_not_mem (h : p.IsBare) : '\n' ∉ p.text := by
  rw [h.text_eq]
  exact h.spells.newline_not_mem h.newline h.string

end Piece.IsBare

theorem Place.location_of_not_mem {passed : List Char} (h : '\n' ∉ passed) (name : String) :
    location name passed = ⟨name, 1, 1 + passed.length⟩ := by
  have hColumn := column_append_of_not_mem h []
  have hLine := line_append [] passed
  rw [List.count_eq_zero.mpr h] at hLine
  rw [List.nil_append] at hColumn hLine
  rw [location, hColumn, hLine]
  simp [line, column, lastLine]

section Line

variable {name : String} {pieces : List Piece}

theorem join_lexemes_placed (h : ∀ p ∈ pieces, p.IsBare) (passed : List Char) :
    String.join ((placed name passed pieces).map fun t => t.lexeme) =
      String.ofList (pieces.flatMap Piece.text) := by
  induction pieces generalizing passed with
  | nil => rfl
  | cons piece pieces ih =>
    obtain ⟨hPiece, hMore⟩ := List.forall_mem_cons.mp h
    rw [placed, List.map_cons, String.join_cons, ih hMore, List.flatMap_cons, String.ofList_append,
      hPiece.word_eq, hPiece.text_eq]

theorem location_placed (h : ∀ p ∈ pieces, p.IsBare) {passed : List Char} (hPassed : '\n' ∉ passed)
    {before after : List Token} {t : Token} (ht : placed name passed pieces = before ++ t :: after) :
    t.location = ⟨name, 1, 1 + passed.length + (before.map fun t => t.lexeme.length).sum⟩ := by
  induction pieces generalizing passed before with
  | nil => simp [placed] at ht
  | cons piece pieces ih =>
    obtain ⟨hPiece, hMore⟩ := List.forall_mem_cons.mp h
    cases before with
    | nil =>
      obtain ⟨rfl, -⟩ := List.cons_eq_cons.mp ht
      rw [hPiece.gap, List.append_nil, Place.location_of_not_mem hPassed]
      simp
    | cons first before =>
      obtain ⟨rfl, hRest⟩ := List.cons_eq_cons.mp ht
      have hBoth : '\n' ∉ passed ++ piece.text := by
        simp [hPassed, hPiece.newline_not_mem]
      rw [ih hMore hBoth hRest, List.map_cons, List.sum_cons, hPiece.word_eq, hPiece.text_eq,
        String.length_ofList, List.length_append]
      simp [add_assoc]

theorem fillsLine_of_fallsInto {source : String} (hBare : ∀ p ∈ pieces, p.IsBare)
    (h : FallsInto (programText source) (pieces ++ [⟨[], .newline, ['\n']⟩])) :
    FillsLine source name (placed name [] pieces)
      (tokensOf name [] (pieces ++ [⟨[], .newline, ['\n']⟩])) := by
  have hSource : pieces.flatMap Piece.text = source.toList := by
    have hText := h.eq_flatMap
    rw [List.flatMap_append] at hText
    exact (List.append_cancel_right hText).symm
  have hLine : '\n' ∉ source.toList := by
    rw [← hSource]
    intro hMem
    obtain ⟨p, hp, hNewline⟩ := List.mem_flatMap.mp hMem
    exact (hBare p hp).newline_not_mem hNewline
  refine ⟨?_, ?_, ?_⟩
  · have hNewline : Place.location name source.toList = ⟨name, 1, source.length + 1⟩ := by
      rw [Place.location_of_not_mem hLine, String.length_toList, add_comm]
    have hEnd : Place.location name (source.toList ++ ['\n']) = ⟨name, 2, 1⟩ := by
      rw [Place.location, Place.line_append, Place.column, Place.lastLine_append_newline,
        Place.line, List.count_eq_zero.mpr hLine]
      rfl
    rw [tokensOf, placed_append, endToken, List.flatMap_append, hSource, List.nil_append,
      List.append_assoc]
    change placed name [] pieces ++ [⟨_, Place.location name (source.toList ++ [])⟩,
      ⟨.endOfInput, Place.location name (source.toList ++ ['\n'])⟩] = _
    rw [List.append_nil, hNewline, hEnd]
    rfl
  · rw [join_lexemes_placed hBare, hSource, String.ofList_toList]
  · intro before t after ht
    rw [location_placed hBare List.not_mem_nil ht]
    simp

end Line

/-- A rule for cutting that gives words. What holds of the text that has been passed and of the
piece that has been passed since the last cut is kept from character to character. -/
structure CutsIntoWords (cuts : List Char → Char → Bool) (kindOf : List Char → Kind)
    (Allowed : Char → Prop) (Holds : List Char → List Char → Prop) : Prop where
  plain : ∀ piece, kindOf piece ≠ .newline ∧ kindOf piece ≠ .string
  spells : ∀ {before piece}, Holds before piece → Spells (kindOf piece) piece
  goesOn : ∀ {before piece c}, Holds before piece → Allowed c → cuts before c = false →
    Holds (before ++ [c]) (piece ++ [c])
  stops : ∀ {before piece c}, Holds before piece → Allowed c → cuts before c = true →
    ¬GrowsBy piece c
  starts : ∀ {before piece c}, Holds before piece → Allowed c → cuts before c = true →
    Holds (before ++ [c]) [c]

namespace CutsIntoWords

variable {cuts : List Char → Char → Bool} {kindOf : List Char → Kind} {Allowed : Char → Prop}
  {Holds : List Char → List Char → Prop}

theorem fallsInto (h : CutsIntoWords cuts kindOf Allowed Holds) {before piece rest : List Char}
    (hHolds : Holds before piece) (hRest : ∀ c ∈ rest, Allowed c) :
    FallsInto (piece ++ (rest ++ ['\n']))
      ((cutFrom cuts before piece rest).map (fun word => ⟨[], kindOf word, word⟩) ++
        [⟨[], .newline, ['\n']⟩]) := by
  -- Over what is left of the text. A cut ends the piece and begins the next one with the invariant.
  induction rest generalizing before piece with
  | nil =>
    have hNewline : IsLongestSpelling (['\n'] ++ []) .newline ['\n'] :=
      isLongestSpelling_append_iff.mpr ⟨.newline, by simp⟩
    have hLast : FallsInto ['\n'] [⟨[], .newline, ['\n']⟩] :=
      fallsInto_cons_iff.mpr ⟨[], rfl, .blanks (List.forall_mem_nil _), hNewline, .nil⟩
    have hWord : IsLongestSpelling (piece ++ ['\n']) (kindOf piece) piece := by
      apply isLongestSpelling_append_iff.mpr
      refine ⟨h.spells hHolds, ?_⟩
      rintro d ⟨⟩
      exact not_growsBy_of_separates (h.spells hHolds) (.inr (.inr rfl))
    exact fallsInto_cons_iff.mpr ⟨_, rfl, .blanks (List.forall_mem_nil _), hWord, hLast⟩
  | cons c rest ih =>
    obtain ⟨hAllowed, hRest⟩ := List.forall_mem_cons.mp hRest
    cases hCut : cuts before c with
    | true =>
      rw [cutFrom_cons_of_cuts hCut]
      have hWord : IsLongestSpelling (piece ++ (c :: rest ++ ['\n'])) (kindOf piece) piece := by
        apply isLongestSpelling_append_iff.mpr
        refine ⟨h.spells hHolds, ?_⟩
        rintro d ⟨⟩
        exact h.stops hHolds hAllowed hCut
      exact fallsInto_cons_iff.mpr ⟨_, rfl, .blanks (List.forall_mem_nil _), hWord,
        ih (h.starts hHolds hAllowed hCut) hRest⟩
    | false =>
      rw [cutFrom_cons_of_not_cuts hCut]
      have hMore := ih (h.goesOn hHolds hAllowed hCut) hRest
      rwa [List.append_assoc] at hMore

/-- The scan of a program that a rule cuts into words. -/
theorem exists_tokens (h : CutsIntoWords cuts kindOf Allowed Holds) {source : String} {c : Char}
    {rest : List Char} (hSource : source.toList = c :: rest) (hFirst : Holds [c] [c])
    (hRest : ∀ x ∈ rest, Allowed x) (filename : Option String) (settings : Settings) :
    ∃ words tokens, tokenize source filename settings = .ok tokens ∧
      FillsLine source (Settings.filenameOr settings.filename filename) words tokens ∧
      words.map Token.toWord = (cutWhere cuts source.toList).map fun word =>
        ⟨kindOf word, String.ofList word⟩ := by
  have hFalls : FallsInto (programText source)
      ((cutWhere cuts source.toList).map (fun word => ⟨[], kindOf word, word⟩) ++
        [⟨[], .newline, ['\n']⟩]) := by
    rw [programText, hSource]
    exact h.fallsInto hFirst hRest
  have hBare : ∀ p ∈ (cutWhere cuts source.toList).map fun word => (⟨[], kindOf word, word⟩ : Piece),
      p.IsBare := by
    intro p hp
    have hSpells := (hFalls.of_mem (List.mem_append_left _ hp)).2
    obtain ⟨word, -, rfl⟩ := List.mem_map.mp hp
    exact ⟨rfl, hSpells, (h.plain word).1, (h.plain word).2⟩
  refine ⟨_, _, tokenize_eq_ok_iff.mpr ⟨_, hFalls, rfl⟩, fillsLine_of_fallsInto hBare hFalls, ?_⟩
  rw [map_toWord_placed, List.map_map]
  apply List.map_congr_left
  intro word hWord
  exact (hBare _ (List.mem_map_of_mem hWord)).word_eq

end CutsIntoWords

end TeenyLexer
