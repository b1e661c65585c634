import Mathlib
import TeenyLexer.Proofs.Scanner.Run
import TeenyLexer.Proofs.Source.Gap
import TeenyLexer.Proofs.Token.Codec

/-! # Decomposition

A run succeeds exactly when the program falls into pieces of the grammar, each a gap and the
longest word behind it. It falls into pieces in at most one way, and the tokens of the run are
the words of the pieces at the places where they begin, followed by the end of the input.
-/

namespace TeenyLexer

open Reading

theorem fallsInto_nil_iff {text : List Char} : FallsInto text [] ↔ text = [] := by
  constructor
  · rintro ⟨⟩
    rfl
  · rintro rfl
    exact .nil

theorem fallsInto_cons_iff {text : List Char} {piece : Piece} {pieces : List Piece} :
    FallsInto text (piece :: pieces) ↔ ∃ rest, text = piece.gap ++ (piece.spelling ++ rest) ∧
      IsGap piece.gap piece.kind ∧
      IsLongestSpelling (piece.spelling ++ rest) piece.kind piece.spelling ∧
      FallsInto rest pieces := by
  constructor
  · rintro ⟨⟩
    exact ⟨_, List.append_assoc _ _ _, ‹_›, ‹_›, ‹_›⟩
  · rintro ⟨rest, rfl, hGap, hWord, hMore⟩
    rw [← List.append_assoc]
    exact .cons hGap hWord hMore

theorem FallsInto.of_mem {text : List Char} {pieces : List Piece} (h : FallsInto text pieces)
    {piece : Piece} (hPiece : piece ∈ pieces) :
    IsGap piece.gap piece.kind ∧ Spells piece.kind piece.spelling := by
  induction h with
  | nil => cases hPiece
  | cons hGap hWord _ ih =>
    rcases List.mem_cons.mp hPiece with rfl | hPiece
    · exact ⟨hGap, hWord.spells⟩
    · exact ih hPiece

theorem FallsInto.eq_flatMap {text : List Char} {pieces : List Piece} (h : FallsInto text pieces) :
    text = pieces.flatMap Piece.text := by
  induction h with
  | nil => rfl
  | cons _ _ _ ih => rw [List.flatMap_cons, ← ih]

theorem FallsInto.eq {text : List Char} {pieces pieces' : List Piece} (h : FallsInto text pieces)
    (h' : FallsInto text pieces') : pieces = pieces' := by
  induction pieces generalizing text pieces' with
  | nil =>
    cases pieces' with
    | nil => rfl
    | cons piece' pieces' =>
      obtain ⟨rest, hText, -, hWord, -⟩ := fallsInto_cons_iff.mp h'
      rw [fallsInto_nil_iff.mp h] at hText
      have hEmpty : piece'.spelling = [] := by
        simp only [List.nil_eq, List.append_eq_nil_iff] at hText
        exact hText.2.1
      exact absurd hEmpty hWord.spells.ne_nil
  | cons piece pieces ih =>
    obtain ⟨rest, rfl, hGap, hWord, hMore⟩ := fallsInto_cons_iff.mp h
    cases pieces' with
    | nil =>
      have hEmpty : piece.spelling = [] := by
        have hText := fallsInto_nil_iff.mp h'
        simp only [List.append_eq_nil_iff] at hText
        exact hText.2.1
      exact absurd hEmpty hWord.spells.ne_nil
    | cons piece' pieces' =>
      obtain ⟨rest', hText, hGap', hWord', hMore'⟩ := fallsInto_cons_iff.mp h'
      have hGapEq : piece.gap = piece'.gap := by
        rw [← layout_of_isGap hGap hWord.spells rest, hText,
          layout_of_isGap hGap' hWord'.spells rest']
      have hBehind : piece.spelling ++ rest = piece'.spelling ++ rest' := by
        rw [hGapEq] at hText
        exact List.append_cancel_left hText
      rw [← hBehind] at hWord'
      obtain ⟨hKind, hSpelling⟩ := hWord.unique hWord'
      have hRest : rest = rest' := by
        rw [hSpelling] at hBehind
        exact List.append_cancel_left hBehind
      subst hRest
      have hPiece : piece = piece' := by
        cases piece
        cases piece'
        simp_all
      rw [hPiece, ih hMore hMore']

/-- What a text begins with that ends in a newline: nothing, a fault behind its layout, or a
piece. -/
theorem Terminated.first_cases {text : List Char} (h : Terminated text) :
    text = [] ∨ (∃ fault, ofText (text.drop (layout text).length) = .fault fault) ∨
      ∃ (piece : Piece) (rest : List Char), text = piece.gap ++ (piece.spelling ++ rest) ∧
        IsGap piece.gap piece.kind ∧
        IsLongestSpelling (piece.spelling ++ rest) piece.kind piece.spelling := by
  cases hRead : ofText (text.drop (layout text).length) with
  | endOfInput =>
    refine .inl (Classical.byContradiction fun hText => ?_)
    have hEnd := ofText_eq_endOfInput_iff.mp hRead
    rcases layout_cases (h.newline_mem hText) with ⟨c, rest, hRest, -⟩ | ⟨rest, hRest, -⟩ <;>
      simp [hRest] at hEnd
  | fault fault => exact .inr (.inl ⟨fault, rfl⟩)
  | word kind spelling =>
    have hWord := isLongestSpelling_of_ofText hRead
    obtain ⟨rest, hBehind⟩ := hWord.isPrefix
    refine .inr (.inr ⟨⟨layout text, kind, spelling⟩, rest, ?_, isGap_layout h hRead, ?_⟩)
    · rw [hBehind, layout_append_drop]
    · rwa [hBehind]

/-- Induction along a text that ends in a newline, from word to word until nothing or a fault is
left. -/
theorem Terminated.induction {motive : (text : List Char) → Terminated text → Prop}
    (nil : ∀ h, motive [] h)
    (fault : ∀ text fault h, ofText (text.drop (layout text).length) = .fault fault → motive text h)
    (piece : ∀ (piece : Piece) (rest : List Char) h, IsGap piece.gap piece.kind →
      IsLongestSpelling (piece.spelling ++ rest) piece.kind piece.spelling →
        (∀ h', motive rest h') → motive (piece.gap ++ (piece.spelling ++ rest)) h)
    {text : List Char} (h : Terminated text) : motive text h := by
  induction hLength : text.length using Nat.strongRecOn generalizing text with
  | ind n ih =>
    rcases h.first_cases with rfl | ⟨reason, hRead⟩ | ⟨first, rest, rfl, hGap, hWord⟩
    · exact nil h
    · exact fault text reason h hRead
    · have hShorter : rest.length < n := by
        have hSpelling := List.length_pos_iff.mpr hWord.spells.ne_nil
        simp only [List.length_append] at hLength
        omega
      exact piece first rest h hGap hWord fun h' => ih rest.length hShorter h' rfl

namespace Piece

variable {piece : Piece}

@[simp] theorem kind_word (piece : Piece) : piece.word.kind = piece.kind :=
  Word.kind_ofSpelling _ _

theorem kind_word_ne_endOfInput (h : Spells piece.kind piece.spelling) :
    piece.word.kind ≠ .endOfInput := by
  rw [kind_word]
  exact h.kind_ne_endOfInput

theorem spelling_word (h : Spells piece.kind piece.spelling) :
    piece.word.spelling = piece.spelling :=
  Word.spelling_ofSpelling h

theorem length_text (piece : Piece) :
    piece.text.length = piece.gap.length + piece.spelling.length :=
  List.length_append

end Piece

/-- The tokens of some pieces, placed behind a text that has been passed. -/
def placed (filename : String) (passed : List Char) : List Piece → List Token
  | [] => []
  | piece :: pieces =>
    ⟨piece.word, Place.location filename (passed ++ piece.gap)⟩ ::
      placed filename (passed ++ piece.text) pieces

def endToken (filename : String) (passed : List Char) (pieces : List Piece) : Token :=
  ⟨.endOfInput, Place.location filename (passed ++ pieces.flatMap Piece.text)⟩

def tokensOf (filename : String) (passed : List Char) (pieces : List Piece) : List Token :=
  placed filename passed pieces ++ [endToken filename passed pieces]

theorem tokensOf_cons (filename : String) (passed : List Char) (piece : Piece)
    (pieces : List Piece) : tokensOf filename passed (piece :: pieces) =
      ⟨piece.word, Place.location filename (passed ++ piece.gap)⟩ ::
        tokensOf filename (passed ++ piece.text) pieces := by
  simp [tokensOf, placed, endToken]

theorem placed_append (filename : String) (passed : List Char) (pieces more : List Piece) :
    placed filename passed (pieces ++ more) = placed filename passed pieces ++
      placed filename (passed ++ pieces.flatMap Piece.text) more := by
  induction pieces generalizing passed with
  | nil => simp [placed]
  | cons piece pieces ih =>
    rw [List.cons_append, placed, ih, placed, List.cons_append, List.flatMap_cons,
      List.append_assoc]

theorem map_toWord_placed (filename : String) (passed : List Char) (pieces : List Piece) :
    (placed filename passed pieces).map Token.toWord = pieces.map Piece.word := by
  induction pieces generalizing passed with
  | nil => rfl
  | cons piece pieces ih => rw [placed, List.map_cons, ih, List.map_cons]

theorem map_toWord_tokensOf (filename : String) (passed : List Char) (pieces : List Piece) :
    (tokensOf filename passed pieces).map Token.toWord =
      pieces.map Piece.word ++ [.endOfInput] := by
  rw [tokensOf, List.map_append, map_toWord_placed]
  rfl

namespace Cursor

/-- The cursor between what has been passed of a buffer and what is left of it. -/
def between (passed text : List Char) : Cursor :=
  atOffset (passed ++ text) passed.length

@[simp] theorem rest_between (passed text : List Char) : (between passed text).rest = text := by
  simp [between, atOffset]

theorem atOffset_eq_between {buffer : List Char} {offset : Nat} (h : offset ≤ buffer.length) :
    atOffset buffer offset = between (buffer.take offset) (buffer.drop offset) := by
  rw [between, List.take_append_drop, List.length_take_of_le h]

theorem location_between (passed text : List Char) (filename : String) :
    (between passed text).location filename = Place.location filename passed := by
  rw [between, location_atOffset, List.take_left]

theorem advanceBy_between (passed more text : List Char) :
    (between passed (more ++ text)).advanceBy more.length = between (passed ++ more) text := by
  rw [between, advanceBy_atOffset, between, List.length_append, List.append_assoc]

theorem skipLayout_between (passed text : List Char) :
    (between passed text).skipLayout =
      between (passed ++ layout text) (text.drop (layout text).length) := by
  rw [← advanceBy_between, layout_append_drop, skipLayout, rest_between]

end Cursor

namespace Scanner

variable {s : Scanner} {passed text : List Char}

theorem outcome_pull_of_nil (hCursor : s.cursor = .between passed []) :
    s.pull.outcome = .ok ⟨.endOfInput, Place.location s.filename passed⟩ := by
  have hRest : s.cursor.rest = [] := by rw [hCursor, Cursor.rest_between]
  rw [outcome_pull_of_rest_eq_nil hRest, hCursor, Cursor.location_between]

theorem pull_of_piece {piece : Piece} {rest : List Char}
    (hCursor : s.cursor = .between passed (piece.gap ++ (piece.spelling ++ rest)))
    (hGap : IsGap piece.gap piece.kind)
    (hWord : IsLongestSpelling (piece.spelling ++ rest) piece.kind piece.spelling) :
    s.pull.outcome = .ok ⟨piece.word, Place.location s.filename (passed ++ piece.gap)⟩ ∧
      s.pull.scanner = { s with cursor := .between (passed ++ piece.text) rest } := by
  have hSkip : s.cursor.skipLayout = .between (passed ++ piece.gap) (piece.spelling ++ rest) := by
    rw [hCursor, Cursor.skipLayout_between, layout_of_isGap hGap hWord.spells, List.drop_left]
  have hRead : ofText s.cursor.skipLayout.rest = .word piece.kind piece.spelling := by
    rw [hSkip, Cursor.rest_between]
    exact ofText_eq_word_iff.mpr hWord
  rw [pull_of_word hRead, hSkip, Cursor.location_between, Cursor.advanceBy_between]
  exact ⟨rfl, by rw [Piece.text, ← List.append_assoc]; rfl⟩

theorem tokens_of_fallsInto {pieces : List Piece} (hCursor : s.cursor = .between passed text)
    (hPieces : FallsInto text pieces) : s.tokens = .ok (tokensOf s.filename passed pieces) := by
  induction pieces generalizing s passed text with
  | nil =>
    rw [fallsInto_nil_iff.mp hPieces] at hCursor
    rw [tokens_of_endOfInput (outcome_pull_of_nil hCursor) rfl]
    simp [tokensOf, placed, endToken]
  | cons piece pieces ih =>
    obtain ⟨rest, rfl, hGap, hWord, hMore⟩ := fallsInto_cons_iff.mp hPieces
    obtain ⟨hOutcome, hScanner⟩ := pull_of_piece hCursor hGap hWord
    have hRest : s.pull.scanner.tokens =
        .ok (tokensOf s.filename (passed ++ piece.text) pieces) := by
      rw [hScanner]
      exact ih rfl hMore
    have hKind := Piece.kind_word_ne_endOfInput hWord.spells
    rw [tokens_of_word hOutcome hKind, hRest, tokensOf_cons]
    rfl

theorem fallsInto_of_tokens {tokens : List Token} (hCursor : s.cursor = .between passed text)
    (hText : Terminated text) (hTokens : s.tokens = .ok tokens) :
    ∃ pieces, FallsInto text pieces := by
  induction hText using Terminated.induction generalizing s passed tokens with
  | nil => exact ⟨[], .nil⟩
  | fault text fault hText hRead =>
    have hFault : ofText s.cursor.skipLayout.rest = .fault fault := by
      rw [hCursor, Cursor.rest_skipLayout, Cursor.rest_between, hRead]
    have hOutcome := congrArg Pull.outcome (pull_of_fault hFault)
    rw [tokens_of_error hOutcome] at hTokens
    cases hTokens
  | piece piece rest hText hGap hWord ih =>
    obtain ⟨hOutcome, hScanner⟩ := pull_of_piece hCursor hGap hWord
    obtain ⟨token, hToken, ⟨hKind, -⟩ | ⟨-, more, hMore, -⟩⟩ := tokens_eq_ok hTokens
    · rw [hOutcome] at hToken
      cases hToken
      exact absurd hKind (Piece.kind_word_ne_endOfInput hWord.spells)
    · rw [hScanner] at hMore
      obtain ⟨pieces, hPieces⟩ := ih hText.of_append.of_append rfl hMore
      exact ⟨piece :: pieces, fallsInto_cons_iff.mpr ⟨rest, rfl, hGap, hWord, hPieces⟩⟩

theorem tokens_eq_ok_iff {tokens : List Token} (hCursor : s.cursor = .between passed text)
    (hText : Terminated text) : s.tokens = .ok tokens ↔
      ∃ pieces, FallsInto text pieces ∧ tokens = tokensOf s.filename passed pieces := by
  constructor
  · intro hTokens
    obtain ⟨pieces, hPieces⟩ := fallsInto_of_tokens hCursor hText hTokens
    refine ⟨pieces, hPieces, ?_⟩
    rw [tokens_of_fallsInto hCursor hPieces] at hTokens
    exact (Except.ok.inj hTokens).symm
  · rintro ⟨pieces, hPieces, rfl⟩
    exact tokens_of_fallsInto hCursor hPieces

end Scanner

theorem tokenize_eq_ok_iff {source : String} {filename : Option String} {settings : Settings}
    {tokens : List Token} : tokenize source filename settings = .ok tokens ↔
      ∃ pieces, FallsInto (programText source) pieces ∧
        tokens = tokensOf (Settings.filenameOr settings.filename filename) [] pieces := by
  refine Scanner.tokens_eq_ok_iff ?_ (terminated_programText source)
  exact (Cursor.atOffset_zero _).symm

end TeenyLexer
