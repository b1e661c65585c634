import Mathlib
import TeenyLexer.Proofs.Rendering.Printing
import TeenyLexer.Proofs.Rendering.Returns

/-! # The newlines of a program

A newline of a program is a word of its own, or it stands in a string. So the newline tokens count
the newlines outside of the strings, and the one that is added at the end; the lexemes of the
strings hold all others. The end of the input is on the line behind all of them.
-/

namespace TeenyLexer

/-- The number of newlines outside of the spans in a text that begins at an offset. -/
def newlinesOutside (offset : Nat) (spans : List Span) (text : List Char) : Nat :=
  (text.zipIdx offset).countP fun (c, i) => c == '\n' && !covered spans i

/-- The number of newlines in the strings among some tokens. -/
def newlinesInStrings (tokens : List Token) : Nat :=
  ((tokens.filter fun t => t.kind = .string).map fun t => t.lexeme.toList.count '\n').sum

section InStrings

variable {tokens : List Token}

theorem newlinesInStrings_cons (t : Token) (tokens : List Token) :
    newlinesInStrings (t :: tokens) =
      (if t.kind = .string then t.lexeme.toList.count '\n' else 0) + newlinesInStrings tokens := by
  by_cases hKind : t.kind = .string <;> simp [newlinesInStrings, hKind]

theorem newlinesInStrings_append (before after : List Token) :
    newlinesInStrings (before ++ after) = newlinesInStrings before + newlinesInStrings after := by
  rw [newlinesInStrings, List.filter_append, List.map_append, List.sum_append]
  rfl

theorem newlinesInStrings_flatten (runs : List (List Token)) :
    newlinesInStrings runs.flatten = (runs.map newlinesInStrings).sum := by
  induction runs with
  | nil => rfl
  | cons run runs ih =>
    rw [List.flatten_cons, newlinesInStrings_append, ih, List.map_cons, List.sum_cons]

theorem newlinesInStrings_filter {keeps : Token → Bool}
    (h : ∀ t ∈ tokens, t.kind = .string → keeps t = true) :
    newlinesInStrings (tokens.filter keeps) = newlinesInStrings tokens := by
  rw [newlinesInStrings, List.filter_filter, newlinesInStrings]
  congr 2
  apply List.filter_congr
  intro t ht
  by_cases hKind : t.kind = .string
  · rw [h t ht hKind, Bool.and_true]
  · rw [decide_eq_false hKind, Bool.false_and]

theorem newlinesInStrings_eq_zero_iff :
    newlinesInStrings tokens = 0 ↔ ∀ t ∈ tokens, t.kind = .string → '\n' ∉ t.lexeme.toList := by
  simp only [newlinesInStrings, List.sum_eq_zero_iff, List.forall_mem_map, List.mem_filter,
    decide_eq_true_eq, and_imp, List.count_eq_zero]

theorem sum_count_newline (h : ∀ t ∈ tokens, t.kind ≠ .string → '\n' ∉ t.lexeme.toList) :
    (tokens.map fun t => t.lexeme.toList.count '\n').sum = newlinesInStrings tokens := by
  induction tokens with
  | nil => rfl
  | cons t tokens ih =>
    obtain ⟨hFirst, hMore⟩ := List.forall_mem_cons.mp h
    rw [List.map_cons, List.sum_cons, ih hMore, newlinesInStrings_cons]
    split
    · rfl
    · rename_i hKind
      rw [List.count_eq_zero.mpr (hFirst hKind)]

end InStrings

theorem length_returnsOutside (offset : Nat) (spans : List Span) (text : List Char) :
    (returnsOutside offset spans text).length =
      text.length + newlinesOutside offset spans text := by
  induction text generalizing offset with
  | nil => rfl
  | cons c text ih =>
    have hFirst : (returnsOutside offset spans [c]).length =
        if c == '\n' && !covered spans offset then 2 else 1 := by
      by_cases hNewline : c = '\n' <;> cases hCovered : covered spans offset <;>
        simp [returnsOutside, hNewline, hCovered]
    rw [← List.singleton_append, returnsOutside_append, List.length_append, List.length_append,
      hFirst, List.length_singleton, ih, List.singleton_append, newlinesOutside, newlinesOutside,
      List.zipIdx_cons, List.countP_cons]
    split <;> omega

theorem length_withReturns (pieces : List Piece) :
    ((pieces.map Piece.withReturn).flatMap Piece.text).length =
      (pieces.flatMap Piece.text).length + pieces.countP (·.kind == .newline) := by
  induction pieces with
  | nil => rfl
  | cons piece pieces ih =>
    have hFirst : piece.withReturn.text.length =
        piece.text.length + if piece.kind == .newline then 1 else 0 := by
      by_cases hNewline : piece.kind = .newline
      · simp [Piece.withReturn, Piece.text, hNewline]
        omega
      · simp [Piece.withReturn, hNewline]
    rw [List.map_cons, List.flatMap_cons, List.flatMap_cons, List.length_append,
      List.length_append, hFirst, ih, List.countP_cons]
    omega

theorem Spells.count_newline {kind : Kind} {spelling : List Char} (h : Spells kind spelling) :
    spelling.count '\n' = (if kind = .newline then 1 else 0) +
      if kind = .string then (Word.ofSpelling kind spelling).lexeme.toList.count '\n' else 0 := by
  by_cases hString : kind = .string
  · subst hString
    cases h with
    | @string body _ =>
      rw [if_neg (by decide), if_pos rfl, Word.ofSpelling_string, String.toList_ofList,
        Escape.count_encode (by decide)]
      simp
  · by_cases hNewline : kind = .newline
    · subst hNewline
      rw [h.of_newline]
      rfl
    · rw [List.count_eq_zero.mpr (h.newline_not_mem hNewline hString), if_neg hNewline,
        if_neg hString]

theorem FallsInto.count_newline {text : List Char} {pieces : List Piece} (h : FallsInto text pieces)
    (filename : String) (passed : List Char) :
    text.count '\n' = pieces.countP (·.kind == .newline) +
      newlinesInStrings (tokensOf filename passed pieces) := by
  induction pieces generalizing text passed with
  | nil =>
    rw [fallsInto_nil_iff.mp h]
    rfl
  | cons piece pieces ih =>
    obtain ⟨rest, rfl, hGap, hWord, hMore⟩ := fallsInto_cons_iff.mp h
    rw [List.count_append, List.count_append,
      List.count_eq_zero.mpr (newline_not_mem_of_isGap hGap), hWord.spells.count_newline,
      ih hMore (passed ++ piece.text), tokensOf_cons, newlinesInStrings_cons, List.countP_cons,
      Piece.kind_word, Piece.word]
    simp only [beq_iff_eq]
    omega

theorem countP_kind_tokensOf (kind : Kind) (filename : String) (passed : List Char)
    (pieces : List Piece) : (tokensOf filename passed pieces).countP (·.kind == kind) =
      pieces.countP (·.kind == kind) + if kind = .endOfInput then 1 else 0 := by
  have hWords := congrArg (List.countP fun w => w.kind == kind)
    (map_toWord_tokensOf filename passed pieces)
  rw [List.countP_map, List.countP_append, List.countP_map, List.countP_singleton] at hWords
  simp only [Function.comp_def, Piece.kind_word, Word.endOfInput, beq_iff_eq] at hWords
  rw [hWords]
  simp only [eq_comm]

variable {source : String} {filename : Option String} {settings : Settings} {tokens : List Token}

theorem countP_newline_of_tokenize (h : tokenize source filename settings = .ok tokens) :
    tokens.countP (·.kind == .newline) =
      newlinesOutside 0 (stringSpans (programText source) tokens) source.toList + 1 := by
  obtain ⟨pieces, hPieces, rfl⟩ := tokenize_eq_ok_iff.mp h
  have hNonempty : programText source ≠ [] := by simp [programText]
  obtain ⟨before, gap, rfl⟩ := hPieces.last_newline (terminated_programText source) hNonempty
  have hLength : source.length = (before.flatMap Piece.text).length + gap.length := by
    have hText := congrArg List.length hPieces.eq_flatMap
    simp only [length_programText, List.flatMap_append, List.flatMap_singleton, Piece.text,
      List.length_append, List.length_singleton] at hText
    omega
  have hReturns := congrArg List.length
    (returnsOutside_source hPieces (Settings.filenameOr settings.filename filename))
  rw [length_returnsOutside, String.length_toList, List.length_append, length_withReturns]
    at hReturns
  rw [countP_kind_tokensOf, if_neg (by decide), List.countP_append, List.countP_singleton,
    if_pos (beq_self_eq_true _)]
  omega

theorem count_newline_of_tokenize (h : tokenize source filename settings = .ok tokens) :
    source.toList.count '\n' =
      newlinesOutside 0 (stringSpans (programText source) tokens) source.toList +
        newlinesInStrings tokens := by
  have hTokens := countP_newline_of_tokenize h
  obtain ⟨pieces, hPieces, rfl⟩ := tokenize_eq_ok_iff.mp h
  rw [countP_kind_tokensOf, if_neg (by decide)] at hTokens
  have hText := hPieces.count_newline (Settings.filenameOr settings.filename filename) []
  rw [programText, List.count_append, List.count_singleton_self] at hText
  omega

/-- Of the tokens of a program that are no newlines, only the strings hold any. -/
theorem newline_not_mem_lexeme (h : tokenize source filename settings = .ok tokens) {t : Token}
    (ht : t ∈ tokens) (hNewline : t.kind ≠ .newline) (hString : t.kind ≠ .string) :
    '\n' ∉ t.lexeme.toList := by
  obtain ⟨pieces, hPieces, rfl⟩ := tokenize_eq_ok_iff.mp h
  have hWord : t.toWord ∈ pieces.map Piece.word ++ [.endOfInput] := by
    rw [← map_toWord_tokensOf]
    exact List.mem_map_of_mem ht
  rcases List.mem_append.mp hWord with hPiece | hEnd
  · obtain ⟨piece, hMem, hWord⟩ := List.mem_map.mp hPiece
    rw [← hWord, Piece.kind_word] at hNewline hString
    rw [← hWord, Piece.word, Word.lexeme_of_ne_string hString, String.toList_ofList]
    exact (hPieces.of_mem hMem).2.newline_not_mem hNewline hString
  · rw [List.mem_singleton.mp hEnd]
    decide

theorem exists_end_of_tokenize (h : tokenize source filename settings = .ok tokens) :
    ∃ (before : List Token) (last : Token), tokens = before ++ [last] ∧
      last.toWord = .endOfInput ∧ last.location.line = source.toList.count '\n' + 2 := by
  obtain ⟨pieces, hPieces, rfl⟩ := tokenize_eq_ok_iff.mp h
  refine ⟨_, _, rfl, rfl, ?_⟩
  rw [endToken, List.nil_append, ← hPieces.eq_flatMap, programText, Place.location, Place.line,
    List.count_append, List.count_singleton_self]
  rfl

end TeenyLexer
