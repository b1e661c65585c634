import TeenyLexer.Proofs.Scanner.Decomposition
import TeenyLexer.Proofs.Source.Growth

/-! # Printing

Words are printed one behind the other with a single space between them. Scanning what has been
printed gives the words back, and every program that can be scanned has the words of such a
list, up to the newline at its end.
-/

namespace TeenyLexer

open Reading

/-- What can follow a word without becoming a part of it. -/
def Separated (rest : List Char) : Prop :=
  ∀ d ∈ rest.head?, d = ' ' ∨ d = '\n'

theorem Spells.isLongestSpelling {kind : Kind} {spelling rest : List Char}
    (h : Spells kind spelling) (hRest : Separated rest) :
    IsLongestSpelling (spelling ++ rest) kind spelling := by
  apply isLongestSpelling_append_iff.mpr
  refine ⟨h, ?_⟩
  intro d hd
  apply not_growsBy_of_separates h
  rcases hRest d hd with rfl | rfl <;> decide

theorem FallsInto.spells {text : List Char} {pieces : List Piece} (h : FallsInto text pieces)
    {piece : Piece} (hPiece : piece ∈ pieces) : Spells piece.kind piece.spelling :=
  (h.of_mem hPiece).2

namespace Word

def newline : Word :=
  ⟨.newline, "\n"⟩

/-- Some words with a single space between them. -/
def print (words : List Word) : String :=
  String.ofList (List.intercalate [' '] (words.map spelling))

def behind (gap : List Char) (w : Word) : Piece :=
  ⟨gap, w.kind, w.spelling⟩

theorem word_behind {w : Word} (h : w.IsSpelled) (gap : List Char) : (w.behind gap).word = w :=
  h.ofSpelling_spelling

/-- Some words with a space before each of them, and a newline at the end. -/
def spaced : List Word → List Char
  | [] => ['\n']
  | w :: words => ' ' :: (w.spelling ++ spaced words)

theorem separated_spaced (words : List Word) : Separated (spaced words) := by
  intro d hd
  cases words with
  | nil => exact .inr (Option.some.inj hd).symm
  | cons w words => exact .inl (Option.some.inj hd).symm

theorem programText_print_cons (w : Word) (words : List Word) :
    programText (print (w :: words)) = w.spelling ++ spaced words := by
  rw [programText, print, String.toList_ofList]
  induction words generalizing w with
  | nil => rw [List.map_singleton, List.intercalate_singleton, spaced]
  | cons w' words ih =>
    have hMore := ih w'
    rw [List.map_cons] at hMore
    rw [List.map_cons, List.map_cons, List.intercalate_cons_cons, List.append_assoc,
      List.append_assoc, hMore]
    rfl

theorem isSpelled_newline : newline.IsSpelled :=
  ⟨['\n'], .newline, rfl⟩

theorem spelling_newline : newline.spelling = ['\n'] := by
  decide

end Word

theorem Word.IsSpelled.fallsInto_cons {w : Word} (h : w.IsSpelled) {gap rest : List Char}
    (hGap : ∀ c ∈ gap, isBlank c = true) (hRest : Separated rest) {pieces : List Piece}
    (hMore : FallsInto rest pieces) :
    FallsInto (gap ++ (w.spelling ++ rest)) (w.behind gap :: pieces) :=
  fallsInto_cons_iff.mpr ⟨rest, rfl, .blanks hGap, h.spells.isLongestSpelling hRest, hMore⟩

theorem fallsInto_spaced {words : List Word} (h : ∀ w ∈ words, w.IsSpelled) :
    FallsInto (Word.spaced words) (words.map (Word.behind [' ']) ++ [Word.newline.behind []]) := by
  induction words with
  | nil =>
    have hNewline := Word.isSpelled_newline.fallsInto_cons (List.forall_mem_nil _)
      (by simp [Separated]) .nil
    simpa [Word.spelling_newline, Word.spaced] using hNewline
  | cons w words ih =>
    obtain ⟨hWord, hWords⟩ := List.forall_mem_cons.mp h
    exact hWord.fallsInto_cons (List.forall_mem_singleton.mpr rfl) (Word.separated_spaced words)
      (ih hWords)

theorem map_word_behind {words : List Word} (h : ∀ w ∈ words, w.IsSpelled) (gap : List Char) :
    (words.map (Word.behind gap)).map Piece.word = words := by
  have hWords := List.map_congr_left fun w hw => Word.word_behind (h w hw) gap
  rw [List.map_map]
  exact hWords.trans (List.map_id' words)

theorem exists_fallsInto_print {words : List Word} (h : ∀ w ∈ words, w.IsSpelled) :
    ∃ pieces, FallsInto (programText (Word.print words)) pieces ∧
      pieces.map Piece.word = words ++ [.newline] := by
  cases words with
  | nil => exact ⟨_, fallsInto_spaced h, rfl⟩
  | cons w words =>
    obtain ⟨hWord, hWords⟩ := List.forall_mem_cons.mp h
    refine ⟨w.behind [] :: (words.map (Word.behind [' ']) ++ [Word.newline.behind []]), ?_, ?_⟩
    · rw [Word.programText_print_cons]
      exact hWord.fallsInto_cons (List.forall_mem_nil _) (Word.separated_spaced words)
        (fallsInto_spaced hWords)
    · rw [List.map_cons, List.map_append, map_word_behind hWords, Word.word_behind hWord]
      rfl

theorem FallsInto.last_newline {text : List Char} {pieces : List Piece} (h : FallsInto text pieces)
    (hText : Terminated text) (hNonempty : text ≠ []) :
    ∃ before gap, pieces = before ++ [⟨gap, .newline, ['\n']⟩] := by
  induction h with
  | nil => exact absurd rfl hNonempty
  | @cons piece rest pieces _ hWord hMore ih =>
    cases hMore with
    | nil =>
      rw [List.append_nil, Piece.text] at hText
      have hLast := List.getLast?_eq_some_getLast hWord.spells.ne_nil
      rw [hText.of_append _ hLast] at hLast
      obtain ⟨hKind, hSpelling⟩ := hWord.spells.eq_newline hLast
      exact ⟨[], piece.gap, by rw [← hKind, ← hSpelling]; rfl⟩
    | @cons next rest pieces hGap hNext hMore =>
      have hRest : next.text ++ rest ≠ [] := by
        simp [Piece.text, hNext.spells.ne_nil]
      obtain ⟨before, gap, hPieces⟩ := ih hText.of_append hRest
      exact ⟨piece :: before, gap, by rw [hPieces, List.cons_append]⟩

/-- Scanning gives back what has been printed, and gives nothing but lists of words that can be
printed. -/
theorem tokenize_undoes_print (filename : Option String) (settings : Settings) :
    (∀ words : List Word, (∀ w ∈ words, w.IsSpelled) →
      ∃ tokens, tokenize (Word.print words) filename settings = .ok tokens ∧
        tokens.map Token.toWord = words ++ [.newline, .endOfInput]) ∧
    ∀ (source : String) (tokens : List Token), tokenize source filename settings = .ok tokens →
      ∃ words : List Word, (∀ w ∈ words, w.IsSpelled) ∧
        tokens.map Token.toWord = words ++ [.newline, .endOfInput] := by
  constructor
  · intro words hWords
    obtain ⟨pieces, hPieces, hMap⟩ := exists_fallsInto_print hWords
    refine ⟨_, tokenize_eq_ok_iff.mpr ⟨pieces, hPieces, rfl⟩, ?_⟩
    rw [map_toWord_tokensOf, hMap, List.append_assoc]
    rfl
  · intro source tokens hTokens
    obtain ⟨pieces, hPieces, rfl⟩ := tokenize_eq_ok_iff.mp hTokens
    have hNonempty : programText source ≠ [] := by simp [programText]
    obtain ⟨before, gap, rfl⟩ := hPieces.last_newline (terminated_programText source) hNonempty
    refine ⟨before.map Piece.word, fun w hw => ?_, ?_⟩
    · obtain ⟨piece, hPiece, rfl⟩ := List.mem_map.mp hw
      have hSpells := hPieces.spells (List.mem_append_left _ hPiece)
      exact ⟨piece.spelling, by rwa [Piece.kind_word], by rw [Piece.kind_word]; rfl⟩
    · rw [map_toWord_tokensOf, List.map_append, List.append_assoc]
      rfl

/-- Two numbers that would be scanned otherwise without the space between them, and a string
over two lines. -/
theorem tokenize_undoes_print_of_numbers :
    ∃ tokens, tokenize "1. .5 \"%\n\\\"" none {} = .ok tokens ∧
      tokens.map Token.toWord = [⟨.number, "1."⟩, ⟨.number, ".5"⟩, ⟨.string, "\\%\n\\\\"⟩,
        .newline, .endOfInput] := by
  have hWords : ∀ w ∈ [(⟨.number, "1."⟩ : Word), ⟨.number, ".5"⟩, ⟨.string, "\\%\n\\\\"⟩],
      w.IsSpelled := by
    have hDigits : ∀ c ∈ ['1', '.'], c.isDigit = true ∨ c = '.' :=
      List.forall_mem_cons.mpr ⟨.inl rfl, List.forall_mem_singleton.mpr (.inr rfl)⟩
    have hDigits' : ∀ c ∈ ['.', '5'], c.isDigit = true ∨ c = '.' :=
      List.forall_mem_cons.mpr ⟨.inr rfl, List.forall_mem_singleton.mpr (.inl rfl)⟩
    rintro w (_ | ⟨_, _ | ⟨_, _ | ⟨_, ⟨⟩⟩⟩⟩)
    · exact ⟨['1', '.'], .number (by decide) hDigits (by decide), rfl⟩
    · exact ⟨['.', '5'], .number (by decide) hDigits' (by decide), rfl⟩
    · exact ⟨'"' :: ['%', '\n', '\\'] ++ ['"'], .string (by decide), by cbv⟩
  obtain ⟨tokens, hTokens, hMap⟩ := (tokenize_undoes_print none {}).1 _ hWords
  exact ⟨tokens, hTokens, hMap⟩

end TeenyLexer
