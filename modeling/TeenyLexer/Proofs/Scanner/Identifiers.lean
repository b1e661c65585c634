import Mathlib
import TeenyLexer.Proofs.Scanner.Cutting

/-! # Runs of name characters

A name begins with a letter of the Latin alphabet or an underscore and takes letters and numerals of
any script after it, but no underscore. So a program of such characters is cut before every
underscore, and only its first word can be a keyword.
-/

namespace TeenyLexer

open Reading

/-- Whether a character is an underscore, which begins a word wherever it stands. -/
def isUnderscore (_before : List Char) (c : Char) : Bool :=
  c == '_'

theorem isUnderscore_eq_true_iff {before : List Char} {c : Char} :
    isUnderscore before c = true ↔ c = '_' :=
  beq_iff_eq

example : cutWhere isUnderscore ['_', 'a', '_', '_', 'b'] = [['_', 'a'], ['_'], ['_', 'b']] := by
  decide

/-- What has been passed since the last cut is a name, whatever has been passed before. -/
def OnName (_before piece : List Char) : Prop :=
  ∃ first more, piece = first :: more ∧ isIdentifierStart first = true ∧
    ∀ x ∈ more, Text.isAlphanumeric x = true

namespace OnName

variable {before piece : List Char} {c : Char}

theorem start (h : isIdentifierStart c = true) (before : List Char) : OnName before [c] :=
  ⟨c, [], rfl, h, List.forall_mem_nil _⟩

theorem spells (h : OnName before piece) : Spells (kindOfName piece) piece := by
  obtain ⟨first, more, rfl, hStart, hTail⟩ := h
  exact spells_of_name hStart hTail

theorem goOn (h : OnName before piece) (hc : Text.isAlphanumeric c = true ∨ c = '_')
    (hCut : isUnderscore before c = false) : OnName (before ++ [c]) (piece ++ [c]) := by
  obtain ⟨first, more, rfl, hStart, hTail⟩ := h
  have hOther : c ≠ '_' := mt isUnderscore_eq_true_iff.mpr (Bool.eq_false_iff.mp hCut)
  refine ⟨first, more ++ [c], rfl, hStart, ?_⟩
  intro x hx
  rcases List.mem_append.mp hx with hx | hx
  · exact hTail x hx
  · rw [List.mem_singleton.mp hx]
    exact hc.resolve_right hOther

theorem not_growsBy (h : OnName before piece) (hCut : isUnderscore before c = true) :
    ¬GrowsBy piece c := by
  obtain ⟨first, more, rfl, hStart, -⟩ := h
  obtain rfl := isUnderscore_eq_true_iff.mp hCut
  intro hGrows
  obtain ⟨kind, hGrown⟩ := growsBy_cons_iff.mp hGrows
  have hInside := (hGrown.of_isIdentifierStart hStart).2 '_' List.mem_concat_self
  exact absurd hInside (by decide)

end OnName

theorem kindOfName_plain (name : List Char) :
    kindOfName name ≠ .newline ∧ kindOfName name ≠ .string := by
  rw [kindOfName]
  split <;> exact ⟨Kind.noConfusion, Kind.noConfusion⟩

theorem cutsIntoWords_isUnderscore :
    CutsIntoWords isUnderscore kindOfName (fun c => Text.isAlphanumeric c = true ∨ c = '_')
      OnName where
  plain := kindOfName_plain
  spells := OnName.spells
  goesOn := OnName.goOn
  stops h _ hCut := h.not_growsBy hCut
  starts _ _ hCut := by
    obtain rfl := isUnderscore_eq_true_iff.mp hCut
    exact .start (by decide) _

/-- No keyword is spelled with an underscore. -/
theorem kindOfName_of_underscore_mem {name : List Char} (h : '_' ∈ name) :
    kindOfName name = .identifier := by
  apply kindOfName_eq_identifier_iff.mpr
  rintro k rfl
  revert h
  cases k <;> decide

/-- A token for a name: a keyword if it is spelled like one, and an identifier otherwise, as it is
with an underscore. -/
structure Token.IsName (t : Token) : Prop where
  underscore : '_' ∈ t.lexeme.toList → t.kind = .identifier
  keyword : ∀ k : Keyword, t.lexeme = k.text → t.kind = .keyword k
  identifier : (∀ k : Keyword, t.lexeme ≠ k.text) → t.kind = .identifier

theorem Token.isName_of_toWord {t : Token} {name : List Char}
    (h : t.toWord = ⟨kindOfName name, String.ofList name⟩) : t.IsName := by
  have hKind : t.kind = kindOfName name := congrArg Word.kind h
  have hLexeme : t.lexeme.toList = name := by
    rw [h, String.toList_ofList]
  rw [← hLexeme] at hKind
  refine ⟨?_, ?_, ?_⟩
  · intro hUnderscore
    rw [hKind, kindOfName_of_underscore_mem hUnderscore]
  · intro k hText
    rw [hKind, hText]
    exact kindOfName_eq_keyword_iff.mpr rfl
  · intro hFree
    rw [hKind, kindOfName_eq_identifier_iff]
    intro k hText
    exact hFree k (String.toList_inj.mp hText.symm)

/-- Every program of letters, numerals and underscores that begins like a name is scanned into
names, cut before every underscore but one at its first place. -/
theorem tokenize_name_characters (source : String) (filename : Option String) (settings : Settings)
    (hStart : ∃ c ∈ source.toList.head?, c.isAlpha = true ∨ c = '_')
    (hCharacters : ∀ c ∈ source.toList, Text.isAlphanumeric c = true ∨ c = '_') :
    ∃ names tokens, tokenize source filename settings = .ok tokens ∧
      FillsLine source (Settings.filenameOr settings.filename filename) names tokens ∧
      (names.map fun t => t.lexeme) = (cutWhere isUnderscore source.toList).map String.ofList ∧
      ∀ t ∈ names, t.IsName := by
  obtain ⟨c, hc, hName⟩ := hStart
  obtain ⟨rest, hSource⟩ := List.head?_eq_some_iff.mp hc
  have hFirst : isIdentifierStart c = true := by simpa [isIdentifierStart] using hName
  have hRest : ∀ x ∈ rest, Text.isAlphanumeric x = true ∨ x = '_' := by
    intro x hx
    exact hCharacters x (hSource ▸ List.mem_cons_of_mem c hx)
  obtain ⟨names, tokens, hTokens, hLine, hWords⟩ :=
    cutsIntoWords_isUnderscore.exists_tokens hSource (OnName.start hFirst [c]) hRest filename
      settings
  refine ⟨names, tokens, hTokens, hLine, ?_, ?_⟩
  · have hLexemes := congrArg (List.map Word.lexeme) hWords
    rw [List.map_map, List.map_map] at hLexemes
    exact hLexemes
  · intro t ht
    have hMem : t.toWord ∈ names.map Token.toWord := List.mem_map_of_mem ht
    rw [hWords] at hMem
    obtain ⟨name, -, hWord⟩ := List.mem_map.mp hMem
    exact Token.isName_of_toWord hWord.symm

/-- A keyword is cut off by the underscore, and a letter of another script is not. -/
theorem tokenize_name_characters_of_keyword :
    ∃ names tokens, tokenize "PRINT_é_IF" none {} = .ok tokens ∧
      FillsLine "PRINT_é_IF" "<input>" names tokens ∧
      (names.map fun t => t.lexeme) = ["PRINT", "_é", "_IF"] ∧
      ∀ t ∈ names, t.IsName := by
  have hAll : "PRINT_é_IF".toList.all (fun c => Text.isAlphanumeric c || c == '_') = true := by
    decide
  have hCharacters : ∀ c ∈ "PRINT_é_IF".toList, Text.isAlphanumeric c = true ∨ c = '_' := by
    simpa only [List.all_eq_true, Bool.or_eq_true, beq_iff_eq] using hAll
  exact tokenize_name_characters "PRINT_é_IF" none {} ⟨'P', rfl, by decide⟩ hCharacters

end TeenyLexer
