import Mathlib
import TeenyLexer.Proofs.Scanner.Cutting

/-! # Runs of number characters

A number takes the digits that follow, and one point. So a program of digits and points is cut
before every point that is not its first, and all its words are numbers.
-/

namespace TeenyLexer

open Reading

/-- Whether a character is a point that is not the first one. -/
def isLaterPoint (before : List Char) (c : Char) : Bool :=
  c == '.' && before.contains '.'

theorem isLaterPoint_eq_true_iff {before : List Char} {c : Char} :
    isLaterPoint before c = true ↔ c = '.' ∧ '.' ∈ before := by
  simp [isLaterPoint]

example : cutWhere isLaterPoint ['1', '.', '.', '2', '.'] = [['1', '.'], ['.', '2'], ['.']] := by
  decide

theorem length_cutFrom_isLaterPoint (before piece rest : List Char) :
    (cutFrom isLaterPoint before piece rest).length =
      1 + (rest.count '.' - if '.' ∈ before then 0 else 1) := by
  induction rest generalizing before piece with
  | nil => simp [cutFrom]
  | cons c rest ih =>
    cases hCut : isLaterPoint before c with
    | true =>
      obtain ⟨rfl, hBefore⟩ := isLaterPoint_eq_true_iff.mp hCut
      have hPassed : '.' ∈ before ++ ['.'] := List.mem_concat_self
      rw [cutFrom_cons_of_cuts hCut, List.length_cons, ih, if_pos hPassed, if_pos hBefore,
        List.count_cons_self]
      omega
    | false =>
      rw [cutFrom_cons_of_not_cuts hCut, ih]
      by_cases hc : c = '.'
      · subst hc
        have hBefore : '.' ∉ before := fun h =>
          Bool.eq_false_iff.mp hCut (isLaterPoint_eq_true_iff.mpr ⟨rfl, h⟩)
        have hPassed : '.' ∈ before ++ ['.'] := List.mem_concat_self
        rw [if_pos hPassed, if_neg hBefore, List.count_cons_self]
        omega
      · have hPassed : '.' ∈ before ++ [c] ↔ '.' ∈ before := by simp [Ne.symm hc]
        rw [List.count_cons_of_ne hc]
        simp only [hPassed]

theorem length_cutWhere_isLaterPoint {text : List Char} (h : text ≠ []) :
    (cutWhere isLaterPoint text).length = max 1 (text.count '.') := by
  obtain ⟨c, rest, rfl⟩ := List.exists_cons_of_ne_nil h
  rw [cutWhere, length_cutFrom_isLaterPoint]
  by_cases hc : c = '.'
  · subst hc
    rw [if_pos (List.mem_singleton_self _), List.count_cons_self]
    omega
  · have hFirst : '.' ∉ [c] := by simpa using Ne.symm hc
    rw [if_neg hFirst, List.count_cons_of_ne hc]
    omega

/-- The digits and points that have been passed since the last cut. The point among them is there
as soon as any has been passed. -/
structure OnNumeral (before piece : List Char) : Prop where
  nonempty : piece ≠ []
  characters : ∀ x ∈ piece, isNumberStart x = true
  points : piece.count '.' ≤ 1
  pointed : '.' ∈ piece ↔ '.' ∈ before

namespace OnNumeral

variable {before piece : List Char} {c : Char}

theorem start (h : isNumberStart c = true) : OnNumeral [c] [c] where
  nonempty := List.cons_ne_nil c []
  characters := by simpa using h
  points := List.count_le_length
  pointed := Iff.rfl

theorem spells (h : OnNumeral before piece) : Spells .number piece := by
  refine .number h.nonempty ?_ h.points
  intro x hx
  simpa [isNumberStart] using h.characters x hx

theorem goOn (h : OnNumeral before piece) (hc : isNumberStart c = true)
    (hCut : isLaterPoint before c = false) : OnNumeral (before ++ [c]) (piece ++ [c]) where
  nonempty := by simp
  characters := by
    intro x hx
    rcases List.mem_append.mp hx with hx | hx
    · exact h.characters x hx
    · rwa [List.mem_singleton.mp hx]
  points := by
    rw [List.count_append]
    by_cases hPoint : c = '.'
    · subst hPoint
      have hBefore : '.' ∉ before := fun hBefore =>
        Bool.eq_false_iff.mp hCut (isLaterPoint_eq_true_iff.mpr ⟨rfl, hBefore⟩)
      rw [List.count_eq_zero.mpr (mt h.pointed.mp hBefore)]
      decide
    · have hOther : [c].count '.' = 0 := List.count_eq_zero.mpr (by simpa using Ne.symm hPoint)
      rw [hOther]
      exact h.points
  pointed := by
    simp only [List.mem_append, h.pointed]

theorem not_growsBy (h : OnNumeral before piece) (hCut : isLaterPoint before c = true) :
    ¬GrowsBy piece c := by
  obtain ⟨rfl, hBefore⟩ := isLaterPoint_eq_true_iff.mp hCut
  have hPoint : 0 < piece.count '.' := List.count_pos_iff.mpr (h.pointed.mpr hBefore)
  obtain ⟨first, more, rfl⟩ := List.exists_cons_of_ne_nil h.nonempty
  intro hGrows
  obtain ⟨kind, hGrown⟩ := growsBy_cons_iff.mp hGrows
  obtain ⟨-, -, hPoints⟩ := hGrown.of_isNumberStart (h.characters first List.mem_cons_self)
  rw [← List.cons_append, List.count_append, List.count_singleton_self] at hPoints
  omega

theorem restart (hc : isNumberStart c = true) (hCut : isLaterPoint before c = true) :
    OnNumeral (before ++ [c]) [c] where
  nonempty := List.cons_ne_nil c []
  characters := by simpa using hc
  points := List.count_le_length
  pointed := by
    obtain ⟨rfl, hBefore⟩ := isLaterPoint_eq_true_iff.mp hCut
    simp [hBefore]

end OnNumeral

theorem cutsIntoWords_isLaterPoint :
    CutsIntoWords isLaterPoint (fun _ => .number) (fun c => isNumberStart c = true) OnNumeral where
  plain _ := ⟨Kind.noConfusion, Kind.noConfusion⟩
  spells := OnNumeral.spells
  goesOn := OnNumeral.goOn
  stops h _ hCut := h.not_growsBy hCut
  starts _ hc hCut := OnNumeral.restart hc hCut

/-- Every program of digits and points is scanned into numbers, as many as there are points in it,
but at least one. -/
theorem tokenize_digits_and_points (source : String) (filename : Option String)
    (settings : Settings) (hNonempty : source ≠ "")
    (hCharacters : ∀ c ∈ source.toList, c.isDigit = true ∨ c = '.') :
    ∃ numbers tokens, tokenize source filename settings = .ok tokens ∧
      FillsLine source (Settings.filenameOr settings.filename filename) numbers tokens ∧
      numbers.map Token.toWord = (cutWhere isLaterPoint source.toList).map (fun piece =>
        ⟨.number, String.ofList piece⟩) ∧
      numbers.length = max 1 (source.toList.count '.') := by
  have hText : source.toList ≠ [] := mt String.toList_eq_nil_iff.mp hNonempty
  obtain ⟨c, rest, hSource⟩ := List.exists_cons_of_ne_nil hText
  have hStarts : ∀ x ∈ c :: rest, isNumberStart x = true := by
    intro x hx
    simpa [isNumberStart] using hCharacters x (hSource ▸ hx)
  obtain ⟨hFirst, hRest⟩ := List.forall_mem_cons.mp hStarts
  obtain ⟨numbers, tokens, hTokens, hLine, hWords⟩ :=
    cutsIntoWords_isLaterPoint.exists_tokens hSource (.start hFirst) hRest filename settings
  refine ⟨numbers, tokens, hTokens, hLine, hWords, ?_⟩
  have hLength := congrArg List.length hWords
  rw [List.length_map, List.length_map, length_cutWhere_isLaterPoint hText] at hLength
  exact hLength

/-- Three points, of which the first ends a number, the second begins one and the third is one. -/
theorem tokenize_digits_and_points_of_three_points :
    ∃ numbers tokens, tokenize "1..2." none {} = .ok tokens ∧
      FillsLine "1..2." "<input>" numbers tokens ∧
      numbers.map Token.toWord = [⟨.number, "1."⟩, ⟨.number, ".2"⟩, ⟨.number, "."⟩] ∧
      numbers.length = 3 :=
  tokenize_digits_and_points "1..2." none {} (by decide) (by simp)

end TeenyLexer
