import TeenyLexer.Source.Grammar
import Mathlib.Logic.Basic

/-! # Words by their first character

The first character of a spelling settles to which family of words it belongs and what may
follow it. The families are disjoint, so the kind of a word is a function of its spelling.
How far a word reaches at the start of a given text is left to the longest spellings.
-/

namespace TeenyLexer

namespace Keyword

theorem ofText?_eq_some_iff {text : String} {k : Keyword} :
    ofText? text = some k ↔ k.text = text := by
  constructor
  · intro h
    simpa using List.find?_some h
  · rintro rfl
    cases k <;> decide

end Keyword

theorem Operator.ofText?_eq_some_iff {text : String} {o : Operator} :
    ofText? text = some o ↔ o.text = text := by
  constructor
  · intro h
    simpa using List.find?_some h
  · rintro rfl
    cases o <;> decide

namespace Reading

theorem kindOfName_eq_keyword_iff {name : List Char} {k : Keyword} :
    kindOfName name = .keyword k ↔ k.text.toList = name := by
  have hText : k.text.toList = name ↔ k.text = String.ofList name := by
    constructor
    · rintro rfl
      rw [String.ofList_toList]
    · intro h
      rw [h, String.toList_ofList]
  rw [hText, ← Keyword.ofText?_eq_some_iff, kindOfName]
  split <;> simp_all

theorem kindOfName_eq_identifier_iff {name : List Char} :
    kindOfName name = .identifier ↔ ∀ k : Keyword, k.text.toList ≠ name := by
  constructor
  · intro h k hk
    rw [← kindOfName_eq_keyword_iff, h] at hk
    cases hk
  · intro h
    cases hk : kindOfName name with
    | keyword k => exact absurd (kindOfName_eq_keyword_iff.mp hk) (h k)
    | identifier => rfl
    | _ => unfold kindOfName at hk; split at hk <;> cases hk

theorem of_single?_eq_some {c : Char} {kind : Kind} (h : single? c = some kind) :
    joinable? c = none ∧ c ≠ '!' ∧ c ≠ '"' ∧ isNumberStart c = false ∧
      isIdentifierStart c = false := by
  unfold single? at h
  split at h <;> first | decide | cases h

theorem of_joinable?_eq_some {c : Char} {pair : Operator × Operator}
    (h : joinable? c = some pair) :
    single? c = none ∧ c ≠ '!' ∧ c ≠ '"' ∧ isNumberStart c = false ∧
      isIdentifierStart c = false := by
  unfold joinable? at h
  split at h <;> first | decide | cases h

theorem special_of_wordStart {c : Char} (h : isNumberStart c = true ∨ isIdentifierStart c = true) :
    single? c = none ∧ joinable? c = none ∧ c ≠ '!' ∧ c ≠ '"' := by
  refine ⟨?_, ?_, ?_, ?_⟩
  · cases hc : single? c with
    | none => rfl
    | some kind => simp [of_single?_eq_some hc] at h
  · cases hc : joinable? c with
    | none => rfl
    | some pair => simp [of_joinable?_eq_some hc] at h
  · rintro rfl
    revert h
    decide
  · rintro rfl
    revert h
    decide

theorem isAlpha_of_isDigit {c : Char} (h : c.isDigit = true) : c.isAlpha = false := by
  have hTo : c.val ≤ '9'.val := of_decide_eq_true (Bool.and_eq_true_iff.mp h).2
  have hUpper : c.isUpper = false :=
    decide_eq_false fun hUpper => absurd (UInt32.le_trans hUpper.1 hTo) (by decide)
  have hLower : c.isLower = false := by
    refine Bool.and_eq_false_iff.mpr (.inl (decide_eq_false fun hLower => ?_))
    exact absurd (UInt32.le_trans hLower hTo) (by decide)
  exact Bool.or_eq_false_iff.mpr ⟨hUpper, hLower⟩

theorem isIdentifierStart_of_isNumberStart {c : Char} (h : isNumberStart c = true) :
    isIdentifierStart c = false := by
  simp only [isNumberStart, Bool.or_eq_true, beq_iff_eq] at h
  rcases h with hDigit | rfl
  · have hUnderscore : c ≠ '_' := by
      rintro rfl
      revert hDigit
      decide
    simp [isIdentifierStart, isAlpha_of_isDigit hDigit, hUnderscore]
  · decide

structure StartsNothing (c : Char) : Prop where
  single : single? c = none
  joinable : joinable? c = none
  exclamation : c ≠ '!'
  quote : c ≠ '"'
  number : isNumberStart c = false
  identifier : isIdentifierStart c = false

theorem start_cases (c : Char) :
    (∃ kind, single? c = some kind) ∨ (∃ alone joined, joinable? c = some (alone, joined)) ∨
      c = '!' ∨ c = '"' ∨ isNumberStart c = true ∨ isIdentifierStart c = true ∨
      StartsNothing c := by
  cases hSingle : single? c with
  | some kind => exact .inl ⟨kind, rfl⟩
  | none =>
    cases hJoinable : joinable? c with
    | some pair => exact .inr (.inl ⟨pair.1, pair.2, rfl⟩)
    | none =>
      by_cases hExclamation : c = '!'
      · simp [hExclamation]
      by_cases hQuote : c = '"'
      · simp [hQuote]
      cases hNumber : isNumberStart c with
      | true => simp
      | false =>
        cases hIdentifier : isIdentifierStart c with
        | true => simp
        | false =>
          have hStarts : StartsNothing c :=
            ⟨hSingle, hJoinable, hExclamation, hQuote, hNumber, hIdentifier⟩
          simp [hStarts]

end Reading

open Reading

/-- What may follow the first character of a word, family by family. -/
inductive SpellsFrom (c : Char) : Kind → List Char → Prop
  | single {kind : Kind} (start : single? c = some kind) : SpellsFrom c kind []
  | alone {o joined : Operator} (start : joinable? c = some (o, joined)) :
      SpellsFrom c (.operator o) []
  | joined {alone o : Operator} (start : joinable? c = some (alone, o)) :
      SpellsFrom c (.operator o) ['=']
  | notEquals (start : c = '!') : SpellsFrom c (.operator .notEquals) ['=']
  | string {body : List Char} (start : c = '"') (open_body : '"' ∉ body) :
      SpellsFrom c .string (body ++ ['"'])
  | number {more : List Char} (start : isNumberStart c = true)
      (digits : ∀ x ∈ more, isNumberStart x = true) (one_point : (c :: more).count '.' ≤ 1) :
      SpellsFrom c .number more
  | name {more : List Char} (start : isIdentifierStart c = true)
      (tail : ∀ x ∈ more, Text.isAlphanumeric x = true) :
      SpellsFrom c (kindOfName (c :: more)) more

theorem spellsFrom_of_operator {o : Operator} {c : Char} {more : List Char}
    (h : o.text.toList = c :: more) : SpellsFrom c (.operator o) more := by
  cases o <;> cases h
  case assign => exact .alone rfl
  case plus | minus | asterisk | slash => exact .single rfl
  case equals => exact .joined rfl
  case notEquals => exact .notEquals rfl
  case less => exact .alone rfl
  case lessEquals => exact .joined rfl
  case greater => exact .alone rfl
  case greaterEquals => exact .joined rfl

theorem spellsFrom_of_keyword {k : Keyword} {c : Char} {more : List Char}
    (h : k.text.toList = c :: more) : SpellsFrom c (.keyword k) more := by
  have hName : isIdentifierStart c = true ∧ more.all Text.isAlphanumeric = true := by
    cases k <;> cases h <;> decide
  rw [← kindOfName_eq_keyword_iff.mpr h]
  exact .name hName.1 (List.all_eq_true.mp hName.2)

theorem spells_of_single {c : Char} {kind : Kind} (h : single? c = some kind) :
    Spells kind [c] := by
  unfold single? at h
  split at h <;> cases h
  · exact .newline
  · exact .operator .plus
  · exact .operator .minus
  · exact .operator .asterisk
  · exact .operator .slash

theorem spells_of_joinable {c : Char} {alone joined : Operator}
    (h : joinable? c = some (alone, joined)) :
    Spells (.operator alone) [c] ∧ Spells (.operator joined) [c, '='] := by
  unfold joinable? at h
  split at h <;> cases h
  · exact ⟨.operator .assign, .operator .equals⟩
  · exact ⟨.operator .less, .operator .lessEquals⟩
  · exact ⟨.operator .greater, .operator .greaterEquals⟩

theorem spells_of_name {c : Char} {more : List Char} (hStart : isIdentifierStart c = true)
    (hTail : ∀ x ∈ more, Text.isAlphanumeric x = true) :
    Spells (kindOfName (c :: more)) (c :: more) := by
  have hStart' : c.isAlpha = true ∨ c = '_' := by simpa [isIdentifierStart] using hStart
  by_cases hFree : ∀ k : Keyword, k.text.toList ≠ c :: more
  · rw [kindOfName_eq_identifier_iff.mpr hFree]
    exact .identifier hStart' hTail hFree
  · obtain ⟨k, hk⟩ := not_forall.mp hFree
    rw [kindOfName_eq_keyword_iff.mpr (not_not.mp hk), ← not_not.mp hk]
    exact .keyword k

/-- The grammar of words, read from the first character on. -/
theorem spells_cons_iff {c : Char} {kind : Kind} {more : List Char} :
    Spells kind (c :: more) ↔ SpellsFrom c kind more := by
  constructor
  · intro h
    generalize hText : c :: more = text at h
    cases h with
    | newline => cases hText; exact .single rfl
    | operator o => exact spellsFrom_of_operator hText.symm
    | keyword k => exact spellsFrom_of_keyword hText.symm
    | string hBody => cases hText; exact .string rfl hBody
    | number _ hDigits hPoint =>
      subst hText
      have hClass : ∀ x ∈ c :: more, isNumberStart x = true := fun x hx => by
        simpa [isNumberStart] using hDigits x hx
      exact .number (hClass c List.mem_cons_self)
        (fun x hx => hClass x (List.mem_cons_of_mem c hx)) hPoint
    | identifier hStart hTail hFree =>
      cases hText
      rw [← kindOfName_eq_identifier_iff.mpr hFree]
      exact .name (by simpa [isIdentifierStart] using hStart) hTail
  · intro h
    cases h with
    | single hStart => exact spells_of_single hStart
    | alone hStart => exact (spells_of_joinable hStart).1
    | joined hStart => exact (spells_of_joinable hStart).2
    | notEquals hStart => subst hStart; exact .operator .notEquals
    | string hStart hBody => subst hStart; exact .string hBody
    | number hStart hDigits hPoint =>
      refine .number (List.cons_ne_nil c more) ?_ hPoint
      intro x hx
      rcases List.mem_cons.mp hx with rfl | hx
      · simpa [isNumberStart] using hStart
      · simpa [isNumberStart] using hDigits x hx
    | name hStart hTail => exact spells_of_name hStart hTail

theorem Spells.ne_nil {kind : Kind} {spelling : List Char} (h : Spells kind spelling) :
    spelling ≠ [] := by
  cases h with
  | operator o => cases o <;> decide
  | keyword k => cases k <;> decide
  | number hNonempty => exact hNonempty
  | _ => simp

theorem Spells.kind_ne_endOfInput {kind : Kind} {spelling : List Char} (h : Spells kind spelling) :
    kind ≠ .endOfInput := by
  cases h <;> exact Kind.noConfusion

end TeenyLexer
