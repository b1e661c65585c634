import TeenyLexer.Proofs.Source.Spelling
import Mathlib.Data.List.TakeWhile

/-! # Longest spellings

Reading takes the longest word at the start of a text, and finds a word whenever some start of
the text spells one. A text therefore has at most one longest spelling, of one kind.
-/

namespace TeenyLexer

theorem prefix_takeWhile {α : Type} {p : α → Bool} {run text : List α} (hPrefix : run <+: text)
    (hRun : ∀ x ∈ run, p x = true) : run <+: text.takeWhile p := by
  obtain ⟨rest, rfl⟩ := hPrefix
  rw [List.takeWhile_append_of_pos hRun]
  exact List.prefix_append run _

namespace Reading

theorem numeral_cons_of_isDigit {c : Char} {rest : List Char} (h : c.isDigit = true) :
    numeral (c :: rest) = c :: numeral rest := by
  simp [numeral, h]

theorem numeral_point (rest : List Char) :
    numeral ('.' :: rest) = '.' :: rest.takeWhile Char.isDigit := by
  have hPoint : Char.isDigit '.' = false := by decide
  simp [numeral, hPoint]

theorem numeral_of_not_isNumberStart {c : Char} {rest : List Char} (h : isNumberStart c = false) :
    numeral (c :: rest) = [] := by
  obtain ⟨hDigit, hPoint⟩ : c.isDigit = false ∧ c ≠ '.' := by simpa [isNumberStart] using h
  simp [numeral, hDigit, hPoint]

theorem numeral_spec (text : List Char) : numeral text <+: text ∧
    (∀ x ∈ numeral text, isNumberStart x = true) ∧ (numeral text).count '.' ≤ 1 := by
  induction text with
  | nil => simp [numeral]
  | cons c rest ih =>
    obtain ⟨hPrefix, hDigits, hPoint⟩ := ih
    by_cases hDigit : c.isDigit = true
    · have hc : c ≠ '.' := by
        rintro rfl
        revert hDigit
        decide
      rw [numeral_cons_of_isDigit hDigit]
      refine ⟨List.cons_prefix_cons.mpr ⟨rfl, hPrefix⟩, ?_, by rwa [List.count_cons_of_ne hc]⟩
      intro x hx
      rcases List.mem_cons.mp hx with rfl | hx
      · simp [isNumberStart, hDigit]
      · exact hDigits x hx
    · by_cases hc : c = '.'
      · subst hc
        have hRun : ∀ x ∈ rest.takeWhile Char.isDigit, x.isDigit = true :=
          fun x hx => List.mem_takeWhile_imp hx
        have hNoPoint : '.' ∉ rest.takeWhile Char.isDigit := fun h => by
          have := hRun '.' h
          revert this
          decide
        rw [numeral_point]
        refine ⟨List.cons_prefix_cons.mpr ⟨rfl, List.takeWhile_prefix _⟩, ?_, ?_⟩
        · intro x hx
          rcases List.mem_cons.mp hx with rfl | hx
          · decide
          · simp [isNumberStart, hRun x hx]
        · rw [List.count_cons_self, List.count_eq_zero.mpr hNoPoint]
      · rw [numeral_of_not_isNumberStart (by simp [isNumberStart, hDigit, hc])]
        simp

theorem prefix_numeral {word text : List Char} (hPrefix : word <+: text)
    (hDigits : ∀ x ∈ word, isNumberStart x = true) (hPoint : word.count '.' ≤ 1) :
    word <+: numeral text := by
  induction word generalizing text with
  | nil => exact List.nil_prefix
  | cons c word ih =>
    obtain ⟨rest, rfl⟩ := hPrefix
    have hWord : ∀ x ∈ word, isNumberStart x = true := fun x hx =>
      hDigits x (List.mem_cons_of_mem c hx)
    rw [List.cons_append]
    by_cases hDigit : c.isDigit = true
    · rw [numeral_cons_of_isDigit hDigit, List.cons_prefix_cons]
      exact ⟨rfl, ih (List.prefix_append word rest) hWord
        (le_trans (List.count_le_count_cons) hPoint)⟩
    · have hc : c = '.' := by simpa [isNumberStart, hDigit] using hDigits c List.mem_cons_self
      subst hc
      have hNoPoint : '.' ∉ word := by
        rw [List.count_cons_self] at hPoint
        exact List.count_eq_zero.mp (by omega)
      rw [numeral_point, List.cons_prefix_cons]
      refine ⟨rfl, prefix_takeWhile (List.prefix_append word rest) fun x hx => ?_⟩
      have hx' : x ≠ '.' := fun h => hNoPoint (h ▸ hx)
      simpa [isNumberStart, hx'] using hWord x hx

theorem ofText_of_single {c : Char} {kind : Kind} (h : single? c = some kind) (rest : List Char) :
    ofText (c :: rest) = .word kind [c] := by
  simp [ofText, h]

theorem ofText_of_joinable {c : Char} {alone joined : Operator}
    (h : joinable? c = some (alone, joined)) (rest : List Char) :
    ofText (c :: rest) = if rest.head? = some '=' then .word (.operator joined) [c, '=']
      else .word (.operator alone) [c] := by
  simp [ofText, h, of_joinable?_eq_some h]

theorem ofText_exclamation (rest : List Char) : ofText ('!' :: rest) = ofExclamation rest := rfl

theorem ofText_quote (rest : List Char) : ofText ('"' :: rest) = ofQuote rest := rfl

theorem ofText_of_isNumberStart {c : Char} (h : isNumberStart c = true) (rest : List Char) :
    ofText (c :: rest) = .word .number (numeral (c :: rest)) := by
  obtain ⟨hSingle, hJoinable, hExclamation, hQuote⟩ := special_of_wordStart (.inl h)
  simp [ofText, hSingle, hJoinable, hExclamation, hQuote, h]

theorem ofText_of_isIdentifierStart {c : Char} (h : isIdentifierStart c = true)
    (rest : List Char) : ofText (c :: rest) =
      .word (kindOfName (c :: rest.takeWhile Text.isAlphanumeric))
        (c :: rest.takeWhile Text.isAlphanumeric) := by
  obtain ⟨hSingle, hJoinable, hExclamation, hQuote⟩ := special_of_wordStart (.inr h)
  have hNumber : isNumberStart c = false := by
    cases hc : isNumberStart c with
    | false => rfl
    | true => simp [isIdentifierStart_of_isNumberStart hc] at h
  simp [ofText, hSingle, hJoinable, hExclamation, hQuote, hNumber, h]

theorem ofText_of_startsNothing {c : Char} (h : StartsNothing c) (rest : List Char) :
    ofText (c :: rest) = .fault (.unexpectedCharacter (.ofChar c)) := by
  simp [ofText, h.single, h.joinable, h.exclamation, h.quote, h.number, h.identifier]

end Reading

open Reading

section Families

variable {c : Char} {kind : Kind} {more : List Char}

theorem SpellsFrom.of_single {k : Kind} (h : SpellsFrom c kind more) (hStart : single? c = some k) :
    kind = k ∧ more = [] := by
  have hOther := of_single?_eq_some hStart
  cases h <;> simp_all

theorem SpellsFrom.of_joinable {alone joined : Operator} (h : SpellsFrom c kind more)
    (hStart : joinable? c = some (alone, joined)) :
    kind = .operator alone ∧ more = [] ∨ kind = .operator joined ∧ more = ['='] := by
  have hOther := of_joinable?_eq_some hStart
  cases h <;> simp_all

theorem SpellsFrom.of_exclamation (h : SpellsFrom '!' kind more) :
    kind = .operator .notEquals ∧ more = ['='] := by
  cases h with
  | notEquals => exact ⟨rfl, rfl⟩
  | string hStart => cases hStart
  | _ hStart => cases hStart

theorem SpellsFrom.of_quote (h : SpellsFrom '"' kind more) :
    kind = .string ∧ ∃ body, '"' ∉ body ∧ more = body ++ ['"'] := by
  cases h with
  | string _ hBody => exact ⟨rfl, _, hBody, rfl⟩
  | _ hStart => cases hStart

theorem SpellsFrom.of_isNumberStart (h : SpellsFrom c kind more) (hStart : isNumberStart c = true) :
    kind = .number ∧ (∀ x ∈ more, isNumberStart x = true) ∧ (c :: more).count '.' ≤ 1 := by
  have hOther := special_of_wordStart (.inl hStart)
  have hIdentifier := isIdentifierStart_of_isNumberStart hStart
  cases h <;> simp_all

theorem SpellsFrom.of_isIdentifierStart (h : SpellsFrom c kind more)
    (hStart : isIdentifierStart c = true) :
    kind = kindOfName (c :: more) ∧ ∀ x ∈ more, Text.isAlphanumeric x = true := by
  have hOther := special_of_wordStart (.inr hStart)
  cases h with
  | name _ hTail => exact ⟨rfl, hTail⟩
  | number hNumber => simp [isIdentifierStart_of_isNumberStart hNumber] at hStart
  | _ => simp_all

theorem not_spellsFrom_of_startsNothing (hStart : StartsNothing c) : ¬SpellsFrom c kind more := by
  intro h
  cases h <;> simp_all [hStart.single, hStart.joinable, hStart.exclamation, hStart.quote,
    hStart.number, hStart.identifier]

end Families

theorem Spells.kind_unique {kind kind' : Kind} {spelling : List Char} (h : Spells kind spelling)
    (h' : Spells kind' spelling) : kind = kind' := by
  obtain ⟨c, more, rfl⟩ := List.exists_cons_of_ne_nil h.ne_nil
  rw [spells_cons_iff] at h h'
  rcases start_cases c with ⟨k, hc⟩ | ⟨alone, joined, hc⟩ | rfl | rfl | hc | hc | hc
  · exact (h.of_single hc).1.trans (h'.of_single hc).1.symm
  · rcases h.of_joinable hc with ⟨rfl, rfl⟩ | ⟨rfl, rfl⟩ <;>
      rcases h'.of_joinable hc with ⟨rfl, hMore⟩ | ⟨rfl, hMore⟩ <;> first | rfl | cases hMore
  · exact h.of_exclamation.1.trans h'.of_exclamation.1.symm
  · exact h.of_quote.1.trans h'.of_quote.1.symm
  · exact (h.of_isNumberStart hc).1.trans (h'.of_isNumberStart hc).1.symm
  · exact (h.of_isIdentifierStart hc).1.trans (h'.of_isIdentifierStart hc).1.symm
  · exact absurd h (not_spellsFrom_of_startsNothing hc)

theorem IsLongestSpelling.unique {text : List Char} {kind kind' : Kind}
    {spelling spelling' : List Char} (h : IsLongestSpelling text kind spelling)
    (h' : IsLongestSpelling text kind' spelling') : kind = kind' ∧ spelling = spelling' := by
  have hLength : spelling.length = spelling'.length :=
    le_antisymm (h'.longest _ _ h.spells h.isPrefix) (h.longest _ _ h'.spells h'.isPrefix)
  have hSpelling : spelling = spelling' :=
    (List.prefix_of_prefix_length_le h.isPrefix h'.isPrefix hLength.le).eq_of_length hLength
  subst hSpelling
  exact ⟨h.spells.kind_unique h'.spells, rfl⟩

theorem isLongestSpelling_cons {c : Char} {kind : Kind} {more rest : List Char}
    (hSpells : SpellsFrom c kind more) (hPrefix : more <+: rest)
    (hLongest : ∀ kind' more', SpellsFrom c kind' more' → more' <+: rest →
      more'.length ≤ more.length) :
    IsLongestSpelling (c :: rest) kind (c :: more) where
  spells := spells_cons_iff.mpr hSpells
  isPrefix := List.cons_prefix_cons.mpr ⟨rfl, hPrefix⟩
  longest kind' spelling' hSpells' hPrefix' := by
    obtain ⟨c', more', rfl⟩ := List.exists_cons_of_ne_nil hSpells'.ne_nil
    obtain ⟨rfl, hMore⟩ := List.cons_prefix_cons.mp hPrefix'
    exact Nat.succ_le_succ (hLongest kind' more' (spells_cons_iff.mp hSpells') hMore)

theorem body_eq_takeWhile {body rest : List Char} (hBody : '"' ∉ body)
    (hPrefix : body ++ ['"'] <+: rest) : body = rest.takeWhile (· ≠ '"') := by
  obtain ⟨rest, rfl⟩ := hPrefix
  have hRun : ∀ x ∈ body, decide (x ≠ '"') = true := fun x hx => by
    have : x ≠ '"' := fun h => hBody (h ▸ hx)
    simpa using this
  rw [List.append_assoc, List.takeWhile_append_of_pos hRun]
  simp

theorem takeWhile_quote_isPrefix {rest : List Char} (h : '"' ∈ rest) :
    rest.takeWhile (· ≠ '"') ++ ['"'] <+: rest := by
  obtain ⟨before, after, rfl, hBefore⟩ := List.eq_append_cons_of_mem h
  have hPrefix : before ++ ['"'] <+: before ++ '"' :: after := ⟨after, by simp⟩
  rwa [← body_eq_takeWhile hBefore hPrefix]

section Longest

variable {c : Char} {rest : List Char}

theorem isLongestSpelling_single {kind : Kind} (hc : single? c = some kind) :
    IsLongestSpelling (c :: rest) kind [c] := by
  refine isLongestSpelling_cons (.single hc) List.nil_prefix fun kind' more' h' _ => ?_
  rw [(h'.of_single hc).2]

theorem isLongestSpelling_joined {alone joined : Operator}
    (hc : joinable? c = some (alone, joined)) :
    IsLongestSpelling (c :: '=' :: rest) (.operator joined) [c, '='] := by
  refine isLongestSpelling_cons (.joined hc) (List.prefix_append ['='] rest)
    fun kind' more' h' _ => ?_
  rcases h'.of_joinable hc with ⟨-, rfl⟩ | ⟨-, rfl⟩ <;> simp

theorem isLongestSpelling_alone {alone joined : Operator}
    (hc : joinable? c = some (alone, joined)) (hEquals : rest.head? ≠ some '=') :
    IsLongestSpelling (c :: rest) (.operator alone) [c] := by
  refine isLongestSpelling_cons (.alone hc) List.nil_prefix fun kind' more' h' hPrefix => ?_
  rcases h'.of_joinable hc with ⟨-, rfl⟩ | ⟨-, rfl⟩
  · rfl
  · obtain ⟨after, rfl⟩ := hPrefix
    exact absurd rfl hEquals

theorem isLongestSpelling_notEquals :
    IsLongestSpelling ('!' :: '=' :: rest) (.operator .notEquals) ['!', '='] := by
  refine isLongestSpelling_cons (.notEquals rfl) (List.prefix_append ['='] rest)
    fun kind' more' h' _ => ?_
  rw [h'.of_exclamation.2]

theorem isLongestSpelling_string (hQuote : '"' ∈ rest) :
    IsLongestSpelling ('"' :: rest) .string ('"' :: (rest.takeWhile (· ≠ '"') ++ ['"'])) := by
  have hBody : '"' ∉ rest.takeWhile (· ≠ '"') := fun hx => by
    simpa using List.mem_takeWhile_imp hx
  refine isLongestSpelling_cons (.string rfl hBody) (takeWhile_quote_isPrefix hQuote)
    fun kind' more' h' hPrefix => ?_
  obtain ⟨-, body, hBody', rfl⟩ := h'.of_quote
  rw [body_eq_takeWhile hBody' hPrefix]

theorem isLongestSpelling_numeral (hc : isNumberStart c = true) :
    IsLongestSpelling (c :: rest) .number (numeral (c :: rest)) := by
  obtain ⟨hPrefix, hDigits, hPoint⟩ := numeral_spec (c :: rest)
  have hNonempty : numeral (c :: rest) ≠ [] := numeral_ne_nil hc
  obtain ⟨c', more, hMore⟩ := List.exists_cons_of_ne_nil hNonempty
  rw [hMore] at hPrefix hDigits hPoint ⊢
  obtain ⟨rfl, hStart⟩ := List.cons_prefix_cons.mp hPrefix
  refine isLongestSpelling_cons
    (.number hc (fun x hx => hDigits x (List.mem_cons_of_mem c' hx)) hPoint) hStart
    fun kind' more' h' hPrefix' => ?_
  obtain ⟨-, hDigits', hPoint'⟩ := h'.of_isNumberStart hc
  have hAll : ∀ x ∈ c' :: more', isNumberStart x = true := by
    intro x hx
    rcases List.mem_cons.mp hx with rfl | hx
    · exact hc
    · exact hDigits' x hx
  have hNumeral := prefix_numeral (List.cons_prefix_cons.mpr ⟨rfl, hPrefix'⟩) hAll hPoint'
  rw [hMore] at hNumeral
  exact Nat.le_of_succ_le_succ hNumeral.length_le

theorem isLongestSpelling_name (hc : isIdentifierStart c = true) :
    IsLongestSpelling (c :: rest) (kindOfName (c :: rest.takeWhile Text.isAlphanumeric))
      (c :: rest.takeWhile Text.isAlphanumeric) := by
  refine isLongestSpelling_cons (.name hc fun x hx => List.mem_takeWhile_imp hx)
    (List.takeWhile_prefix _) fun kind' more' h' hPrefix => ?_
  exact (prefix_takeWhile hPrefix (h'.of_isIdentifierStart hc).2).length_le

end Longest

theorem isLongestSpelling_of_ofText {text : List Char} {kind : Kind} {spelling : List Char}
    (h : ofText text = .word kind spelling) : IsLongestSpelling text kind spelling := by
  cases text with
  | nil => cases h
  | cons c rest =>
    rcases start_cases c with ⟨k, hc⟩ | ⟨alone, joined, hc⟩ | rfl | rfl | hc | hc | hc
    · rw [ofText_of_single hc] at h
      cases h
      exact isLongestSpelling_single hc
    · rw [ofText_of_joinable hc] at h
      split at h
      next hEquals =>
        cases h
        obtain ⟨rest, rfl⟩ := List.head?_eq_some_iff.mp hEquals
        exact isLongestSpelling_joined hc
      next hEquals =>
        cases h
        exact isLongestSpelling_alone hc hEquals
    · rw [ofText_exclamation, ofExclamation] at h
      split at h
      next hEquals =>
        cases h
        obtain ⟨rest, rfl⟩ := List.head?_eq_some_iff.mp hEquals
        exact isLongestSpelling_notEquals
      next => cases h
    · rw [ofText_quote, ofQuote] at h
      split at h
      next hQuote =>
        cases h
        exact isLongestSpelling_string hQuote
      next => cases h
    · rw [ofText_of_isNumberStart hc] at h
      cases h
      exact isLongestSpelling_numeral hc
    · rw [ofText_of_isIdentifierStart hc] at h
      cases h
      exact isLongestSpelling_name hc
    · rw [ofText_of_startsNothing hc] at h
      cases h

theorem exists_ofText_of_spells {text : List Char} {kind : Kind} {spelling : List Char}
    (h : Spells kind spelling) (hPrefix : spelling <+: text) :
    ∃ kind' spelling', ofText text = .word kind' spelling' := by
  obtain ⟨c, more, rfl⟩ := List.exists_cons_of_ne_nil h.ne_nil
  obtain ⟨rest, rfl⟩ := hPrefix
  rw [spells_cons_iff] at h
  rw [List.cons_append]
  rcases start_cases c with ⟨k, hc⟩ | ⟨alone, joined, hc⟩ | rfl | rfl | hc | hc | hc
  · exact ⟨_, _, ofText_of_single hc _⟩
  · rw [ofText_of_joinable hc]
    split <;> exact ⟨_, _, rfl⟩
  · obtain ⟨-, rfl⟩ := h.of_exclamation
    exact ⟨_, _, rfl⟩
  · obtain ⟨-, body, -, rfl⟩ := h.of_quote
    have hQuote : '"' ∈ body ++ ['"'] ++ rest := by simp
    rw [ofText_quote, ofQuote, if_pos hQuote]
    exact ⟨_, _, rfl⟩
  · exact ⟨_, _, ofText_of_isNumberStart hc _⟩
  · exact ⟨_, _, ofText_of_isIdentifierStart hc _⟩
  · exact absurd h (not_spellsFrom_of_startsNothing hc)

/-- Reading a word and finding the longest spelling are the same. -/
theorem ofText_eq_word_iff {text : List Char} {kind : Kind} {spelling : List Char} :
    ofText text = .word kind spelling ↔ IsLongestSpelling text kind spelling := by
  constructor
  · exact isLongestSpelling_of_ofText
  · intro h
    obtain ⟨kind', spelling', hRead⟩ := exists_ofText_of_spells h.spells h.isPrefix
    obtain ⟨rfl, rfl⟩ := h.unique (isLongestSpelling_of_ofText hRead)
    exact hRead

theorem ofText_eq_endOfInput_iff {text : List Char} : ofText text = .endOfInput ↔ text = [] := by
  constructor
  · intro h
    cases text with
    | nil => rfl
    | cons c rest =>
      rcases start_cases c with ⟨k, hc⟩ | ⟨alone, joined, hc⟩ | rfl | rfl | hc | hc | hc
      · simp [ofText_of_single hc] at h
      · rw [ofText_of_joinable hc] at h
        split at h <;> cases h
      · rw [ofText_exclamation, ofExclamation] at h
        split at h <;> cases h
      · rw [ofText_quote, ofQuote] at h
        split at h <;> cases h
      · simp [ofText_of_isNumberStart hc] at h
      · simp [ofText_of_isIdentifierStart hc] at h
      · simp [ofText_of_startsNothing hc] at h
  · rintro rfl
    rfl

end TeenyLexer
