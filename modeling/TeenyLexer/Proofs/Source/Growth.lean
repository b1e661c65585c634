import TeenyLexer.Proofs.Source.Gap

/-! # Words that grow

A word reaches any of its longer spellings one character at a time, and every text on the way is a
word. So the character behind a word settles whether the word is the longest one there, whatever
follows that character. Layout makes no word longer.
-/

namespace TeenyLexer

open Reading

/-- Another character makes the spelling of a word out of the spelling of a word. -/
def GrowsBy (spelling : List Char) (d : Char) : Prop :=
  ∃ kind, Spells kind (spelling ++ [d])

theorem growsBy_cons_iff {c d : Char} {more : List Char} :
    GrowsBy (c :: more) d ↔ ∃ kind, SpellsFrom c kind (more ++ [d]) := by
  simp only [GrowsBy, List.cons_append, spells_cons_iff]

theorem SpellsFrom.concat {c d : Char} {kind kind' : Kind} {more after : List Char}
    (h : SpellsFrom c kind more) (h' : SpellsFrom c kind' (more ++ d :: after)) :
    ∃ kind, SpellsFrom c kind (more ++ [d]) := by
  have hShorter : more ++ [d] <+: more ++ d :: after := ⟨after, by simp⟩
  cases h with
  | single hStart => cases (h'.of_single hStart).2
  | alone hStart =>
    rcases h'.of_joinable hStart with ⟨-, hMore⟩ | ⟨-, hMore⟩ <;> cases hMore
    exact ⟨_, .joined hStart⟩
  | joined hStart => rcases h'.of_joinable hStart with ⟨-, hMore⟩ | ⟨-, hMore⟩ <;> cases hMore
  | notEquals hStart =>
    subst hStart
    cases h'.of_exclamation.2
  | @string body hStart hBody =>
    -- The body of the longer string would end at the first quote too.
    subst hStart
    obtain ⟨-, body', hBody', hMore⟩ := h'.of_quote
    have hFirst := body_eq_takeWhile hBody (List.prefix_append (body ++ ['"']) (d :: after))
    rw [hMore, ← body_eq_takeWhile hBody' List.prefix_rfl] at hFirst
    rw [hFirst, List.append_right_eq_self] at hMore
    cases hMore
  | number hStart =>
    obtain ⟨-, hDigits, hPoint⟩ := h'.of_isNumberStart hStart
    have hCount := (hShorter.sublist.cons_cons c).count_le '.'
    exact ⟨_, .number hStart (fun x hx => hDigits x (hShorter.mem hx)) (hCount.trans hPoint)⟩
  | name hStart =>
    have hTail := (h'.of_isIdentifierStart hStart).2
    exact ⟨_, .name hStart fun x hx => hTail x (hShorter.mem hx)⟩

theorem Spells.growsBy {kind kind' : Kind} {spelling after : List Char} {d : Char}
    (h : Spells kind spelling) (h' : Spells kind' (spelling ++ d :: after)) :
    GrowsBy spelling d := by
  obtain ⟨c, more, rfl⟩ := List.exists_cons_of_ne_nil h.ne_nil
  rw [spells_cons_iff] at h
  rw [List.cons_append, spells_cons_iff] at h'
  exact growsBy_cons_iff.mpr (h.concat h')

theorem isLongestSpelling_append_iff {kind : Kind} {spelling rest : List Char} :
    IsLongestSpelling (spelling ++ rest) kind spelling ↔
      Spells kind spelling ∧ ∀ d ∈ rest.head?, ¬GrowsBy spelling d := by
  constructor
  · intro h
    refine ⟨h.spells, ?_⟩
    rintro d hd ⟨kind', hGrown⟩
    obtain ⟨after, rfl⟩ := List.head?_eq_some_iff.mp hd
    have hLength := h.longest kind' _ hGrown ⟨after, by simp⟩
    rw [List.length_append, List.length_singleton] at hLength
    omega
  · rintro ⟨hSpells, hNext⟩
    refine ⟨hSpells, List.prefix_append spelling rest, ?_⟩
    intro kind' spelling' hSpells' hPrefix
    apply Nat.le_of_not_lt
    intro hLonger
    obtain ⟨tail, rfl⟩ :=
      List.prefix_of_prefix_length_le (List.prefix_append spelling rest) hPrefix hLonger.le
    cases tail with
    | nil => simp at hLonger
    | cons d tail =>
      obtain ⟨after, rfl⟩ := (List.prefix_append_right_inj spelling).mp hPrefix
      exact hNext d rfl (hSpells.growsBy hSpells')

theorem IsLongestSpelling.congr {kind : Kind} {spelling rest rest' : List Char}
    (h : IsLongestSpelling (spelling ++ rest) kind spelling)
    (hNext : ∀ d ∈ rest'.head?, d ∈ rest.head? ∨ ¬GrowsBy spelling d) :
    IsLongestSpelling (spelling ++ rest') kind spelling := by
  obtain ⟨hSpells, hRest⟩ := isLongestSpelling_append_iff.mp h
  apply isLongestSpelling_append_iff.mpr
  refine ⟨hSpells, ?_⟩
  intro d hd
  rcases hNext d hd with hSame | hOther
  · exact hRest d hSame
  · exact hOther

theorem SpellsFrom.last_cases {c d : Char} {kind : Kind} {more : List Char}
    (h : SpellsFrom c kind (more ++ [d])) :
    d = '=' ∨ d = '"' ∨ isNumberStart d = true ∨ Text.isAlphanumeric d = true := by
  generalize hLonger : more ++ [d] = longer at h
  have hLast : d ∈ longer := by simp [← hLonger]
  cases h with
  | single => simp at hLonger
  | alone => simp at hLonger
  | joined => exact .inl (List.mem_singleton.mp hLast)
  | notEquals => exact .inl (List.mem_singleton.mp hLast)
  | string => exact .inr (.inl (List.append_singleton_inj.mp hLonger).2)
  | number _ hDigits => exact .inr (.inr (.inl (hDigits d hLast)))
  | name _ hTail => exact .inr (.inr (.inr (hTail d hLast)))

theorem not_growsBy_of_separates {kind : Kind} {spelling : List Char} {d : Char}
    (h : Spells kind spelling) (hd : isBlank d = true ∨ d = '#' ∨ d = '\n') :
    ¬GrowsBy spelling d := by
  obtain ⟨c, more, rfl⟩ := List.exists_cons_of_ne_nil h.ne_nil
  intro hGrows
  obtain ⟨kind', hGrown⟩ := growsBy_cons_iff.mp hGrows
  have hLast := hGrown.last_cases
  simp only [isBlank, Bool.or_eq_true, beq_iff_eq] at hd
  rcases hd with ((rfl | rfl) | rfl) | rfl | rfl <;> exact absurd hLast (by decide)

/-- What separates words stands in none of them, except for the newline that is a word, and in
strings. -/
theorem Spells.separator_not_mem {kind : Kind} {spelling : List Char} {c : Char}
    (h : Spells kind spelling) (hc : isBlank c = true ∨ c = '#' ∨ c = '\n')
    (hNewline : kind ≠ .newline) (hString : kind ≠ .string) : c ∉ spelling := by
  simp only [isBlank, Bool.or_eq_true, beq_iff_eq] at hc
  have hNumber : c.isDigit = false ∧ c ≠ '.' := by
    rcases hc with ((rfl | rfl) | rfl) | rfl | rfl <;> decide
  have hName : c.isAlpha = false ∧ c ≠ '_' ∧ Text.isAlphanumeric c = false := by
    rcases hc with ((rfl | rfl) | rfl) | rfl | rfl <;> decide
  intro hInside
  cases h with
  | newline => exact hNewline rfl
  | operator o =>
    rcases hc with ((rfl | rfl) | rfl) | rfl | rfl <;> cases o <;> exact absurd hInside (by decide)
  | keyword k =>
    rcases hc with ((rfl | rfl) | rfl) | rfl | rfl <;> cases k <;> exact absurd hInside (by decide)
  | string => exact hString rfl
  | number _ hDigits =>
    rcases hDigits c hInside with hDigit | hPoint
    · exact absurd hDigit (Bool.eq_false_iff.mp hNumber.1)
    · exact hNumber.2 hPoint
  | identifier hStart hTail =>
    rcases List.mem_cons.mp hInside with rfl | hMore
    · rcases hStart with hAlpha | hUnderscore
      · exact absurd hAlpha (Bool.eq_false_iff.mp hName.1)
      · exact hName.2.1 hUnderscore
    · exact absurd (hTail c hMore) (Bool.eq_false_iff.mp hName.2.2)

theorem Spells.newline_not_mem {kind : Kind} {spelling : List Char} (h : Spells kind spelling)
    (hNewline : kind ≠ .newline) (hString : kind ≠ .string) : '\n' ∉ spelling :=
  h.separator_not_mem (.inr (.inr rfl)) hNewline hString

theorem Spells.of_newline {spelling : List Char} (h : Spells .newline spelling) :
    spelling = ['\n'] := by
  cases h
  rfl

/-- The newline is a word of its own, so no other word ends in one. -/
theorem Spells.eq_newline {kind : Kind} {spelling : List Char} (h : Spells kind spelling)
    (hLast : spelling.getLast? = some '\n') : kind = .newline ∧ spelling = ['\n'] := by
  by_cases hNewline : kind = .newline
  · rw [hNewline] at h
    exact ⟨hNewline, h.of_newline⟩
  · by_cases hString : kind = .string
    · subst hString
      cases h
      rw [List.getLast?_concat] at hLast
      exact absurd hLast (by decide)
    · exact absurd (List.mem_of_getLast? hLast) (h.newline_not_mem hNewline hString)

theorem not_growsBy_newline (d : Char) : ¬GrowsBy ['\n'] d := by
  intro hGrows
  obtain ⟨kind, hGrown⟩ := growsBy_cons_iff.mp hGrows
  have hSingle : single? '\n' = some .newline := rfl
  cases (hGrown.of_single hSingle).2

end TeenyLexer
