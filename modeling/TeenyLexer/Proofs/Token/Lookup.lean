import Mathlib
import TeenyLexer.Proofs.Session.Pulls
import TeenyLexer.Proofs.Session.Sharing

/-! # Looking words up

The tables of keywords and operators say of every word that is not a string which kind it has. So
the texts of the tables are the only spellings of their kinds, and no word of another kind but a
string has one of them as its lexeme.
-/

namespace TeenyLexer

open Reading

/-- A word whose kind is the one under which the tables list its lexeme. What a string holds is not
looked up. -/
structure Word.AgreesWithTables (w : Word) : Prop where
  isKeyword_iff : w.kind.isKeyword = true ↔
    w.kind ≠ .string ∧ ∃ k, Keyword.ofText? w.lexeme = some k
  keyword : ∀ k, w.kind ≠ .string → Keyword.ofText? w.lexeme = some k → w.kind = .keyword k
  isOperator_iff : w.kind.isOperator = true ↔
    w.kind ≠ .string ∧ ∃ o, Operator.ofText? w.lexeme = some o
  operator : ∀ o, w.kind ≠ .string → Operator.ofText? w.lexeme = some o → w.kind = .operator o
  isComparison : w.kind.isComparison = true → w.kind.isOperator = true
  apart : ¬(w.kind.isKeyword = true ∧ w.kind.isOperator = true)
  identifier : w.kind = .identifier → Keyword.ofText? w.lexeme = none
  keywordText : ∀ k, w.kind = .keyword k → w.lexeme = k.text
  operatorText : ∀ o, w.kind = .operator o → w.lexeme = o.text

theorem Spells.ofText?_eq_keyword_iff {kind : Kind} {spelling : List Char}
    (h : Spells kind spelling) (k : Keyword) :
    Keyword.ofText? (String.ofList spelling) = some k ↔ kind = .keyword k := by
  rw [Keyword.ofText?_eq_some_iff]
  constructor
  · intro hText
    have hKeyword := Spells.keyword k
    rw [hText, String.toList_ofList] at hKeyword
    exact h.kind_unique hKeyword
  · rintro rfl
    cases h
    rw [String.ofList_toList]

theorem Spells.ofText?_eq_operator_iff {kind : Kind} {spelling : List Char}
    (h : Spells kind spelling) (o : Operator) :
    Operator.ofText? (String.ofList spelling) = some o ↔ kind = .operator o := by
  rw [Operator.ofText?_eq_some_iff]
  constructor
  · intro hText
    have hOperator := Spells.operator o
    rw [hText, String.toList_ofList] at hOperator
    exact h.kind_unique hOperator
  · rintro rfl
    cases h
    rw [String.ofList_toList]

theorem Kind.isKeyword_iff {kind : Kind} : kind.isKeyword = true ↔ ∃ k, kind = .keyword k := by
  cases kind <;> simp [isKeyword]

theorem Kind.isOperator_iff {kind : Kind} : kind.isOperator = true ↔ ∃ o, kind = .operator o := by
  cases kind <;> simp [isOperator]

namespace Word

/-- It is enough that each entry of the tables stands for one kind. -/
theorem agreesWithTables_of_entries {w : Word}
    (hKeyword : w.kind ≠ .string →
      ∀ k, Keyword.ofText? w.lexeme = some k ↔ w.kind = .keyword k)
    (hOperator : w.kind ≠ .string →
      ∀ o, Operator.ofText? w.lexeme = some o ↔ w.kind = .operator o) : w.AgreesWithTables := by
  have hKeywordText : ∀ k, w.kind = .keyword k →
      w.kind ≠ .string ∧ Keyword.ofText? w.lexeme = some k := by
    intro k hKind
    have hString : w.kind ≠ .string := by rw [hKind]; exact Kind.noConfusion
    exact ⟨hString, (hKeyword hString k).mpr hKind⟩
  have hOperatorText : ∀ o, w.kind = .operator o →
      w.kind ≠ .string ∧ Operator.ofText? w.lexeme = some o := by
    intro o hKind
    have hString : w.kind ≠ .string := by rw [hKind]; exact Kind.noConfusion
    exact ⟨hString, (hOperator hString o).mpr hKind⟩
  refine ⟨?_, ?_, ?_, ?_, ?_, ?_, ?_, ?_, ?_⟩
  · rw [Kind.isKeyword_iff]
    constructor
    · rintro ⟨k, hKind⟩
      exact ⟨(hKeywordText k hKind).1, k, (hKeywordText k hKind).2⟩
    · rintro ⟨hString, k, hText⟩
      exact ⟨k, (hKeyword hString k).mp hText⟩
  · intro k hString hText
    exact (hKeyword hString k).mp hText
  · rw [Kind.isOperator_iff]
    constructor
    · rintro ⟨o, hKind⟩
      exact ⟨(hOperatorText o hKind).1, o, (hOperatorText o hKind).2⟩
    · rintro ⟨hString, o, hText⟩
      exact ⟨o, (hOperator hString o).mp hText⟩
  · intro o hString hText
    exact (hOperator hString o).mp hText
  · cases w.kind <;> simp [Kind.isComparison, Kind.isOperator]
  · cases w.kind <;> simp [Kind.isKeyword, Kind.isOperator]
  · intro hKind
    apply Option.eq_none_iff_forall_ne_some.mpr
    intro k hText
    rw [hKeyword (by rw [hKind]; exact Kind.noConfusion) k, hKind] at hText
    cases hText
  · intro k hKind
    exact (Keyword.ofText?_eq_some_iff.mp (hKeywordText k hKind).2).symm
  · intro o hKind
    exact (Operator.ofText?_eq_some_iff.mp (hOperatorText o hKind).2).symm

theorem agreesWithTables_ofSpelling {kind : Kind} {spelling : List Char}
    (h : Spells kind spelling) : (ofSpelling kind spelling).AgreesWithTables := by
  have hLexeme : (ofSpelling kind spelling).kind ≠ .string →
      (ofSpelling kind spelling).lexeme = String.ofList spelling := by
    intro hString
    rw [kind_ofSpelling] at hString
    exact lexeme_of_ne_string hString spelling
  apply agreesWithTables_of_entries
  · intro hString k
    rw [hLexeme hString, kind_ofSpelling]
    exact h.ofText?_eq_keyword_iff k
  · intro hString o
    rw [hLexeme hString, kind_ofSpelling]
    exact h.ofText?_eq_operator_iff o

theorem agreesWithTables_endOfInput : endOfInput.AgreesWithTables := by
  apply agreesWithTables_of_entries
  · intro _ k
    cases k <;> decide
  · intro _ o
    cases o <;> decide

end Word

theorem Scanner.agreesWithTables_of_pull {s : Scanner} {t : Token} (h : s.pull.outcome = .ok t) :
    t.toWord.AgreesWithTables := by
  obtain ⟨-, ⟨kind, spelling, hRead, hWord⟩ | ⟨-, hWord⟩⟩ := reading_of_ok h
  · rw [hWord]
    exact Word.agreesWithTables_ofSpelling (isLongestSpelling_of_ofText hRead).spells
  · rw [hWord]
    exact Word.agreesWithTables_endOfInput

namespace Session

/-- However a session has come to where it stands, the tokens that its next step pulls are of the
kinds that the tables give. -/
theorem pulled_words_agree_with_tables (source : String) (filename : Option String)
    (settings : Settings) (past : List Step) (step : Step) {t : Token}
    (ht : t ∈ Scanner.delivered
      (((ofScanner (.ofSource source filename settings)).after past).pulls step)) :
    t.toWord.AgreesWithTables := by
  obtain ⟨s, hOutcome⟩ := Scanner.exists_pull_of_mem_delivered (delivered_subset _ step ht)
  exact Scanner.agreesWithTables_of_pull hOutcome

/-- What is left of a keyword behind three characters spells a keyword, and is one. A string that
holds the text of a keyword is none. -/
theorem pulled_words_agree_with_tables_inside_name :
    Word.AgreesWithTables ⟨.keyword .if, "IF"⟩ ∧ Word.AgreesWithTables ⟨.string, "IF"⟩ := by
  have hTail : (⟨⟨.keyword .if, "IF"⟩, ⟨"<input>", 1, 4⟩⟩ : Token) ∈ Scanner.delivered
      (((ofScanner (.ofSource "ENDIF" none {})).after [.peek, .advance 3]).pulls .next) :=
    List.mem_singleton.mpr (by cbv)
  have hBody : (⟨⟨.string, "IF"⟩, ⟨"<input>", 1, 1⟩⟩ : Token) ∈ Scanner.delivered
      (((ofScanner (.ofSource "\"IF\"" none {})).after [.setTrace true]).pulls .next) :=
    List.mem_singleton.mpr (by cbv)
  exact ⟨pulled_words_agree_with_tables _ _ _ _ _ hTail,
    pulled_words_agree_with_tables _ _ _ _ _ hBody⟩

end Session

end TeenyLexer
