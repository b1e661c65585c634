import Mathlib
import TeenyLexer.Proofs.Scanner.Diagnosis
import TeenyLexer.Proofs.Session.Sharing
import TeenyLexer.Proofs.Token.Codec

/-! # Lexemes of strings

A string can be told from its lexeme, and a text is the lexeme of a string when its backslashes come
out even: where a run of them ends their number is odd before a percent sign, and even before
anything else.
-/

namespace TeenyLexer

namespace Escape

theorem encode_eq (body : List Char) :
    encode body = body.flatMap fun c => if c = '%' ∨ c = '\\' then ['\\', c] else [c] := by
  simp [encode, isEscaped]

theorem encode_of_decode {text body : List Char} (h : decode text = some body) :
    encode body = text := by
  -- The cases of the decoder in their order: nothing, a last character that is escaped or plain, an
  -- escape, a backslash before something else, a percent sign, a plain character.
  fun_induction decode text generalizing body with
  | case1 =>
    cases h
    rfl
  | case2 c hc => cases h
  | case3 c hc =>
    cases h
    exact encode_cons_of_not_isEscaped (by simpa using hc) []
  | case4 d rest hd ih =>
    obtain ⟨inner, hInner, rfl⟩ := Option.map_eq_some_iff.mp h
    rw [encode_cons_of_isEscaped hd, ih hInner]
  | case5 d rest hd => cases h
  | case6 c d rest hSlash hc => cases h
  | case7 c d rest hSlash hc ih =>
    obtain ⟨inner, hInner, rfl⟩ := Option.map_eq_some_iff.mp h
    rw [encode_cons_of_not_isEscaped (by simpa using hc), ih hInner]

theorem decode_eq_some_iff {text body : List Char} :
    decode text = some body ↔ encode body = text := by
  constructor
  · exact encode_of_decode
  · rintro rfl
    exact decode_encode body

theorem encode_inj {body body' : List Char} : encode body = encode body' ↔ body = body' := by
  rw [← decode_eq_some_iff, decode_encode, Option.some.injEq, eq_comm]

theorem quote_mem_encode_iff {body : List Char} : '"' ∈ encode body ↔ '"' ∈ body := by
  constructor
  · intro h
    rw [encode_eq] at h
    obtain ⟨c, hc, hQuote⟩ := List.mem_flatMap.mp h
    split at hQuote
    next hEscaped => rcases hEscaped with rfl | rfl <;> exact absurd hQuote (by decide)
    next => rwa [List.mem_singleton.mp hQuote]
  · exact mem_encode

/-- How many backslashes a text ends in. -/
def backslashes (text : List Char) : Nat :=
  (text.rtakeWhile (· = '\\')).length

/-- A text in which every percent sign stands behind an odd number of backslashes, and any run of
backslashes that no percent sign follows is even. -/
structure IsBalanced (text : List Char) : Prop where
  percent : ∀ before after, text = before ++ '%' :: after → Odd (backslashes before)
  other : ∀ before after, text = before ++ after → after.head? ≠ some '\\' →
    after.head? ≠ some '%' → Even (backslashes before)

theorem isBalanced_iff {text : List Char} :
    IsBalanced text ↔ ∀ before after, text = before ++ after → after.head? ≠ some '\\' →
      (Odd (backslashes before) ↔ after.head? = some '%') := by
  constructor
  · intro h before after hText hRun
    by_cases hPercent : after.head? = some '%'
    · obtain ⟨rest, rfl⟩ := List.head?_eq_some_iff.mp hPercent
      exact iff_of_true (h.percent before rest hText) hPercent
    · have hEven := h.other before after hText hRun hPercent
      exact iff_of_false (Nat.not_odd_iff_even.mpr hEven) hPercent
  · intro h
    constructor
    · intro before after hText
      exact (h before _ hText (by simp)).mpr rfl
    · intro before after hText hRun hPercent
      exact Nat.not_odd_iff_even.mp fun hOdd => hPercent ((h before after hText hRun).mp hOdd)

theorem backslashes_concat (text : List Char) (c : Char) :
    backslashes (text ++ [c]) = if c = '\\' then backslashes text + 1 else 0 := by
  rw [backslashes, List.rtakeWhile_concat]
  split <;> simp_all [backslashes]

theorem backslashes_append_cons {c : Char} (hc : c ≠ '\\') (before after : List Char) :
    backslashes (before ++ c :: after) = backslashes after := by
  induction after using List.reverseRecOn with
  | nil =>
    rw [backslashes_concat, if_neg hc]
    rfl
  | append_singleton after d ih =>
    rw [← List.cons_append, ← List.append_assoc, backslashes_concat, ih, backslashes_concat]

/-- A backslash in front and the character behind it change nothing, even where that is a backslash
as well and the run goes on. -/
theorem odd_backslashes_cons_cons (c : Char) (text : List Char) :
    Odd (backslashes ('\\' :: c :: text)) ↔ Odd (backslashes text) := by
  by_cases hc : c = '\\'
  · subst hc
    induction text using List.reverseRecOn with
    | nil => decide
    | append_singleton text d ih =>
      rw [← List.cons_append, ← List.cons_append, backslashes_concat, backslashes_concat]
      split
      · rw [Nat.odd_add_one, Nat.odd_add_one, ih]
      · rfl
  · rw [← List.singleton_append, backslashes_append_cons hc]

theorem isBalanced_nil : IsBalanced [] := by
  rw [isBalanced_iff]
  intro before after hText _
  obtain ⟨rfl, rfl⟩ := List.append_eq_nil_iff.mp hText.symm
  decide

theorem isBalanced_cons_iff {c : Char} (hc : isEscaped c = false) {rest : List Char} :
    IsBalanced (c :: rest) ↔ IsBalanced rest := by
  obtain ⟨hPercent, hSlash⟩ : c ≠ '%' ∧ c ≠ '\\' := by simpa [isEscaped] using hc
  have hSkip : ∀ text, backslashes (c :: text) = backslashes text :=
    backslashes_append_cons hSlash []
  rw [isBalanced_iff, isBalanced_iff]
  constructor
  · intro h before after hText hRun
    rw [← hSkip]
    exact h (c :: before) after (by rw [hText, List.cons_append]) hRun
  · intro h before after hText hRun
    cases before with
    | nil =>
      obtain rfl : after = c :: rest := hText.symm
      exact iff_of_false (by decide) (by simpa using hPercent)
    | cons d before =>
      simp only [List.cons_append, List.cons.injEq] at hText
      obtain ⟨rfl, hText⟩ := hText
      rw [hSkip]
      exact h before after hText hRun

theorem isBalanced_escape_iff {c : Char} (hc : isEscaped c = true) {rest : List Char} :
    IsBalanced ('\\' :: c :: rest) ↔ IsBalanced rest := by
  rw [isBalanced_iff, isBalanced_iff]
  constructor
  · intro h before after hText hRun
    rw [← odd_backslashes_cons_cons]
    exact h ('\\' :: c :: before) after (by rw [hText]; rfl) hRun
  · intro h before after hText hRun
    match before with
    | [] =>
      obtain rfl : after = '\\' :: c :: rest := hText.symm
      exact absurd rfl hRun
    | [d] =>
      obtain ⟨rfl, rfl⟩ := List.cons.inj hText
      have hPercent : c = '%' := by
        have hSlash : c ≠ '\\' := by simpa using hRun
        simpa [isEscaped, hSlash] using hc
      exact iff_of_true (by decide) (congrArg some hPercent)
    | d :: d' :: before =>
      simp only [List.cons_append, List.cons.injEq] at hText
      obtain ⟨rfl, rfl, hText⟩ := hText
      rw [odd_backslashes_cons_cons]
      exact h before after hText hRun

theorem not_isBalanced_percent (rest : List Char) : ¬IsBalanced ('%' :: rest) := by
  intro h
  exact absurd (h.percent [] rest rfl) (by decide)

theorem not_isBalanced_backslash {rest : List Char}
    (hRest : ∀ c ∈ rest.head?, isEscaped c = false) : ¬IsBalanced ('\\' :: rest) := by
  intro h
  have hHead : ∀ c, isEscaped c = true → rest.head? ≠ some c := by
    intro c hc hHead
    rw [hRest c hHead] at hc
    cases hc
  have hEven := h.other ['\\'] rest rfl (hHead '\\' rfl) (hHead '%' rfl)
  exact absurd hEven (by decide)

/-- The texts that have their escapes undone, said without undoing them. -/
theorem isBalanced_iff_decode {text : List Char} :
    IsBalanced text ↔ ∃ body, decode text = some body := by
  rw [← Option.isSome_iff_exists]
  fun_induction decode text with
  | case1 => exact iff_of_true isBalanced_nil rfl
  | case2 c hc =>
    refine iff_of_false ?_ Bool.false_ne_true
    rcases (by simpa [isEscaped] using hc : c = '%' ∨ c = '\\') with rfl | rfl
    · exact not_isBalanced_percent []
    · exact not_isBalanced_backslash (by simp)
  | case3 c hc =>
    exact iff_of_true ((isBalanced_cons_iff (by simpa using hc)).mpr isBalanced_nil) rfl
  | case4 d rest hd ih => rw [isBalanced_escape_iff hd, ih, Option.map_eq_map, Option.isSome_map]
  | case5 d rest hd =>
    exact iff_of_false (not_isBalanced_backslash (by simpa using hd)) Bool.false_ne_true
  | case6 c d rest hSlash hc =>
    obtain rfl : c = '%' := by simpa [isEscaped, hSlash] using hc
    exact iff_of_false (not_isBalanced_percent _) Bool.false_ne_true
  | case7 c d rest hSlash hc ih =>
    rw [isBalanced_cons_iff (by simpa using hc), ih, Option.map_eq_map, Option.isSome_map]

end Escape

open Reading

/-- A session whose next pull begins with the opening quote of a string. -/
structure MeetsString (source : String) (s : Session) (body : List Char) : Prop where
  reachable : s.Reachable source
  closed : '"' ∉ body
  written : ∃ before after, programText source = before ++ ('"' :: body ++ '"' :: after) ∧
    LayoutEnds (programText source) s.scanner.cursor.position before.length

theorem ofText_string {body : List Char} (h : '"' ∉ body) (after : List Char) :
    ofText ('"' :: body ++ '"' :: after) = .word .string ('"' :: body ++ ['"']) := by
  have hPrefix : body ++ ['"'] <+: body ++ '"' :: after := ⟨after, List.append_assoc _ _ _⟩
  rw [List.cons_append, ofText_quote, ofQuote, if_pos (by simp), ← body_eq_takeWhile h hPrefix]

theorem MeetsString.outcome_pull {source : String} {s : Session} {body : List Char}
    (h : MeetsString source s body) : ∃ t : Token, s.scanner.pull.outcome = .ok t ∧
      t.toWord = ⟨.string, String.ofList (Escape.encode body)⟩ := by
  obtain ⟨before, after, hText, hLayout⟩ := h.written
  have hSkip : s.scanner.cursor.skipLayout = .atOffset (programText source) before.length := by
    rw [h.reachable.cursor_eq, Cursor.skipLayout_atOffset, ← layoutEnds_iff.mp hLayout]
  have hRest : s.scanner.cursor.skipLayout.rest = '"' :: body ++ '"' :: after := by
    rw [hSkip]
    change (programText source).drop before.length = _
    rw [hText, List.drop_left]
  have hRead := hRest ▸ ofText_string h.closed after
  rw [Scanner.pull_of_word hRead]
  exact ⟨_, rfl, Word.ofSpelling_string body⟩

theorem exists_body_of_pull {s : Scanner} {t : Token} (h : s.pull.outcome = .ok t)
    (hKind : t.kind = .string) :
    ∃ body, '"' ∉ body ∧ t.lexeme = String.ofList (Escape.encode body) := by
  obtain ⟨-, ⟨kind, spelling, hRead, hWord⟩ | ⟨-, hWord⟩⟩ := Scanner.reading_of_ok h
  · have hSpells := (isLongestSpelling_of_ofText hRead).spells
    rw [hWord, Word.kind_ofSpelling] at hKind
    subst hKind
    cases hSpells with
    | string hBody =>
      refine ⟨_, hBody, ?_⟩
      rw [hWord, Word.ofSpelling_string]
  · rw [hWord] at hKind
    cases hKind

theorem MeetsString.word_eq {source : String} {s : Session} {body : List Char}
    (h : MeetsString source s body) {t : Token} (hOutcome : s.scanner.pull.outcome = .ok t) :
    t.toWord = ⟨.string, String.ofList (Escape.encode body)⟩ := by
  obtain ⟨t', hOutcome', hWord⟩ := h.outcome_pull
  rw [hOutcome] at hOutcome'
  cases hOutcome'
  exact hWord

/-- A program that is a string and nothing else. -/
theorem meetsString_alone {body : List Char} (h : '"' ∉ body) :
    MeetsString (String.ofList ('"' :: body ++ ['"']))
      (.ofScanner (.ofSource (String.ofList ('"' :: body ++ ['"'])) none {})) body where
  reachable := .opened none {}
  closed := h
  written := by
    have hText : programText (String.ofList ('"' :: body ++ ['"'])) =
        [] ++ ('"' :: body ++ '"' :: ['\n']) := by
      simp [programText]
    refine ⟨[], ['\n'], hText, layoutEnds_iff.mpr ?_⟩
    rw [hText]
    rfl

theorem exists_string_iff (lexeme : String) :
    (∃ source s, ∃ t : Token, Session.Reachable source s ∧ s.scanner.pull.outcome = .ok t ∧
      t.kind = .string ∧ t.lexeme = lexeme) ↔
      '"' ∉ lexeme.toList ∧ Escape.IsBalanced lexeme.toList := by
  rw [Escape.isBalanced_iff_decode]
  constructor
  · rintro ⟨source, s, t, -, hOutcome, hKind, rfl⟩
    obtain ⟨body, hBody, hLexeme⟩ := exists_body_of_pull hOutcome hKind
    rw [hLexeme, String.toList_ofList, Escape.quote_mem_encode_iff]
    exact ⟨hBody, body, Escape.decode_encode body⟩
  · rintro ⟨hQuote, body, hDecode⟩
    rw [← Escape.encode_of_decode hDecode, Escape.quote_mem_encode_iff] at hQuote
    obtain ⟨t, hOutcome, hWord⟩ := (meetsString_alone hQuote).outcome_pull
    refine ⟨_, _, t, .opened none {}, hOutcome, congrArg Word.kind hWord, ?_⟩
    rw [hWord, Escape.encode_of_decode hDecode, String.ofList_toList]

/-- The lexeme of every string in every program: what it is, that the body can be read off it, and
which texts are lexemes. -/
theorem lexemes_encode_bodies :
    (∀ source s body, MeetsString source s body →
      ∃ t : Token, s.scanner.pull.outcome = .ok t ∧ t.kind = .string ∧
        t.lexeme = String.ofList
          (body.flatMap fun c => if c = '%' ∨ c = '\\' then ['\\', c] else [c]) ∧
        Escape.decode t.lexeme.toList = some body) ∧
    (∀ source s body source' s' body', MeetsString source s body → MeetsString source' s' body' →
      ∀ t t' : Token, s.scanner.pull.outcome = .ok t → s'.scanner.pull.outcome = .ok t' →
        (t.lexeme = t'.lexeme ↔ body = body')) ∧
    ∀ lexeme : String,
      (∃ source s, ∃ t : Token, Session.Reachable source s ∧ s.scanner.pull.outcome = .ok t ∧
        t.kind = .string ∧ t.lexeme = lexeme) ↔
        '"' ∉ lexeme.toList ∧ Escape.IsBalanced lexeme.toList := by
  refine ⟨?_, ?_, exists_string_iff⟩
  · intro source s body h
    obtain ⟨t, hOutcome, hWord⟩ := h.outcome_pull
    have hLexeme : t.lexeme = String.ofList (Escape.encode body) := congrArg Word.lexeme hWord
    refine ⟨t, hOutcome, congrArg Word.kind hWord, ?_, ?_⟩
    · rw [hLexeme, Escape.encode_eq]
    · rw [hLexeme, String.toList_ofList, Escape.decode_encode]
  · intro source s body source' s' body' h h' t t' hOutcome hOutcome'
    rw [h.word_eq hOutcome, h'.word_eq hOutcome', String.ofList_inj, Escape.encode_inj]

/-- Behind a keyword a body of a backslash and a percent sign, which is not taken for an escape, and
elsewhere a percent sign alone. -/
theorem lexemes_encode_bodies_of_marks :
    ∃ t t' : Token,
      ((Session.ofScanner (.ofSource "PRINT \"\\%\"" none {})).perform
          .next).session.scanner.pull.outcome = .ok t ∧
        t.lexeme = "\\\\\\%" ∧ Escape.decode t.lexeme.toList = some ['\\', '%'] ∧
      (Session.ofScanner (.ofSource "\"%\"" none {})).scanner.pull.outcome = .ok t' ∧
        t'.lexeme = "\\%" ∧ (t.lexeme = t'.lexeme ↔ ['\\', '%'] = ['%']) := by
  have hMarks : MeetsString "PRINT \"\\%\""
      ((Session.ofScanner (.ofSource "PRINT \"\\%\"" none {})).perform .next).session
        ['\\', '%'] :=
    ⟨.perform (.opened none {}) .next, by decide, "PRINT ".toList, ['\n'], by cbv,
      layoutEnds_iff.mpr (by cbv)⟩
  have hPercent : MeetsString "\"%\"" (Session.ofScanner (.ofSource "\"%\"" none {})) ['%'] :=
    ⟨.opened none {}, by decide, [], ['\n'], by cbv, layoutEnds_iff.mpr (by cbv)⟩
  obtain ⟨hLexeme, hEqual, -⟩ := lexemes_encode_bodies
  obtain ⟨t, hOutcome, -, hText, hBody⟩ := hLexeme _ _ _ hMarks
  obtain ⟨t', hOutcome', -, hText', -⟩ := hLexeme _ _ _ hPercent
  refine ⟨t, t', hOutcome, hText.trans (by decide), hBody, hOutcome', hText'.trans (by decide), ?_⟩
  exact hEqual _ _ _ _ _ _ hMarks hPercent t t' hOutcome hOutcome'

end TeenyLexer
