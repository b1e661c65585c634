import Mathlib
import TeenyLexer.Proofs.Rendering.Insertion
import TeenyLexer.Proofs.Session.Progress

/-! # The end of the input

Only the position tells whether the input has ended. The character that is seen past the end may
stand in a program as well, and there it ends nothing. A session that has come to the end stays
there, whatever it does. In a program that can be scanned, that character stands in strings and
comments only.
-/

namespace TeenyLexer

open Reading

/-- The token for the end of a program, on the empty line behind the last newline. -/
structure Token.IsEndOf (t : Token) (source : String) : Prop where
  kind : t.kind = .endOfInput
  lexeme : t.lexeme = String.ofList [nul]
  line : t.location.line = 1 + (programText source).count '\n'
  column : t.location.column = 1

/-- A character behind a number sign on the same line, neither of them on a span, nor anything
between them. -/
def InComment (spans : List Span) (text : List Char) (i : Nat) : Prop :=
  ∃ sign < i, text[sign]? = some '#' ∧
    ∀ j, sign ≤ j → j ≤ i → covered spans j = false ∧ text[j]? ≠ some '\n'

/-- The tokens of a program that can be scanned. The end of the input is the last of them and no
other, and nothing but strings and comments holds the character seen past the end. -/
structure EndsOnce (source : String) (tokens : List Token) : Prop where
  last : ∃ (before : List Token) (newline last : Token), tokens = before ++ [newline, last] ∧
    (∀ t ∈ before, t.kind ≠ .endOfInput) ∧ newline.kind = .newline ∧ last.IsEndOf source
  enclosed : ∀ i, source.toList[i]? = some nul →
    covered (stringSpans (programText source) tokens) i = true ∨
      InComment (spansOf (programText source) tokens) (programText source) i

theorem Token.isEndOf_endOfInput (source filename : String) :
    IsEndOf ⟨.endOfInput, Place.location filename (programText source)⟩ source where
  kind := rfl
  lexeme := rfl
  line := by
    simp only [Place.location, Place.line]
    omega
  column := by
    simp only [Place.location, Place.column, programText, Place.lastLine_append_newline]
    rfl

theorem startsNothing_nul : StartsNothing nul := by
  constructor <;> decide

/-- What begins no word and cannot go on in a name stands in no word but a string. -/
theorem Spells.eq_string_of_mem {kind : Kind} {spelling : List Char} {c : Char}
    (h : Spells kind spelling) (hMem : c ∈ spelling) (hStarts : StartsNothing c)
    (hAlphanumeric : Text.isAlphanumeric c = false) : kind = .string := by
  obtain ⟨first, more, rfl⟩ := List.exists_cons_of_ne_nil h.ne_nil
  rw [spells_cons_iff] at h
  rcases List.mem_cons.mp hMem with rfl | hMore
  · exact absurd h (not_spellsFrom_of_startsNothing hStarts)
  · cases h with
    | string => rfl
    | single | alone => cases hMore
    | joined | notEquals =>
      obtain rfl := List.mem_singleton.mp hMore
      cases hStarts.joinable
    | number _ hDigits =>
      have hNumber := hDigits c hMore
      rw [hStarts.number] at hNumber
      cases hNumber
    | name _ hTail =>
      rw [hTail c hMore] at hAlphanumeric
      cases hAlphanumeric

/-- A covered character that stands in no word but a string is covered by one. -/
theorem FallsInto.covered_stringSpans {text : List Char} {pieces : List Piece}
    (h : FallsInto text pieces) (filename : String) {i : Nat} {c : Char} (hc : text[i]? = some c)
    (hString : ∀ kind spelling, Spells kind spelling → c ∈ spelling → kind = .string)
    (hCovered : covered (spansOf text (tokensOf filename [] pieces)) i = true) :
    covered (stringSpans text (tokensOf filename [] pieces)) i = true := by
  rw [spansOf, beforeEnd_tokensOf h, covered_eq_true_iff] at hCovered
  obtain ⟨span, hSpan, hFrom, hTo⟩ := hCovered
  obtain ⟨t, ht, rfl⟩ := List.mem_map.mp hSpan
  have hKind : t.kind = .string := by
    obtain ⟨before, after, hText, hLocation, -⟩ := exists_append_of_mem_placed h ht
    obtain ⟨_, piece, _, rfl, hWord, -⟩ := exists_split_of_mem_placed ht
    have hSpells := h.spells (List.mem_append_right _ List.mem_cons_self)
    rw [List.nil_append] at hText
    rw [hText, Token.span_of_append hLocation] at hFrom hTo
    obtain ⟨k, rfl⟩ := Nat.exists_eq_add_of_le hFrom
    rw [hText, List.getElem?_append_right hFrom, Nat.add_sub_cancel_left,
      List.getElem?_append_left (Nat.lt_of_add_lt_add_left hTo)] at hc
    have hMem := List.mem_of_getElem? hc
    rw [hWord, Piece.spelling_word hSpells] at hMem
    rw [hWord, Piece.kind_word]
    exact hString _ _ hSpells hMem
  rw [covered_eq_true_iff]
  refine ⟨t.span text, List.mem_map_of_mem (List.mem_filter.mpr ⟨?_, ?_⟩), hFrom, hTo⟩
  · exact List.mem_append_left _ ht
  · exact decide_eq_true hKind

theorem InLayout.inComment {spans : List Span} {text : List Char} {i : Nat}
    (h : InLayout 0 spans text i) (hNul : text[i]? = some nul) : InComment spans text i := by
  rcases h with ⟨c, hc, hBlank⟩ | ⟨sign, hSign, hMark, hOutside⟩
  · rw [hNul] at hc
    cases hc
    cases hBlank
  · refine ⟨sign, lt_of_le_of_ne hSign ?_, hMark, fun j hj hj' => ?_⟩
    · rintro rfl
      rw [hNul] at hMark
      cases hMark
    · simpa using hOutside j hj hj'

theorem exists_newline_before_end {source : String} {pieces : List Piece}
    (h : FallsInto (programText source) pieces) (filename : String) :
    ∃ (before : List Token) (newline last : Token),
      tokensOf filename [] pieces = before ++ [newline, last] ∧
        (∀ t ∈ before, t.kind ≠ .endOfInput) ∧ newline.kind = .newline ∧ last.IsEndOf source := by
  have hNonempty : programText source ≠ [] := by simp [programText]
  obtain ⟨before, gap, rfl⟩ := h.last_newline (terminated_programText source) hNonempty
  refine ⟨placed filename [] before,
    ⟨Piece.word ⟨gap, .newline, ['\n']⟩,
      Place.location filename (before.flatMap Piece.text ++ gap)⟩,
    ⟨.endOfInput, Place.location filename (programText source)⟩, ?_, ?_, rfl, ?_⟩
  · conv => rhs; rw [h.eq_flatMap]
    rw [tokensOf, placed_append, placed, placed, endToken, List.append_assoc]
    rfl
  · intro t ht
    obtain ⟨_, piece, _, rfl, hWord, -⟩ := exists_split_of_mem_placed ht
    rw [hWord]
    apply Piece.kind_word_ne_endOfInput
    exact h.spells (List.mem_append_left _ (List.mem_append_right _ List.mem_cons_self))
  · exact Token.isEndOf_endOfInput source filename

theorem FallsInto.nul_enclosed {text : List Char} {pieces : List Piece} (h : FallsInto text pieces)
    (filename : String) {i : Nat} (hNul : text[i]? = some nul) :
    covered (stringSpans text (tokensOf filename [] pieces)) i = true ∨
      InComment (spansOf text (tokensOf filename [] pieces)) text i := by
  cases hCovered : covered (spansOf text (tokensOf filename [] pieces)) i with
  | true =>
    left
    apply h.covered_stringSpans filename hNul _ hCovered
    intro kind spelling hSpells hMem
    exact hSpells.eq_string_of_mem hMem startsNothing_nul (by decide)
  | false =>
    right
    have hInside : i < text.length := (List.getElem?_eq_some_iff.mp hNul).1
    rw [spansOf_tokensOf h] at hCovered ⊢
    rw [← Nat.zero_add i] at hCovered
    exact (inLayout_of_not_covered h hInside hCovered).inComment hNul

theorem endsOnce_of_fallsInto {source : String} {pieces : List Piece}
    (h : FallsInto (programText source) pieces) (filename : String) :
    EndsOnce source (tokensOf filename [] pieces) where
  last := exists_newline_before_end h filename
  enclosed := by
    intro i hi
    have hInside := (List.getElem?_eq_some_iff.mp hi).1
    apply h.nul_enclosed filename
    rw [programText, List.getElem?_append_left hInside, hi]

namespace Session

theorem Reachable.end_iff_position {source : String} {s : Session} (h : s.Reachable source) :
    (∃ t : Token, (s.perform .next).reply = .token t ∧ t.kind = .endOfInput) ↔
      (programText source).length ≤ s.scanner.cursor.position := by
  constructor
  · rintro ⟨t, hReply, hKind⟩
    by_contra hInside
    have hOutcome : s.scanner.pull.outcome = .ok t := by
      have hReply' := congrArg Reply.outcome? hReply
      exact Option.some.inj ((Reply.outcome?_replyOf _).symm.trans hReply')
    obtain ⟨hWord, -⟩ := Scanner.pull_of_inside h.cursor_eq (terminated_programText source)
      (Nat.not_le.mp hInside) hOutcome
    exact hWord hKind
  · intro hEnd
    exact ⟨_, congrArg replyOf (Scanner.outcome_pull_of_rest_eq_nil (h.rest_eq_nil hEnd)), rfl⟩

theorem eq_pull_of_mem_pulls {s : Session} (h : s.scanner.cursor.rest = []) {step : Step}
    {p : Pull} (hp : p ∈ s.pulls step) : p = s.scanner.pull := by
  have hLast := Scanner.isLast_of_endOfInput (Scanner.outcome_pull_of_rest_eq_nil h) rfl
  have hAll := s.pulls_subset step hp
  rw [Scanner.pulls_of_isLast hLast] at hAll
  exact List.mem_singleton.mp hAll

theorem reply_of_rest_eq_nil {s : Session} (h : s.scanner.cursor.rest = []) (step : Step) :
    (∀ t ∈ (s.perform step).reply.shown,
        t = ⟨.endOfInput, s.scanner.cursor.location s.scanner.filename⟩) ∧
      ∀ d, (s.perform step).reply ≠ .failure d := by
  have hOutcome := Scanner.outcome_pull_of_rest_eq_nil h
  constructor
  · intro t ht
    obtain ⟨p, hp, hShown⟩ := List.mem_filterMap.mp (shown_subset_delivered s step ht)
    rw [eq_pull_of_mem_pulls h hp, hOutcome] at hShown
    exact (Option.some.inj hShown).symm
  · intro d hFails
    obtain ⟨p, hp, hError⟩ := exists_pull_of_failed hFails
    rw [eq_pull_of_mem_pulls h hp, hOutcome] at hError
    cases hError

/-- Behind the end every step keeps the position there, and shows nothing but the end. -/
theorem Reachable.reply_of_mem_performAll {source : String} {s : Session} (h : s.Reachable source)
    (hEnd : (programText source).length ≤ s.scanner.cursor.position) {steps : List Step}
    {r : Response} (hr : r ∈ s.performAll steps) :
    (∀ t ∈ r.reply.shown, t.IsEndOf source) ∧ ∀ d, r.reply ≠ .failure d := by
  induction steps generalizing s with
  | nil => cases hr
  | cons step steps ih =>
    rcases List.mem_cons.mp hr with rfl | hr
    · obtain ⟨hShown, hFails⟩ := reply_of_rest_eq_nil (h.rest_eq_nil hEnd) step
      refine ⟨fun t ht => ?_, hFails⟩
      rw [hShown t ht, h.cursor_eq, Cursor.location_atOffset, List.take_of_length_le hEnd]
      exact Token.isEndOf_endOfInput source _
    · exact ih (h.perform step) (hEnd.trans (position_le_perform s step)) hr

/-- The end of the input in every state of every session, and in the scan of a whole program. -/
theorem end_of_input_by_position (source : String) :
    (∀ s : Session, s.Reachable source →
      ((∃ t : Token, (s.perform .next).reply = .token t ∧ t.kind = .endOfInput) ↔
        (programText source).length ≤ s.scanner.cursor.position) ∧
      ((programText source).length ≤ s.scanner.cursor.position →
        ∀ steps, ∀ r ∈ s.performAll steps,
          (∀ t ∈ r.reply.shown, t.IsEndOf source) ∧ ∀ d, r.reply ≠ .failure d)) ∧
    ∀ (filename : Option String) (settings : Settings) (tokens : List Token),
      tokenize source filename settings = .ok tokens → EndsOnce source tokens := by
  refine ⟨fun s h => ⟨h.end_iff_position, fun hEnd steps r => h.reply_of_mem_performAll hEnd⟩, ?_⟩
  intro filename settings tokens hTokens
  obtain ⟨pieces, hPieces, rfl⟩ := tokenize_eq_ok_iff.mp hTokens
  exact endsOnce_of_fallsInto hPieces _

/-- A null character in a string and one in a comment, in a session that has been advanced past the
end and goes on. -/
theorem end_of_input_behind_nulls :
    (∃ t : Token, (((ofScanner (.ofSource "\"\x00\"#\x00" none {})).after
        [.openIterator "i", .next, .next, .advance 2]).perform .next).reply = .token t ∧
      t.kind = .endOfInput) ∧
    (∀ r ∈ ((ofScanner (.ofSource "\"\x00\"#\x00" none {})).after
        [.openIterator "i", .next, .next, .advance 2]).performAll
          [.nextOf "i", .advance 1, .drain, .nextOf "i", .setFilename "f", .next],
      (∀ t ∈ r.reply.shown, t.IsEndOf "\"\x00\"#\x00") ∧ ∀ d, r.reply ≠ .failure d) ∧
    EndsOnce "\"\x00\"#\x00" [⟨⟨.string, "\x00"⟩, ⟨"<input>", 1, 1⟩⟩,
      ⟨⟨.newline, "\n"⟩, ⟨"<input>", 1, 6⟩⟩, ⟨.endOfInput, ⟨"<input>", 2, 1⟩⟩] := by
  obtain ⟨hSessions, hScan⟩ := end_of_input_by_position "\"\x00\"#\x00"
  obtain ⟨hIff, hEnded⟩ := hSessions ((ofScanner (.ofSource "\"\x00\"#\x00" none {})).after
    [.openIterator "i", .next, .next, .advance 2]) ((Reachable.opened none {}).after _)
  have hPosition : (programText "\"\x00\"#\x00").length ≤
      ((ofScanner (.ofSource "\"\x00\"#\x00" none {})).after
        [.openIterator "i", .next, .next, .advance 2]).scanner.cursor.position := by cbv
  exact ⟨hIff.mpr hPosition, hEnded hPosition _, hScan none {} _ (by cbv)⟩

end Session

end TeenyLexer
