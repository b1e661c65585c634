import Mathlib
import TeenyLexer.Proofs.Scanner.Concatenation
import TeenyLexer.Proofs.Scanner.Diagnosis
import TeenyLexer.Proofs.Source.Growth

/-! # One character of lookahead

An answer of the scanner is settled by the characters that it takes and by at most one more. Two
programs that agree so far get the same answer, however they go on. Strings that are never closed
are left out: for these the whole program has to be looked at.
-/

namespace TeenyLexer

open Reading

/-- What the first buffer shows up to an offset, that offset included, the second one shows too. -/
def AgreeThrough (buffer buffer' : List Char) (last : Nat) : Prop :=
  ∀ i ≤ last, ∀ c, buffer[i]? = some c → buffer'[i]? = some c

/-- The last offset that an answer depends on: the one behind a token, that of a character that
starts nothing, and the one behind an exclamation mark. -/
inductive SettledAt (buffer : List Char) (p : Pull) : Nat → Prop
  | token {t : Token} (outcome : p.outcome = .ok t) (inside : t.kind ≠ .endOfInput) :
      SettledAt buffer p p.scanner.cursor.position
  | unexpectedCharacter {shown : Excerpt} {location : Location} {sourceLine : Option String}
      (outcome : p.outcome = .error ⟨.unexpectedCharacter shown, some location, sourceLine⟩) :
      SettledAt buffer p (Place.offset buffer location)
  | malformedOperator {shown : Excerpt} {location : Location} {sourceLine : Option String}
      (outcome : p.outcome = .error ⟨.malformedOperator shown, some location, sourceLine⟩) :
      SettledAt buffer p (Place.offset buffer location + 1)

def Location.SamePlace (l l' : Location) : Prop :=
  l.line = l'.line ∧ l.column = l'.column

/-- Outcomes that differ in the names of the files at most, and in the source lines of a failure if
the rests of these lines differ. -/
inductive AnswersAlike (buffer buffer' : List Char) :
    Except Diagnostic Token → Except Diagnostic Token → Prop
  | token {t t' : Token} (word : t.toWord = t'.toWord)
      (place : t.location.SamePlace t'.location) : AnswersAlike buffer buffer' (.ok t) (.ok t')
  | failure {fault : Fault} {location location' : Location} {shown shown' : Option String}
      (place : location.SamePlace location')
      (sourceLine : (buffer.drop (Place.offset buffer location)).takeWhile (· ≠ '\n') =
        (buffer'.drop (Place.offset buffer location)).takeWhile (· ≠ '\n') → shown = shown') :
      AnswersAlike buffer buffer' (.error ⟨fault, some location, shown⟩)
        (.error ⟨fault, some location', shown'⟩)

theorem Place.samePlace_location (filename filename' : String) (passed : List Char) :
    (location filename passed).SamePlace (location filename' passed) :=
  ⟨rfl, rfl⟩

theorem AgreeThrough.exists_append {before after buffer' : List Char}
    (h : AgreeThrough (before ++ after) buffer' before.length) :
    ∃ after', buffer' = before ++ after' ∧ ∀ c ∈ after.head?, c ∈ after'.head? := by
  have hPrefix : before <+: buffer' := by
    apply List.prefix_iff_getElem?.mpr
    intro i hi
    apply h i hi.le
    rw [List.getElem?_append_left hi, List.getElem?_eq_getElem hi]
  obtain ⟨after', rfl⟩ := hPrefix
  refine ⟨after', rfl, ?_⟩
  intro c hc
  have hNext : (before ++ after)[before.length]? = some c := by
    rwa [List.getElem?_append_right le_rfl, Nat.sub_self, ← List.head?_eq_getElem?]
  have hNext' := h before.length le_rfl c hNext
  rwa [List.getElem?_append_right le_rfl, Nat.sub_self, ← List.head?_eq_getElem?] at hNext'

/-- Before a fault stand blanks only, since a comment goes on to a newline or to the end. -/
theorem exists_blanks_of_fault {text : List Char} {fault : Fault}
    (h : ofText (text.drop (layout text).length) = .fault fault) :
    ∃ blanks c more, text = blanks ++ c :: more ∧ ofText (c :: more) = .fault fault ∧
      ∀ more', layout (blanks ++ c :: more') = blanks := by
  have hSplit : text.takeWhile isBlank ++ text.dropWhile isBlank = text :=
    List.takeWhile_append_dropWhile
  cases hRest : text.dropWhile isBlank with
  | nil =>
    rw [hRest] at hSplit
    have hDrop : text.drop (layout text).length = [] := by
      apply drop_layout
      rw [List.append_nil, layout, hRest]
      exact hSplit
    rw [hDrop] at h
    cases h
  | cons c more =>
    rw [hRest] at hSplit
    by_cases hSign : c = '#'
    · have hDrop : text.drop (layout text).length = more.dropWhile (· ≠ '\n') := by
        apply drop_layout
        rw [layout, hRest, comment, if_pos hSign, List.append_assoc, List.cons_append,
          List.takeWhile_append_dropWhile, hSplit]
      rw [hDrop] at h
      cases hBehind : more.dropWhile (· ≠ '\n') with
      | nil =>
        rw [hBehind] at h
        cases h
      | cons d after =>
        have hNewline : d = '\n' := by
          have hHead := List.head?_dropWhile_not (· ≠ '\n') more
          rw [hBehind] at hHead
          simpa using hHead
        rw [hBehind, hNewline] at h
        cases h
    · have hLayout : layout text = text.takeWhile isBlank := by
        rw [layout, hRest, comment, if_neg hSign, List.append_nil]
      have hBlank : isBlank c = false := by
        have hHead := List.head?_dropWhile_not isBlank text
        simpa [hRest] using hHead
      have hDrop : text.drop (layout text).length = c :: more := by
        apply drop_layout
        rw [hLayout, hSplit]
      refine ⟨text.takeWhile isBlank, c, more, hSplit.symm, ?_, ?_⟩
      · rw [← hDrop, h]
      · intro more'
        rw [layout_append (fun b hb => List.mem_takeWhile_imp hb) (by simpa using hBlank), comment,
          if_neg hSign, List.append_nil]

theorem Terminated.ne_nil_of_exclamation {before more : List Char} {c : Char}
    (h : Terminated (before ++ c :: more)) : c = '!' → more ≠ [] := by
  rintro rfl rfl
  exact absurd (h.of_append '!' rfl) (by decide)

namespace Scanner

variable {s s' : Scanner} {passed text buffer' : List Char}

theorem position_pull_of_fault {fault : Fault} (hCursor : s.cursor = .between passed text)
    (hRead : ofText (text.drop (layout text).length) = .fault fault)
    (hClosed : fault ≠ .unterminatedString) :
    s.pull.scanner.cursor.position = (passed ++ layout text).length := by
  have hRest : s.cursor.skipLayout.rest = text.drop (layout text).length := by
    rw [hCursor, Cursor.rest_skipLayout, Cursor.rest_between]
  have hFault : ofText s.cursor.skipLayout.rest = .fault fault := by rw [hRest, hRead]
  rw [pull_of_fault hFault, extent_fault hClosed, hCursor, Cursor.skipLayout_between]
  rfl

/-- The token ends where the next character does not make it grow. -/
theorem answersAlike_of_token {t : Token} (hCursor : s.cursor = .between passed text)
    (hCursor' : s'.cursor = .atOffset buffer' passed.length) (hText : Terminated text)
    (hOutcome : s.pull.outcome = .ok t) (hKind : t.kind ≠ .endOfInput)
    (hAgree : AgreeThrough (passed ++ text) buffer' s.pull.scanner.cursor.position) :
    AnswersAlike (passed ++ text) buffer' s.pull.outcome s'.pull.outcome ∧
      s'.pull.scanner.cursor.position = s.pull.scanner.cursor.position := by
  rcases hText.first_cases with rfl | ⟨fault, hRead⟩ | ⟨piece, rest, rfl, hGap, hWord⟩
  · rw [outcome_pull_of_nil hCursor] at hOutcome
    cases hOutcome
    exact absurd rfl hKind
  · rw [outcome_pull_of_fault hCursor hRead] at hOutcome
    cases hOutcome
  · obtain ⟨hToken, hScanner⟩ := pull_of_piece hCursor hGap hWord
    have hStop : s.pull.scanner.cursor.position = (passed ++ piece.text).length := by
      rw [hScanner]
      rfl
    have hSplit : passed ++ (piece.gap ++ (piece.spelling ++ rest)) =
        (passed ++ piece.text) ++ rest := by
      simp only [Piece.text, List.append_assoc]
    rw [hStop, hSplit] at hAgree
    obtain ⟨rest', rfl, hNext⟩ := hAgree.exists_append
    have hWord' : IsLongestSpelling (piece.spelling ++ rest') piece.kind piece.spelling := by
      apply hWord.congr
      intro d hd
      cases rest with
      | cons c rest =>
        rw [Option.mem_unique hd (hNext c rfl)]
        exact .inl rfl
      | nil =>
        -- Nothing is left of the program, so the word is the newline that has been added.
        rw [List.append_nil] at hText
        have hLast := List.getLast?_eq_some_getLast hWord.spells.ne_nil
        rw [hText.of_append _ hLast] at hLast
        rw [(hWord.spells.eq_newline hLast).2]
        exact .inr (not_growsBy_newline d)
    have hBetween : s'.cursor = .between passed (piece.gap ++ (piece.spelling ++ rest')) := by
      rw [hCursor', Cursor.between, Piece.text]
      simp only [List.append_assoc]
    obtain ⟨hToken', hScanner'⟩ := pull_of_piece hBetween hGap hWord'
    constructor
    · rw [hToken, hToken']
      exact .token rfl (Place.samePlace_location _ _ _)
    · rw [hScanner, hScanner']
      rfl

theorem answersAlike_of_fault {fault : Fault} {blanks more more' : List Char} {c : Char}
    (hCursor : s.cursor = .between passed (blanks ++ c :: more))
    (hCursor' : s'.cursor = .between passed (blanks ++ c :: more'))
    (hLayout : ∀ rest, layout (blanks ++ c :: rest) = blanks)
    (hFault : ofText (c :: more) = .fault fault) (hFault' : ofText (c :: more') = .fault fault)
    (hClosed : fault ≠ .unterminatedString) :
    AnswersAlike (passed ++ (blanks ++ c :: more)) (passed ++ (blanks ++ c :: more'))
        s.pull.outcome s'.pull.outcome ∧
      s'.pull.scanner.cursor.position = s.pull.scanner.cursor.position := by
  have hDrop : ∀ rest, (blanks ++ c :: rest).drop (layout (blanks ++ c :: rest)).length =
      c :: rest := by
    intro rest
    rw [hLayout, List.drop_left]
  have hRead := (congrArg ofText (hDrop more)).trans hFault
  have hRead' := (congrArg ofText (hDrop more')).trans hFault'
  constructor
  · rw [outcome_pull_of_fault hCursor hRead, outcome_pull_of_fault hCursor' hRead', hDrop, hDrop,
      hLayout, hLayout]
    apply AnswersAlike.failure (Place.samePlace_location _ _ _)
    rw [← List.append_assoc, ← List.append_assoc, Place.offset_append, List.drop_left,
      List.drop_left]
    intro hLine
    rw [hLine]
  · rw [position_pull_of_fault hCursor hRead hClosed, position_pull_of_fault hCursor' hRead' hClosed,
      hLayout, hLayout]

theorem answersAlike_of_unexpectedCharacter {shown : Excerpt}
    (hCursor : s.cursor = .between passed text)
    (hCursor' : s'.cursor = .atOffset buffer' passed.length) (hText : Terminated text)
    (hRead : ofText (text.drop (layout text).length) = .fault (.unexpectedCharacter shown))
    (hAgree : AgreeThrough (passed ++ text) buffer' (passed ++ layout text).length) :
    AnswersAlike (passed ++ text) buffer' s.pull.outcome s'.pull.outcome ∧
      s'.pull.scanner.cursor.position = s.pull.scanner.cursor.position := by
  obtain ⟨blanks, c, more, rfl, hFault, hLayout⟩ := exists_blanks_of_fault hRead
  rw [hLayout, ← List.append_assoc] at hAgree
  obtain ⟨after', rfl, hNext⟩ := hAgree.exists_append
  obtain ⟨more', rfl⟩ := List.head?_eq_some_iff.mp (hNext c rfl)
  rcases (ofText_cons_eq_fault_iff hText.ne_nil_of_exclamation).mp hFault with
    ⟨-, -, hOther⟩ | ⟨x, -, -, -, hOther⟩ | ⟨hStarts, hShown⟩
  · cases hOther
  · cases hOther
  · cases hShown
    rw [List.append_assoc] at hCursor' ⊢
    exact answersAlike_of_fault hCursor hCursor' hLayout hFault
      (ofText_of_startsNothing hStarts more') (by simp)

theorem answersAlike_of_malformedOperator {shown : Excerpt}
    (hCursor : s.cursor = .between passed text)
    (hCursor' : s'.cursor = .atOffset buffer' passed.length) (hText : Terminated text)
    (hRead : ofText (text.drop (layout text).length) = .fault (.malformedOperator shown))
    (hAgree : AgreeThrough (passed ++ text) buffer' ((passed ++ layout text).length + 1)) :
    AnswersAlike (passed ++ text) buffer' s.pull.outcome s'.pull.outcome ∧
      s'.pull.scanner.cursor.position = s.pull.scanner.cursor.position := by
  obtain ⟨blanks, c, more, rfl, hFault, hLayout⟩ := exists_blanks_of_fault hRead
  rcases (ofText_cons_eq_fault_iff hText.ne_nil_of_exclamation).mp hFault with
    ⟨-, -, hOther⟩ | ⟨x, rfl, hHead, hEquals, hShown⟩ | ⟨-, hOther⟩
  · cases hOther
  · obtain ⟨more, rfl⟩ := List.head?_eq_some_iff.mp hHead
    have hSplit : ∀ rest,
        passed ++ (blanks ++ '!' :: rest) = (passed ++ blanks ++ ['!']) ++ rest := by
      simp
    have hLength : (passed ++ blanks).length + 1 = (passed ++ blanks ++ ['!']).length := by
      simp [Nat.add_assoc]
    rw [hLayout, hLength, hSplit] at hAgree
    obtain ⟨after', rfl, hNext⟩ := hAgree.exists_append
    obtain ⟨more', rfl⟩ := List.head?_eq_some_iff.mp (hNext x rfl)
    have hFault' : ofText ('!' :: x :: more') = .fault (.malformedOperator shown) := by
      apply (ofText_cons_eq_fault_iff fun _ => List.cons_ne_nil x more').mpr
      exact .inr (.inl ⟨x, rfl, rfl, hEquals, hShown⟩)
    rw [← hSplit] at hCursor' ⊢
    exact answersAlike_of_fault hCursor hCursor' hLayout hFault hFault' (by simp)
  · cases hOther

theorem reads_of_outcome_pull {fault : Fault} {location : Location} {shown : Option String}
    (hCursor : s.cursor = .between passed text)
    (hOutcome : s.pull.outcome = .error ⟨fault, some location, shown⟩) :
    ofText (text.drop (layout text).length) = .fault fault ∧
      Place.offset (passed ++ text) location = (passed ++ layout text).length := by
  cases hRead : ofText (text.drop (layout text).length) with
  | word kind spelling =>
    rw [outcome_pull_of_word hCursor hRead] at hOutcome
    cases hOutcome
  | endOfInput =>
    rw [outcome_pull_of_endOfInput hCursor hRead] at hOutcome
    cases hOutcome
  | fault other =>
    rw [outcome_pull_of_fault hCursor hRead] at hOutcome
    cases hOutcome
    have hSplit : passed ++ text = (passed ++ layout text) ++ text.drop (layout text).length := by
      rw [List.append_assoc, layout_append_drop]
    rw [hSplit, Place.offset_append]
    exact ⟨rfl, rfl⟩

theorem rest_ne_nil_of_settledAt {buffer : List Char} {last : Nat}
    (h : SettledAt buffer s.pull last) : s.cursor.rest ≠ [] := by
  intro hRest
  have hEnd := outcome_pull_of_rest_eq_nil hRest
  cases h with
  | token hOutcome hKind =>
    rw [hEnd] at hOutcome
    cases hOutcome
    exact hKind rfl
  | unexpectedCharacter hOutcome =>
    rw [hEnd] at hOutcome
    cases hOutcome
  | malformedOperator hOutcome =>
    rw [hEnd] at hOutcome
    cases hOutcome

end Scanner

/-- Wherever two programs are scanned from one position on, the first answer settles the other when
they agree through the offset on which it depends. -/
theorem answersAlike_of_agreeThrough {source source' : String} {s s' : Session}
    (h : s.Reachable source) (h' : s'.Reachable source')
    (hPosition : s'.scanner.cursor.position = s.scanner.cursor.position) {last : Nat}
    (hSettled : SettledAt (programText source) s.scanner.pull last)
    (hAgree : AgreeThrough (programText source) (programText source') last) :
    AnswersAlike (programText source) (programText source') s.scanner.pull.outcome
        s'.scanner.pull.outcome ∧
      s'.scanner.pull.scanner.cursor.position = s.scanner.pull.scanner.cursor.position := by
  have hRest := Scanner.rest_ne_nil_of_settledAt hSettled
  have hCursor := h.cursor_eq
  have hCursor' := h'.cursor_eq
  have hText := terminated_programText source
  rw [hPosition] at hCursor'
  generalize programText source = buffer at hCursor hText hSettled hAgree ⊢
  generalize s.scanner.cursor.position = offset at hCursor hCursor'
  have hInside : offset ≤ buffer.length := by
    rw [hCursor] at hRest
    exact (Nat.lt_of_not_le (List.drop_eq_nil_iff.not.mp hRest)).le
  have hSplit : buffer = buffer.take offset ++ buffer.drop offset :=
    (List.take_append_drop offset buffer).symm
  have hLength : (buffer.take offset).length = offset := List.length_take_of_le hInside
  have hBehind := hText.drop offset
  rw [Cursor.atOffset_eq_between hInside] at hCursor
  rw [← hLength] at hCursor'
  generalize buffer.take offset = passed at hCursor hCursor' hSplit
  generalize buffer.drop offset = text at hCursor hSplit hBehind
  subst hSplit
  cases hSettled with
  | token hOutcome hKind =>
    exact Scanner.answersAlike_of_token hCursor hCursor' hBehind hOutcome hKind hAgree
  | unexpectedCharacter hOutcome =>
    obtain ⟨hRead, hOffset⟩ := Scanner.reads_of_outcome_pull hCursor hOutcome
    rw [hOffset] at hAgree
    exact Scanner.answersAlike_of_unexpectedCharacter hCursor hCursor' hBehind hRead hAgree
  | malformedOperator hOutcome =>
    obtain ⟨hRead, hOffset⟩ := Scanner.reads_of_outcome_pull hCursor hOutcome
    rw [hOffset] at hAgree
    exact Scanner.answersAlike_of_malformedOperator hCursor hCursor' hBehind hRead hAgree

/-- The sign in front of a letter is settled by that letter. Behind it one program leaves a string
open and the other one goes on with a character that starts nothing. -/
theorem answersAlike_behind_less :
    SettledAt (programText "a <b\"")
        ((Session.ofScanner (.ofSource "a <b\"" none {})).perform .next).session.scanner.pull 3 ∧
      AgreeThrough (programText "a <b\"") (programText "a <b@") 3 ∧
      AnswersAlike (programText "a <b\"") (programText "a <b@")
        ((Session.ofScanner (.ofSource "a <b\"" none {})).perform .next).session.scanner.pull.outcome
        ((Session.ofScanner (.ofSource "a <b@" (some "f") {})).perform
          (.advance 1)).session.scanner.pull.outcome := by
  have hSettled : SettledAt (programText "a <b\"")
      ((Session.ofScanner (.ofSource "a <b\"" none {})).perform .next).session.scanner.pull 3 := by
    have hOutcome : ((Session.ofScanner (.ofSource "a <b\"" none {})).perform
        .next).session.scanner.pull.outcome =
          .ok ⟨⟨.operator .less, "<"⟩, ⟨"<input>", 1, 3⟩⟩ := by cbv
    exact .token hOutcome (by decide)
  have hAgree : AgreeThrough (programText "a <b\"") (programText "a <b@") 3 := by
    have hSame : ∀ i ≤ 3, (programText "a <b\"")[i]? = (programText "a <b@")[i]? := by decide
    intro i hi c hc
    rw [← hSame i hi, hc]
  refine ⟨hSettled, hAgree, ?_⟩
  have hReached : Session.Reachable "a <b\""
      ((Session.ofScanner (.ofSource "a <b\"" none {})).perform .next).session :=
    .perform (.opened none {}) .next
  have hReached' : Session.Reachable "a <b@"
      ((Session.ofScanner (.ofSource "a <b@" (some "f") {})).perform (.advance 1)).session :=
    .perform (.opened (some "f") {}) (.advance 1)
  exact (answersAlike_of_agreeThrough hReached hReached' (by cbv) hSettled hAgree).1

end TeenyLexer
