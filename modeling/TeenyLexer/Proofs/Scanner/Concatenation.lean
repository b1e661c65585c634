import Mathlib
import TeenyLexer.Proofs.Scanner.Decomposition
import TeenyLexer.Proofs.Scanner.Stream
import TeenyLexer.Proofs.Source.Continuation

/-! # Programs one behind the other

A newline between two programs closes the first and leaves no trace in the second. The tokens of
the whole are those of the first before its end, and then those of the second moved down by the
lines of the first. A failure of the first is the failure of the whole, unless it is an open
string, which the second may close.
-/

namespace TeenyLexer

open Reading

def Location.down (n : Nat) (l : Location) : Location :=
  { l with line := l.line + n }

def Token.down (n : Nat) (t : Token) : Token :=
  { t with location := t.location.down n }

def Diagnostic.down (n : Nat) (d : Diagnostic) : Diagnostic :=
  { d with location := d.location.map (Location.down n) }

/-- The answer of a scan with all places moved down by some lines. -/
def movedDown (n : Nat) : Except Diagnostic (List Token) → Except Diagnostic (List Token)
  | .ok tokens => .ok (tokens.map (Token.down n))
  | .error d => .error (d.down n)

namespace Place

variable {before : List Char}

theorem lastLine_append_of_eq_nil (hBefore : lastLine before = []) (passed : List Char) :
    lastLine (before ++ passed) = lastLine passed := by
  induction passed using List.reverseRecOn with
  | nil => rw [List.append_nil, hBefore]; rfl
  | append_singleton passed c ih =>
    rw [← List.append_assoc]
    by_cases hc : c = '\n'
    · rw [hc, lastLine_append_newline, lastLine_append_newline]
    · rw [lastLine_append_singleton hc, lastLine_append_singleton hc, ih]

theorem location_append_of_eq_nil (hBefore : lastLine before = []) (filename : String)
    (passed : List Char) : location filename (before ++ passed) =
      (location filename passed).down (before.count '\n') := by
  have hLine : line (before ++ passed) = line passed + before.count '\n' := by
    simp only [line, List.count_append]
    omega
  rw [location, column, lastLine_append_of_eq_nil hBefore, hLine, Int.natCast_add]
  rfl

end Place

namespace Cursor

theorem sourceLine_between (passed text : List Char) :
    (between passed text).sourceLine = Place.lastLine passed ++ text.takeWhile (· ≠ '\n') := by
  rw [between, sourceLine_atOffset, Place.lineText, List.take_left, List.drop_left]

end Cursor

namespace Scanner

variable {s s' : Scanner} {passed text : List Char}

theorem outcome_pull_of_word {kind : Kind} {spelling : List Char}
    (hCursor : s.cursor = .between passed text)
    (hRead : ofText (text.drop (layout text).length) = .word kind spelling) :
    s.pull.outcome =
      .ok ⟨.ofSpelling kind spelling, Place.location s.filename (passed ++ layout text)⟩ := by
  have hSkip := Cursor.skipLayout_between passed text
  rw [← hCursor] at hSkip
  have hWord : ofText s.cursor.skipLayout.rest = .word kind spelling := by
    rw [hSkip, Cursor.rest_between, hRead]
  rw [pull_of_word hWord, hSkip, deliver, Cursor.location_between]

theorem outcome_pull_of_endOfInput (hCursor : s.cursor = .between passed text)
    (hRead : ofText (text.drop (layout text).length) = .endOfInput) :
    s.pull.outcome = .ok ⟨.endOfInput, Place.location s.filename (passed ++ layout text)⟩ := by
  have hSkip := Cursor.skipLayout_between passed text
  rw [← hCursor] at hSkip
  have hEnd : ofText s.cursor.skipLayout.rest = .endOfInput := by
    rw [hSkip, Cursor.rest_between, hRead]
  rw [pull_of_endOfInput hEnd, hSkip, deliver, Cursor.location_between]

theorem outcome_pull_of_fault {fault : Fault} (hCursor : s.cursor = .between passed text)
    (hRead : ofText (text.drop (layout text).length) = .fault fault) :
    s.pull.outcome = .error ⟨fault, some (Place.location s.filename (passed ++ layout text)),
      some (String.ofList (Place.lastLine (passed ++ layout text) ++
        (text.drop (layout text).length).takeWhile (· ≠ '\n')))⟩ := by
  have hSkip := Cursor.skipLayout_between passed text
  rw [← hCursor] at hSkip
  have hFault : ofText s.cursor.skipLayout.rest = .fault fault := by
    rw [hSkip, Cursor.rest_between, hRead]
  rw [pull_of_fault hFault, hSkip, fail, Cursor.location_between, Cursor.sourceLine_between]

theorem tokens_behind_lines {before : List Char} (hBefore : Place.lastLine before = [])
    (hName : s.filename = s'.filename) (hCursor : s.cursor = .between (before ++ passed) text)
    (hCursor' : s'.cursor = .between passed text) (hText : Terminated text) :
    s.tokens = movedDown (before.count '\n') s'.tokens := by
  induction hText using Terminated.induction generalizing s s' passed with
  | nil =>
    rw [tokens_of_endOfInput (outcome_pull_of_nil hCursor) rfl,
      tokens_of_endOfInput (outcome_pull_of_nil hCursor') rfl, hName,
      Place.location_append_of_eq_nil hBefore]
    rfl
  | fault text fault hText hRead =>
    rw [tokens_of_error (outcome_pull_of_fault hCursor hRead),
      tokens_of_error (outcome_pull_of_fault hCursor' hRead), hName, List.append_assoc,
      Place.location_append_of_eq_nil hBefore, Place.lastLine_append_of_eq_nil hBefore]
    rfl
  | piece piece rest hText hGap hWord ih =>
    obtain ⟨hOutcome, hScanner⟩ := pull_of_piece hCursor hGap hWord
    obtain ⟨hOutcome', hScanner'⟩ := pull_of_piece hCursor' hGap hWord
    have hKind := Piece.kind_word_ne_endOfInput hWord.spells
    have hMore : s.pull.scanner.tokens =
        movedDown (before.count '\n') s'.pull.scanner.tokens := by
      rw [hScanner, hScanner']
      refine ih hText.of_append.of_append hName ?_ rfl
      rw [List.append_assoc]
    rw [tokens_of_word hOutcome hKind, tokens_of_word hOutcome' hKind, hMore, hName,
      List.append_assoc, Place.location_append_of_eq_nil hBefore]
    cases s'.pull.scanner.tokens <;> rfl

/-- The induction is on the pieces of the first text. -/
theorem tokens_of_fallsInto_append {more : List Char} {pieces : List Piece}
    (hCursor : s.cursor = .between passed (text ++ more)) (hText : Terminated text)
    (hPieces : FallsInto text pieces) :
    s.tokens = (placed s.filename passed pieces ++ ·) <$>
      ({ s with cursor := .between (passed ++ text) more } : Scanner).tokens := by
  induction pieces generalizing s passed text with
  | nil =>
    rw [fallsInto_nil_iff.mp hPieces] at hCursor ⊢
    rw [List.append_nil, ← List.nil_append more, ← hCursor]
    cases s.tokens <;> rfl
  | cons piece pieces ih =>
    obtain ⟨rest, rfl, hGap, hWord, hMore⟩ := fallsInto_cons_iff.mp hPieces
    have hRest : Terminated rest := hText.of_append.of_append
    rw [List.append_assoc, List.append_assoc] at hCursor
    have hWord' := hWord.append hText.of_append more
    rw [List.append_assoc] at hWord'
    obtain ⟨hOutcome, hScanner⟩ := pull_of_piece hCursor hGap hWord'
    have hKind := Piece.kind_word_ne_endOfInput hWord.spells
    have hPassed : passed ++ piece.text ++ rest = passed ++ (piece.gap ++ (piece.spelling ++ rest)) := by
      rw [Piece.text, List.append_assoc, List.append_assoc]
    have hTail : s.pull.scanner.tokens = (placed s.filename (passed ++ piece.text) pieces ++ ·) <$>
        ({ s with cursor := .between (passed ++ piece.text ++ rest) more } : Scanner).tokens := by
      rw [hScanner]
      exact ih rfl hRest hMore
    rw [tokens_of_word hOutcome hKind, hTail, placed, hPassed]
    cases ({ s with
      cursor := .between (passed ++ (piece.gap ++ (piece.spelling ++ rest))) more } : Scanner).tokens <;>
      rfl

/-- A fault behind the layout stays where it is when the text goes on behind its newline. -/
theorem outcome_pull_of_fault_append {more : List Char} {fault : Fault}
    (hCursor : s.cursor = .between passed (text ++ more)) (hText : Terminated text)
    (hRead : ofText (text.drop (layout text).length) = .fault fault)
    (hClosed : fault ≠ .unterminatedString) :
    s.pull.outcome = .error ⟨fault, some (Place.location s.filename (passed ++ layout text)),
      some (String.ofList (Place.lastLine (passed ++ layout text) ++
        (text.drop (layout text).length).takeWhile (· ≠ '\n')))⟩ := by
  have hBehind : text.drop (layout text).length ≠ [] := by
    intro hNil
    rw [hNil] at hRead
    cases hRead
  have hNewline := (hText.drop _).newline_mem hBehind
  have hLayout := layout_append_of_newline_mem (List.mem_of_mem_drop hNewline) more
  have hDrop : (text ++ more).drop (layout (text ++ more)).length =
      text.drop (layout text).length ++ more := by
    rw [hLayout, List.drop_append_of_le_length (layout_isPrefix text).length_le]
  have hRead' : ofText ((text ++ more).drop (layout (text ++ more)).length) = .fault fault := by
    rw [hDrop, ofText_append (hText.drop _) hBehind (by simp [hRead, hClosed]), hRead]
  rw [outcome_pull_of_fault hCursor hRead', hDrop, hLayout,
    takeWhile_append_of_mem hNewline (by simp)]

/-- Failures do not look at what follows the newline, unless it may close a string. -/
theorem tokens_append_of_error {more : List Char} {d : Diagnostic}
    (hName : s.filename = s'.filename) (hCursor : s.cursor = .between passed text)
    (hCursor' : s'.cursor = .between passed (text ++ more)) (hText : Terminated text)
    (hError : s.tokens = .error d) (hClosed : d.fault ≠ .unterminatedString) :
    s'.tokens = .error d := by
  induction hText using Terminated.induction generalizing s s' passed with
  | nil =>
    rw [tokens_of_endOfInput (outcome_pull_of_nil hCursor) rfl] at hError
    cases hError
  | fault text fault hText hRead =>
    rw [tokens_of_error (outcome_pull_of_fault hCursor hRead)] at hError
    cases hError
    rw [tokens_of_error (outcome_pull_of_fault_append hCursor' hText hRead hClosed), hName]
  | piece piece rest hText hGap hWord ih =>
    have hWord' := hWord.append hText.of_append more
    rw [List.append_assoc] at hWord'
    rw [List.append_assoc, List.append_assoc] at hCursor'
    obtain ⟨hOutcome, hScanner⟩ := pull_of_piece hCursor hGap hWord
    obtain ⟨hOutcome', hScanner'⟩ := pull_of_piece hCursor' hGap hWord'
    have hKind := Piece.kind_word_ne_endOfInput hWord.spells
    have hNames : s.pull.scanner.filename = s'.pull.scanner.filename := by
      rw [hScanner, hScanner', hName]
    have hBehind : s.pull.scanner.cursor = .between (passed ++ piece.text) rest := by
      rw [hScanner]
    have hBehind' : s'.pull.scanner.cursor = .between (passed ++ piece.text) (rest ++ more) := by
      rw [hScanner']
    rw [tokens_eq_error_iff hOutcome hKind] at hError
    rw [tokens_eq_error_iff hOutcome' hKind]
    exact ih hText.of_append.of_append hNames hBehind hBehind' hError

end Scanner

theorem programText_lines (a b : String) :
    programText (a ++ "\n" ++ b) = programText a ++ programText b := by
  simp [programText]

theorem lastLine_programText (a : String) : Place.lastLine (programText a) = [] :=
  Place.lastLine_append_newline _

/-- Two programs with a newline between them, by what is known of each alone. -/
theorem tokenize_lines (filename : Option String) (settings : Settings) (a b : String) :
    (∀ before last, tokenize a filename settings = .ok (before ++ [last]) →
      last.toWord = .endOfInput ∧
      (∀ tokens, tokenize b filename settings = .ok tokens →
        tokenize (a ++ "\n" ++ b) filename settings =
          .ok (before ++ tokens.map (Token.down (a.toList.count '\n' + 1)))) ∧
      ∀ d, tokenize b filename settings = .error d →
        ∃ location, d.location = some location ∧
          tokenize (a ++ "\n" ++ b) filename settings =
            .error { d with location := some (location.down (a.toList.count '\n' + 1)) }) ∧
    ∀ d, tokenize a filename settings = .error d → d.fault ≠ .unterminatedString →
      tokenize (a ++ "\n" ++ b) filename settings = .error d := by
  have hStart : ∀ source : String, (Scanner.ofSource source filename settings).cursor =
      .between [] (programText source) := by
    intro source
    exact (Cursor.atOffset_zero _).symm
  have hWhole := hStart (a ++ "\n" ++ b)
  rw [programText_lines] at hWhole
  constructor
  · intro before last hTokens
    obtain ⟨pieces, hPieces, hSplit⟩ := tokenize_eq_ok_iff.mp hTokens
    obtain ⟨rfl, hLast⟩ := List.append_inj' hSplit rfl
    have hLines : (programText a).count '\n' = a.toList.count '\n' + 1 := by simp [programText]
    have hFirst := Scanner.tokens_of_fallsInto_append hWhole (terminated_programText a) hPieces
    have hSecond : ({ Scanner.ofSource (a ++ "\n" ++ b) filename settings with
        cursor := .between ([] ++ programText a) (programText b) } : Scanner).tokens =
          movedDown (a.toList.count '\n' + 1) (tokenize b filename settings) := by
      rw [← hLines]
      refine Scanner.tokens_behind_lines (lastLine_programText a) rfl ?_ (hStart b)
        (terminated_programText b)
      rw [List.append_nil, List.nil_append]
    rw [hSecond] at hFirst
    refine ⟨?_, ?_, ?_⟩
    · cases hLast
      rfl
    · intro tokens hTokens'
      rw [hTokens'] at hFirst
      exact hFirst
    · intro d hError
      obtain ⟨location, hLocation⟩ := Scanner.location_of_tokens_eq_error hError
      refine ⟨location, hLocation, ?_⟩
      rw [hError] at hFirst
      simp only [movedDown, Diagnostic.down, hLocation] at hFirst
      exact hFirst
  · intro d hError hClosed
    refine Scanner.tokens_append_of_error ?_ (hStart a) hWhole (terminated_programText a) hError
      hClosed
    rfl

/-- A comment at the end of the first program does not reach the string that the second one leaves
open, and the mark at the end of another one is not completed by what follows its newline. -/
theorem tokenize_lines_behind_comment :
    tokenize ("x # \"" ++ "\n" ++ "y\n\"%") none {} =
        .error ⟨.unterminatedString, some ⟨"<input>", 3, 1⟩, some "\"%"⟩ ∧
      tokenize ("\"\n\" !" ++ "\n" ++ "=") none {} =
        .error ⟨.malformedOperator (.ofChar '\n'), some ⟨"<input>", 2, 3⟩, some "\" !"⟩ := by
  constructor
  · have hFirst : tokenize "x # \"" none {} = .ok ([⟨⟨.identifier, "x"⟩, ⟨"<input>", 1, 1⟩⟩,
        ⟨⟨.newline, "\n"⟩, ⟨"<input>", 1, 6⟩⟩] ++ [⟨.endOfInput, ⟨"<input>", 2, 1⟩⟩]) := by cbv
    have hSecond : tokenize "y\n\"%" none {} =
        .error ⟨.unterminatedString, some ⟨"<input>", 2, 1⟩, some "\"%"⟩ := by cbv
    obtain ⟨-, -, hFailure⟩ := (tokenize_lines none {} "x # \"" "y\n\"%").1 _ _ hFirst
    obtain ⟨location, hLocation, hWhole⟩ := hFailure _ hSecond
    cases hLocation
    exact hWhole
  · have hFailure : tokenize "\"\n\" !" none {} =
        .error ⟨.malformedOperator (.ofChar '\n'), some ⟨"<input>", 2, 3⟩, some "\" !"⟩ := by cbv
    exact (tokenize_lines none {} "\"\n\" !" "=").2 _ hFailure (by decide)

end TeenyLexer
