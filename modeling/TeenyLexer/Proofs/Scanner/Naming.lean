import TeenyLexer.Proofs.Scanner.Reachable
import TeenyLexer.Proofs.Scanner.Stream

/-! # Scanners under other names

What a scanner is called and whether it traces has no say in what it reads. Under another name it
hands out the same tokens and the same failure, with that name in their locations, and its cursor
takes the same way. Only the records depend on both.
-/

namespace TeenyLexer

def Location.named (filename : String) (l : Location) : Location :=
  { l with filename }

def Token.named (filename : String) (t : Token) : Token :=
  { t with location := t.location.named filename }

def Diagnostic.named (filename : String) (d : Diagnostic) : Diagnostic :=
  { d with location := d.location.map (Location.named filename) }

def namedOutcome (filename : String) : Except Diagnostic Token → Except Diagnostic Token
  | .ok token => .ok (token.named filename)
  | .error d => .error (d.named filename)

def namedAnswer (filename : String) :
    Except Diagnostic (List Token) → Except Diagnostic (List Token)
  | .ok tokens => .ok (tokens.map (Token.named filename))
  | .error d => .error (d.named filename)

/-- The name stands at the beginning of the text, and nothing behind it depends on it. -/
theorem Diagnostic.exists_message_named {d : Diagnostic} {location : Location}
    (h : d.location = some location) :
    ∃ behind, ∀ filename, (d.named filename).message = filename ++ behind := by
  obtain ⟨fault, place, sourceLine⟩ := d
  obtain rfl : place = some location := h
  let header := ":" ++ toString location.line ++ ":" ++ toString location.column ++ ": " ++
    ("error: " ++ fault.description)
  let below := (lines ⟨fault, some location, sourceLine⟩).tail
  refine ⟨String.intercalate "\n" (header :: below), fun filename => ?_⟩
  have hText : (location.named filename).text ++ ": " ++ ("error: " ++ fault.description) =
      filename ++ header := by
    simp only [Location.text, Location.named, header, String.append_assoc]
  have hLines : lines (named filename ⟨fault, some location, sourceLine⟩) =
      (filename ++ header) :: below := by
    rw [← hText]
    cases sourceLine <;> rfl
  rw [message, hLines, String.intercalate_cons_append]

/-- What is recorded of a pull, by what it hands out. -/
def Record.ofOutcome (filename : String) (trace : Bool) : Except Diagnostic Token → List Record
  | .ok token => if trace then [.delivered filename token] else []
  | .error d => d.location.toList.map (Record.failed d.fault)

namespace Scanner

variable (s : Scanner) (filename : String) (trace : Bool)

def relabelled : Scanner :=
  { s with filename, trace }

theorem relabelled_self : s.relabelled s.filename s.trace = s := rfl

theorem outcome_pull_relabelled :
    (s.relabelled filename trace).pull.outcome = namedOutcome filename s.pull.outcome := by
  have hSame : (s.relabelled filename trace).cursor = s.cursor := rfl
  cases hRead : Reading.ofText s.cursor.skipLayout.rest with
  | word kind spelling =>
    rw [pull_of_word hRead, pull_of_word (hSame ▸ hRead)]
    rfl
  | endOfInput =>
    rw [pull_of_endOfInput hRead, pull_of_endOfInput (hSame ▸ hRead)]
    rfl
  | fault fault =>
    rw [pull_of_fault hRead, pull_of_fault (hSame ▸ hRead)]
    rfl

theorem scanner_pull_relabelled :
    (s.relabelled filename trace).pull.scanner = s.pull.scanner.relabelled filename trace := by
  rw [scanner_pull, scanner_pull]
  rfl

theorem isLast_pull_relabelled :
    (s.relabelled filename trace).pull.isLast = s.pull.isLast := by
  rw [Pull.isLast, Pull.isLast, outcome_pull_relabelled]
  cases s.pull.outcome <;> rfl

theorem records_pull : s.pull.records = Record.ofOutcome s.filename s.trace s.pull.outcome := by
  cases hRead : Reading.ofText s.cursor.skipLayout.rest with
  | word kind spelling => rw [pull_of_word hRead]; rfl
  | endOfInput => rw [pull_of_endOfInput hRead]; rfl
  | fault fault => rw [pull_of_fault hRead]; rfl

theorem tokens_relabelled :
    (s.relabelled filename trace).tokens = namedAnswer filename s.tokens := by
  induction s using run_induction with
  | failed s d hOutcome =>
    have hOutcome' := s.outcome_pull_relabelled filename trace
    rw [hOutcome] at hOutcome'
    rw [tokens_of_error hOutcome', tokens_of_error hOutcome]
    rfl
  | ended s token hOutcome hKind =>
    have hOutcome' := s.outcome_pull_relabelled filename trace
    rw [hOutcome] at hOutcome'
    rw [tokens_of_endOfInput hOutcome' hKind, tokens_of_endOfInput hOutcome hKind]
    rfl
  | word s token hOutcome hKind ih =>
    have hOutcome' := s.outcome_pull_relabelled filename trace
    rw [hOutcome] at hOutcome'
    rw [tokens_of_word hOutcome' hKind, tokens_of_word hOutcome hKind, scanner_pull_relabelled, ih]
    cases s.pull.scanner.tokens <;> rfl

theorem tokens_traced : (s.relabelled s.filename trace).tokens = s.tokens := by
  have hSelf := s.tokens_relabelled s.filename s.trace
  rw [relabelled_self] at hSelf
  rw [tokens_relabelled, ← hSelf]

theorem recorded_pulls :
    recorded s.pulls = s.stream.flatMap (Record.ofOutcome s.filename s.trace) := by
  induction s using pulls.induct with
  | case1 s hLast ih =>
    have hKept : s.pull.scanner.filename = s.filename ∧ s.pull.scanner.trace = s.trace := by
      rw [scanner_pull]
      exact ⟨rfl, rfl⟩
    rw [hKept.1, hKept.2] at ih
    rw [recorded, pulls_of_not_isLast hLast, List.flatMap_cons, ← recorded, ih, records_pull,
      stream_of_not_isLast hLast, List.flatMap_cons]
  | case2 s hLast =>
    rw [recorded, pulls_of_isLast hLast, stream_of_isLast hLast, List.flatMap_singleton,
      List.flatMap_singleton, records_pull]

end Scanner

end TeenyLexer
