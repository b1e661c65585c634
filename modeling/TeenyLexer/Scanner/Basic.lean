import TeenyLexer.Scanner.Record
import TeenyLexer.Settings
import TeenyLexer.Source.Layout
import TeenyLexer.Source.Reading

/-! # Scanners

A scanner holds a cursor over a program, to which a newline has been added so that the last
statement is terminated. Each pull skips layout and delivers one token, or fails. Pulling
until the end of the input or the first failure scans the whole program.
-/

namespace TeenyLexer

structure Scanner where
  filename : String
  trace : Bool
  cursor : Cursor

/-- What one pull answers, what it records, and the scanner that it leaves behind. -/
structure Pull where
  outcome : Except Diagnostic Token
  records : List Record
  scanner : Scanner

namespace Pull

/-- Nothing follows the end of the input or a failure. -/
def isLast (p : Pull) : Bool :=
  match p.outcome with
  | .ok token => token.kind == .endOfInput
  | .error _ => true

end Pull

/-- The cursor on the first character after the layout under it. -/
def Cursor.skipLayout (c : Cursor) : Cursor :=
  c.advanceBy (layout c.rest).length

namespace Scanner

/-- A scanner at the start of a program. A file name given here wins over the settings. -/
def ofSource (source : String) (filename : Option String) (settings : Settings) : Scanner where
  filename := Settings.filenameOr settings.filename filename
  trace := settings.trace
  cursor := .start (source.toList ++ ['\n'])

/-- The record made when a scanner is opened. The newline that was added does not count. -/
def openingRecord (s : Scanner) : Record :=
  .opened s.filename (s.cursor.buffer.length - 1)

def deliver (s : Scanner) (word : Word) (location : Location) (after : Cursor) : Pull :=
  let token : Token := ⟨word, location⟩
  { outcome := .ok token
    records := if s.trace then [.delivered s.filename token] else []
    scanner := { s with cursor := after } }

/-- Fails at a place on the line under the cursor `here`. -/
def fail (s : Scanner) (fault : Fault) (here after : Cursor) : Pull :=
  let location := here.location s.filename
  { outcome := .error ⟨fault, some location, some (String.ofList here.sourceLine)⟩
    records := [.failed fault location]
    scanner := { s with cursor := after } }

/-- The next token. At the end of the input it is the word for that, however often it is
asked for. -/
def pull (s : Scanner) : Pull :=
  let here := s.cursor.skipLayout
  let reading := Reading.ofText here.rest
  let after := here.advanceBy (reading.extent here.rest)
  match reading with
  | .word kind spelling => s.deliver (.ofSpelling kind spelling) (here.location s.filename) after
  | .endOfInput => s.deliver .endOfInput (here.location s.filename) after
  | .fault fault => s.fail fault here after

theorem length_rest_pull_lt {s : Scanner} (h : s.pull.isLast = false) :
    s.pull.scanner.cursor.rest.length < s.cursor.rest.length := by
  unfold pull at h ⊢
  simp only at h ⊢
  split at h
  next kind spelling hr =>
    have hspelling : 0 < spelling.length := List.length_pos_iff.mpr (Reading.spelling_ne_nil hr)
    have hrest : 0 < s.cursor.skipLayout.rest.length := by
      refine List.length_pos_iff.mpr fun hnil => ?_
      simp [hnil, Reading.ofText] at hr
    have hskip : s.cursor.skipLayout.rest.length ≤ s.cursor.rest.length := by
      simp [Cursor.skipLayout]
    simp only [hr, deliver, Reading.extent, Cursor.rest_advanceBy, List.length_drop]
    omega
  next => simp [Pull.isLast, deliver, Word.endOfInput] at h
  next => simp [Pull.isLast, fail] at h

/-- The pulls up to and including the last one. -/
def pulls (s : Scanner) : List Pull :=
  if _h : s.pull.isLast = false then s.pull :: s.pull.scanner.pulls else [s.pull]
termination_by s.cursor.rest.length
decreasing_by exact length_rest_pull_lt _h

def delivered (pulls : List Pull) : List Token :=
  pulls.filterMap fun p => p.outcome.toOption

def failure? (pulls : List Pull) : Option Diagnostic :=
  pulls.findSome? fun p =>
    match p.outcome with
    | .ok _ => none
    | .error d => some d

def recorded (pulls : List Pull) : List Record :=
  pulls.flatMap Pull.records

def tokens (s : Scanner) : Except Diagnostic (List Token) :=
  match failure? s.pulls with
  | none => .ok (delivered s.pulls)
  | some d => .error d

end Scanner

/-- The tokens of a program, of which the last is the end of the input, or its first
failure. -/
def tokenize (source : String) (filename : Option String) (settings : Settings) :
    Except Diagnostic (List Token) :=
  (Scanner.ofSource source filename settings).tokens

end TeenyLexer
