import TeenyLexer.Location

/-! # Cursors

A cursor walks through a buffer of characters one at a time and keeps count of lines and
columns. Past the end only the position goes on growing.
-/

namespace TeenyLexer

/-- The character seen where there is none. -/
def nul : Char := Char.ofNat 0

structure Cursor where
  buffer : List Char
  /-- What has not been passed yet. -/
  rest : List Char
  position : Nat
  line : Nat
  column : Nat
  /-- The position at which the current line starts. -/
  lineStart : Nat
  deriving DecidableEq

namespace Cursor

def start (buffer : List Char) : Cursor where
  buffer := buffer
  rest := buffer
  position := 0
  line := 1
  column := 1
  lineStart := 0

def current (c : Cursor) : Char :=
  c.rest.headD nul

def peek (c : Cursor) : Char :=
  c.rest.tail.headD nul

def advance (c : Cursor) : Cursor :=
  match c.rest with
  | [] => { c with position := c.position + 1 }
  | x :: rest =>
    if x = '\n' then
      { c with
        rest := rest
        position := c.position + 1
        line := c.line + 1
        column := 1
        lineStart := c.position + 1 }
    else
      { c with
        rest := rest
        position := c.position + 1
        column := c.column + 1 }

def advanceBy (c : Cursor) : Nat → Cursor
  | 0 => c
  | n + 1 => c.advance.advanceBy n

/-- The text of the line under the cursor, without its newline. -/
def sourceLine (c : Cursor) : List Char :=
  (c.buffer.drop c.lineStart).takeWhile (· ≠ '\n')

/-- The place of the cursor in a file of the given name. -/
def location (c : Cursor) (filename : String) : Location :=
  ⟨filename, c.line, c.column⟩

@[simp] theorem buffer_advance (c : Cursor) : c.advance.buffer = c.buffer := by
  unfold advance
  split
  · rfl
  · split <;> rfl

@[simp] theorem position_advance (c : Cursor) : c.advance.position = c.position + 1 := by
  unfold advance
  split
  · rfl
  · split <;> rfl

@[simp] theorem rest_advance (c : Cursor) : c.advance.rest = c.rest.tail := by
  unfold advance
  split
  next h => simp [h]
  next x rest h => split <;> simp [h]

@[simp] theorem buffer_advanceBy (c : Cursor) (n : Nat) : (c.advanceBy n).buffer = c.buffer := by
  induction n generalizing c with
  | zero => rfl
  | succ n ih => rw [advanceBy, ih, buffer_advance]

@[simp] theorem position_advanceBy (c : Cursor) (n : Nat) :
    (c.advanceBy n).position = c.position + n := by
  induction n generalizing c with
  | zero => rfl
  | succ n ih => rw [advanceBy, ih, position_advance, Nat.add_assoc, Nat.add_comm 1 n]

@[simp] theorem rest_advanceBy (c : Cursor) (n : Nat) :
    (c.advanceBy n).rest = c.rest.drop n := by
  induction n generalizing c with
  | zero => rfl
  | succ n ih => rw [advanceBy, ih, rest_advance, List.drop_tail]

theorem advanceBy_add (c : Cursor) (m n : Nat) :
    c.advanceBy (m + n) = (c.advanceBy m).advanceBy n := by
  induction m generalizing c with
  | zero => rw [Nat.zero_add]; rfl
  | succ m ih => rw [Nat.succ_add, advanceBy, ih, advanceBy]

end Cursor

end TeenyLexer
