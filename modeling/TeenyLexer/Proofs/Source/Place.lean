import TeenyLexer.Source.Cursor
import Mathlib.Data.List.DropRight

/-! # Places

The line and the column of an offset are determined by the text before it: the line by the
newlines that have been passed, the column by what has been passed since the last of them.
A cursor that has taken some steps from the start of its buffer holds exactly these numbers.
-/

namespace TeenyLexer

namespace Place

/-- What has been passed of the current line. -/
def lastLine (passed : List Char) : List Char :=
  passed.rtakeWhile (· ≠ '\n')

/-- The offset behind the last newline that has been passed, or zero. -/
def lineStart (passed : List Char) : Nat :=
  (passed.rdropWhile (· ≠ '\n')).length

def line (passed : List Char) : Nat :=
  passed.count '\n' + 1

def column (passed : List Char) : Nat :=
  (lastLine passed).length + 1

def location (filename : String) (passed : List Char) : Location :=
  ⟨filename, line passed, column passed⟩

/-- The whole line on which an offset lies, without its newline. -/
def lineText (buffer : List Char) (offset : Nat) : List Char :=
  lastLine (buffer.take offset) ++ (buffer.drop offset).takeWhile (· ≠ '\n')

theorem lastLine_append_newline (passed : List Char) : lastLine (passed ++ ['\n']) = [] := by
  simp [lastLine]

theorem lastLine_append_singleton {c : Char} (hc : c ≠ '\n') (passed : List Char) :
    lastLine (passed ++ [c]) = lastLine passed ++ [c] := by
  simp [lastLine, hc]

theorem lineStart_append_newline (passed : List Char) :
    lineStart (passed ++ ['\n']) = passed.length + 1 := by
  simp [lineStart]

theorem lineStart_append_singleton {c : Char} (hc : c ≠ '\n') (passed : List Char) :
    lineStart (passed ++ [c]) = lineStart passed := by
  simp [lineStart, hc]

theorem lastLine_append_of_not_mem {more : List Char} (hMore : '\n' ∉ more) (passed : List Char) :
    lastLine (passed ++ more) = lastLine passed ++ more := by
  induction more generalizing passed with
  | nil => simp
  | cons c more ih =>
    obtain ⟨hc, hMore⟩ : '\n' ≠ c ∧ '\n' ∉ more := by simpa using hMore
    rw [List.append_cons, ih hMore, lastLine_append_singleton hc.symm, List.append_assoc]
    rfl

theorem line_append (passed more : List Char) :
    line (passed ++ more) = line passed + more.count '\n' := by
  simp only [line, List.count_append]
  omega

theorem column_append_of_not_mem {more : List Char} (hMore : '\n' ∉ more) (passed : List Char) :
    column (passed ++ more) = column passed + more.length := by
  simp only [column, lastLine_append_of_not_mem hMore, List.length_append]
  omega

/-- Texts that end at one place still do when the same is added to both. -/
theorem column_append_congr {passed passed' : List Char} (h : column passed = column passed')
    (more : List Char) : column (passed ++ more) = column (passed' ++ more) := by
  induction more generalizing passed passed' with
  | nil => simpa using h
  | cons c more ih =>
    rw [List.append_cons, List.append_cons passed']
    refine ih ?_
    by_cases hc : c = '\n'
    · subst hc
      simp only [column, lastLine_append_newline]
    · have hOne : '\n' ∉ [c] := by simpa using Ne.symm hc
      rw [column_append_of_not_mem hOne, column_append_of_not_mem hOne, h]

/-- The offset of a buffer that has a given location. -/
def offset (buffer : List Char) (l : Location) : Nat :=
  (List.range (buffer.length + 1)).findIdx fun o => location l.filename (buffer.take o) = l

/-- Going on from a place leads to a different one: to a later line, or on the same line to a
later column. -/
theorem location_append_ne {more : List Char} (hMore : more ≠ []) (filename : String)
    (passed : List Char) : location filename passed ≠ location filename (passed ++ more) := by
  intro h
  simp only [location, Location.mk.injEq, true_and, Int.natCast_inj] at h
  rw [line_append] at h
  have hNone : '\n' ∉ more := List.count_eq_zero.mp (by omega)
  rw [column_append_of_not_mem hNone] at h
  have hLength : 0 < more.length := List.length_pos_iff.mpr hMore
  omega

theorem offset_location {buffer : List Char} {o : Nat} (ho : o ≤ buffer.length)
    (filename : String) : offset buffer (location filename (buffer.take o)) = o := by
  have hInside : o < (List.range (buffer.length + 1)).length := by
    rw [List.length_range]
    omega
  rw [offset, List.findIdx_eq hInside]
  constructor
  · rw [List.getElem_range]
    exact decide_eq_true rfl
  · intro j hj
    rw [List.getElem_range, decide_eq_false_iff_not]
    have hTake : buffer.take o = buffer.take j ++ (buffer.drop j).take (o - j) := by
      rw [← List.take_add, Nat.add_sub_of_le hj.le]
    rw [hTake]
    refine location_append_ne ?_ _ _
    intro hNil
    have hLength := congrArg List.length hNil
    simp only [List.length_take, List.length_drop, List.length_nil] at hLength
    omega

theorem offset_append (passed rest : List Char) (filename : String) :
    offset (passed ++ rest) (location filename passed) = passed.length := by
  have hInside : passed.length ≤ (passed ++ rest).length := by simp
  have hOffset := offset_location hInside filename
  rwa [List.take_left] at hOffset

theorem drop_lineStart (passed : List Char) : passed.drop (lineStart passed) = lastLine passed := by
  have hSplit : passed.rdropWhile (· ≠ '\n') ++ lastLine passed = passed :=
    List.rdropWhile_append_rtakeWhile
  have hDrop := congrArg (List.drop (lineStart passed)) hSplit
  rw [← hDrop, lineStart, List.drop_left]

theorem lineStart_le (passed : List Char) : lineStart passed ≤ passed.length :=
  (List.rdropWhile_prefix _ passed).length_le

end Place

namespace Cursor

def atOffset (buffer : List Char) (offset : Nat) : Cursor where
  buffer := buffer
  rest := buffer.drop offset
  position := offset
  line := Place.line (buffer.take offset)
  column := Place.column (buffer.take offset)
  lineStart := Place.lineStart (buffer.take offset)

theorem atOffset_zero (buffer : List Char) : atOffset buffer 0 = start buffer := by
  simp [atOffset, start, Place.line, Place.column, Place.lastLine, Place.lineStart]

theorem advance_atOffset (buffer : List Char) (offset : Nat) :
    (atOffset buffer offset).advance = atOffset buffer (offset + 1) := by
  cases hRest : buffer.drop offset with
  | nil =>
    have hEnd : buffer.length ≤ offset := List.drop_eq_nil_iff.mp hRest
    have hEnd' : buffer.length ≤ offset + 1 := Nat.le_succ_of_le hEnd
    simp [advance, atOffset, hRest, List.take_of_length_le hEnd, List.take_of_length_le hEnd',
      List.drop_eq_nil_iff.mpr hEnd']
  | cons c rest =>
    have hInside : offset < buffer.length := by
      rw [← List.length_pos_iff.trans List.drop_eq_nil_iff.not |>.trans Nat.not_le, hRest]
      simp
    have hTake : buffer.take (offset + 1) = buffer.take offset ++ [c] := by
      rw [List.take_add_one, ← List.head?_drop, hRest]
      rfl
    have hDrop : buffer.drop (offset + 1) = rest := by
      rw [← List.tail_drop, hRest, List.tail_cons]
    have hLength : (buffer.take offset).length = offset := List.length_take_of_le hInside.le
    by_cases hc : c = '\n'
    · subst hc
      simp [advance, atOffset, hRest, hDrop, hTake, Place.line, Place.column,
        Place.lastLine_append_newline, Place.lineStart_append_newline, hInside.le]
    · have hOne : '\n' ∉ [c] := by simpa using Ne.symm hc
      simp [advance, atOffset, hRest, hDrop, hTake, Place.line_append,
        Place.column_append_of_not_mem hOne, Place.lineStart_append_singleton hc, hc]

theorem advanceBy_atOffset (buffer : List Char) (offset n : Nat) :
    (atOffset buffer offset).advanceBy n = atOffset buffer (offset + n) := by
  induction n generalizing offset with
  | zero => rfl
  | succ n ih => rw [advanceBy, advance_atOffset, ih, Nat.add_right_comm, Nat.add_assoc]

theorem location_atOffset (buffer : List Char) (offset : Nat) (filename : String) :
    (atOffset buffer offset).location filename =
      Place.location filename (buffer.take offset) := rfl

theorem sourceLine_atOffset (buffer : List Char) (offset : Nat) :
    (atOffset buffer offset).sourceLine = Place.lineText buffer offset := by
  have hRun : ∀ c ∈ Place.lastLine (buffer.take offset), decide (c ≠ '\n') = true := by
    intro c hc
    simpa using List.mem_rtakeWhile_imp hc
  have hDrop := calc
    buffer.drop (Place.lineStart (buffer.take offset))
      = (buffer.take offset ++ buffer.drop offset).drop
          (Place.lineStart (buffer.take offset)) := by rw [List.take_append_drop]
    _ = (buffer.take offset).drop (Place.lineStart (buffer.take offset)) ++ buffer.drop offset :=
          List.drop_append_of_le_length (Place.lineStart_le _)
    _ = Place.lastLine (buffer.take offset) ++ buffer.drop offset := by
          rw [Place.drop_lineStart]
  change (buffer.drop (Place.lineStart (buffer.take offset))).takeWhile _ = _
  rw [hDrop, List.takeWhile_append_of_pos hRun, Place.lineText]

end Cursor

end TeenyLexer
