import TeenyLexer.Proofs.Scanner.Reachable

/-! # Diagnosis

When a pull fails, and how. The layout at the cursor ends at some offset, and what the program
shows there decides: a quote that is never answered, an exclamation mark before something else
than an equals sign, or a character that begins no word. The diagnostic names that fault at the
line and column of that offset. Nothing else can go wrong, wherever the cursor stands.
-/

namespace TeenyLexer

open Reading

/-- The first offset from `offset` on at which a character stops, or the end of the buffer. -/
structure FirstFrom (buffer : List Char) (Stops : Char → Prop) (offset target : Nat) : Prop where
  le : offset ≤ target
  skipped : ∀ i, offset ≤ i → i < target → ∃ c, buffer[i]? = some c ∧ ¬Stops c
  stops : ∀ c, buffer[target]? = some c → Stops c

/-- The offset behind blanks and, if a number sign follows them, all up to the next newline. -/
def LayoutEnds (buffer : List Char) (offset target : Nat) : Prop :=
  ∃ behind, FirstFrom buffer (isBlank · = false) offset behind ∧
    if buffer[behind]? = some '#' then FirstFrom buffer (· = '\n') behind target
    else target = behind

/-- The characters with which a word may begin, apart from letters and digits. -/
def wordMarks : List Char :=
  ['\n', '+', '-', '*', '/', '=', '<', '>', '!', '"', '.', '_']

/-- The fault that a program shows at an offset where a word is expected. The character that a
fault is about stands in the program, and is accepted where the diagnostic describes it. -/
inductive FaultAt (buffer : List Char) (offset : Nat) : Fault → Prop
  | unterminatedString (quote : buffer[offset]? = some '"')
      (unclosed : ∀ i, offset < i → buffer[i]? ≠ some '"') :
      FaultAt buffer offset .unterminatedString
  | malformedOperator {c : Char} {shown : Excerpt} (mark : buffer[offset]? = some '!')
      (following : buffer[offset + 1]? = some c) (other : c ≠ '=')
      (describable : Excerpt.ofString (String.singleton c) = .ok shown) :
      FaultAt buffer offset (.malformedOperator shown)
  | unexpectedCharacter {c : Char} {shown : Excerpt} (found : buffer[offset]? = some c)
      (mark : c ∉ wordMarks) (digit : c.isDigit = false) (letter : c.isAlpha = false)
      (describable : Excerpt.ofString (String.singleton c) = .ok shown) :
      FaultAt buffer offset (.unexpectedCharacter shown)

theorem FirstFrom.eq {buffer : List Char} {Stops : Char → Prop} {offset target target' : Nat}
    (h : FirstFrom buffer Stops offset target) (h' : FirstFrom buffer Stops offset target') :
    target = target' := by
  rcases Nat.lt_trichotomy target target' with hLt | hEq | hLt
  · obtain ⟨c, hc, hGoes⟩ := h'.skipped target h.le hLt
    exact absurd (h.stops c hc) hGoes
  · exact hEq
  · obtain ⟨c, hc, hGoes⟩ := h.skipped target' h'.le hLt
    exact absurd (h'.stops c hc) hGoes

theorem firstFrom_of_split {buffer run rest : List Char} {Stops : Char → Prop} {offset : Nat}
    (hSplit : buffer.drop offset = run ++ rest) (hRun : ∀ c ∈ run, ¬Stops c)
    (hRest : ∀ c ∈ rest.head?, Stops c) :
    FirstFrom buffer Stops offset (offset + run.length) := by
  have hGet : ∀ k, buffer[offset + k]? = (run ++ rest)[k]? := fun k => by
    rw [← hSplit, List.getElem?_drop]
  refine ⟨Nat.le_add_right offset _, ?_, ?_⟩
  · intro i hFrom hTo
    obtain ⟨k, rfl⟩ := Nat.exists_eq_add_of_le hFrom
    have hk : k < run.length := Nat.lt_of_add_lt_add_left hTo
    refine ⟨run[k], ?_, hRun _ (List.getElem_mem hk)⟩
    rw [hGet, List.getElem?_append_left hk, List.getElem?_eq_getElem hk]
  · intro c hc
    rw [hGet, List.getElem?_append_right le_rfl, Nat.sub_self, ← List.head?_eq_getElem?] at hc
    exact hRest c hc

theorem firstFrom_takeWhile (buffer : List Char) (p : Char → Bool) (offset : Nat) :
    FirstFrom buffer (p · = false) offset
      (offset + ((buffer.drop offset).takeWhile p).length) := by
  refine firstFrom_of_split List.takeWhile_append_dropWhile.symm ?_ ?_
  · intro c hc
    simpa using List.mem_takeWhile_imp hc
  · intro c hc
    have hHead := List.head?_dropWhile_not p (buffer.drop offset)
    rw [Option.mem_def.mp hc] at hHead
    simpa using hHead

theorem LayoutEnds.eq {buffer : List Char} {offset target target' : Nat}
    (h : LayoutEnds buffer offset target) (h' : LayoutEnds buffer offset target') :
    target = target' := by
  obtain ⟨behind, hBlanks, hEnd⟩ := h
  obtain ⟨behind', hBlanks', hEnd'⟩ := h'
  obtain rfl := hBlanks.eq hBlanks'
  split at hEnd
  next hComment =>
    rw [if_pos hComment] at hEnd'
    exact hEnd.eq hEnd'
  next hComment =>
    rw [if_neg hComment] at hEnd'
    exact hEnd.trans hEnd'.symm

theorem layoutEnds_layout (buffer : List Char) (offset : Nat) :
    LayoutEnds buffer offset (offset + (layout (buffer.drop offset)).length) := by
  refine ⟨_, firstFrom_takeWhile buffer isBlank offset, ?_⟩
  generalize hBlanks : (buffer.drop offset).takeWhile isBlank = blanks
  have hBehind : buffer.drop (offset + blanks.length) = (buffer.drop offset).dropWhile isBlank := by
    have hSplit : blanks ++ (buffer.drop offset).dropWhile isBlank = buffer.drop offset := by
      rw [← hBlanks, List.takeWhile_append_dropWhile]
    rw [← List.drop_drop]
    conv => lhs; rw [← hSplit]
    rw [List.drop_left]
  have hHead : buffer[offset + blanks.length]? =
      ((buffer.drop offset).dropWhile isBlank).head? := by
    rw [← hBehind, List.head?_drop]
  rw [layout, hBlanks, List.length_append, ← Nat.add_assoc, hHead]
  cases hRest : (buffer.drop offset).dropWhile isBlank with
  | nil => rfl
  | cons c rest =>
    rw [hRest] at hBehind
    by_cases hc : c = '#'
    · subst hc
      rw [if_pos List.head?_cons]
      simpa [hBehind, comment] using firstFrom_takeWhile buffer (· ≠ '\n') (offset + blanks.length)
    · have hHash : ¬(c :: rest).head? = some '#' := by simpa using hc
      rw [if_neg hHash, comment, if_neg hc]
      rfl

theorem layoutEnds_iff {buffer : List Char} {offset target : Nat} :
    LayoutEnds buffer offset target ↔ target = offset + (layout (buffer.drop offset)).length := by
  constructor
  · intro h
    exact h.eq (layoutEnds_layout buffer offset)
  · rintro rfl
    exact layoutEnds_layout buffer offset

theorem ofString_singleton (c : Char) :
    Excerpt.ofString (String.singleton c) = .ok (.ofChar c) := by
  have hText : (String.singleton c).toList = [c] := by simp
  unfold Excerpt.ofString
  simp only [hText]
  rfl

theorem startsNothing_iff {c : Char} :
    StartsNothing c ↔ c ∉ wordMarks ∧ c.isDigit = false ∧ c.isAlpha = false := by
  constructor
  · intro h
    obtain ⟨hDigit, hPoint⟩ : c.isDigit = false ∧ c ≠ '.' := by
      simpa [isNumberStart] using h.number
    obtain ⟨hAlpha, hUnderscore⟩ : c.isAlpha = false ∧ c ≠ '_' := by
      simpa [isIdentifierStart] using h.identifier
    refine ⟨fun hMark => ?_, hDigit, hAlpha⟩
    have hSingle := h.single
    have hJoinable := h.joinable
    simp only [wordMarks, List.mem_cons, List.not_mem_nil, or_false, h.exclamation, h.quote,
      hPoint, hUnderscore] at hMark
    rcases hMark with rfl | rfl | rfl | rfl | rfl | rfl | rfl | rfl <;>
      first | exact absurd hSingle (by decide) | exact absurd hJoinable (by decide)
  · rintro ⟨hMark, hDigit, hAlpha⟩
    simp only [wordMarks, List.mem_cons, List.not_mem_nil, or_false, not_or] at hMark
    refine ⟨?_, ?_, by simp [hMark], by simp [hMark], by simp [isNumberStart, hDigit, hMark],
      by simp [isIdentifierStart, hAlpha, hMark]⟩
    · unfold single?
      split <;> simp_all
    · unfold joinable?
      split <;> simp_all

/-- The faults at the start of a text, by its first characters. An exclamation mark at the very
end of a text is left out: a program goes on behind it. -/
theorem ofText_cons_eq_fault_iff {c : Char} {rest : List Char} {fault : Fault}
    (hRest : c = '!' → rest ≠ []) : ofText (c :: rest) = .fault fault ↔
      (c = '"' ∧ '"' ∉ rest ∧ fault = .unterminatedString) ∨
      (∃ x, c = '!' ∧ rest.head? = some x ∧ x ≠ '=' ∧ fault = .malformedOperator (.ofChar x)) ∨
      (StartsNothing c ∧ fault = .unexpectedCharacter (.ofChar c)) := by
  rcases start_cases c with ⟨k, hc⟩ | ⟨alone, joined, hc⟩ | rfl | rfl | hc | hc | hc
  · have hOther := of_single?_eq_some hc
    have hStarts : ¬StartsNothing c := fun h => by simp [h.single] at hc
    simp [ofText_of_single hc, hOther, hStarts]
  · have hOther := of_joinable?_eq_some hc
    have hStarts : ¬StartsNothing c := fun h => by simp [h.joinable] at hc
    rw [ofText_of_joinable hc]
    split <;> simp [hOther, hStarts]
  · have hStarts : ¬StartsNothing '!' := fun h => h.exclamation rfl
    obtain ⟨x, rest, rfl⟩ := List.exists_cons_of_ne_nil (hRest rfl)
    rw [ofText_exclamation, ofExclamation]
    by_cases hx : x = '='
    · simp [hx, hStarts]
    · simp [hx, hStarts, eq_comm]
  · have hStarts : ¬StartsNothing '"' := fun h => h.quote rfl
    rw [ofText_quote, ofQuote]
    by_cases hQuote : '"' ∈ rest
    · simp [hQuote, hStarts]
    · simp [hQuote, hStarts, eq_comm]
  · have hOther := special_of_wordStart (.inl hc)
    have hStarts : ¬StartsNothing c := fun h => by simp [h.number] at hc
    simp [ofText_of_isNumberStart hc, hOther, hStarts]
  · have hOther := special_of_wordStart (.inr hc)
    have hStarts : ¬StartsNothing c := fun h => by simp [h.identifier] at hc
    simp [ofText_of_isIdentifierStart hc, hOther, hStarts]
  · simp [ofText_of_startsNothing hc, hc, hc.exclamation, hc.quote, eq_comm]

theorem ofText_drop_eq_fault_iff {buffer : List Char} {offset : Nat} {fault : Fault}
    (hBuffer : Terminated (buffer.drop offset)) :
    ofText (buffer.drop offset) = .fault fault ↔ FaultAt buffer offset fault := by
  cases hText : buffer.drop offset with
  | nil =>
    have hEnd : buffer[offset]? = none := by rw [← List.head?_drop, hText]; rfl
    constructor
    · intro h
      cases h
    · intro h
      cases h <;> simp_all
  | cons c rest =>
    have hc : buffer[offset]? = some c := by rw [← List.head?_drop, hText]; rfl
    have hTail : rest = buffer.drop (offset + 1) := by rw [← List.tail_drop, hText]; rfl
    have hNext : buffer[offset + 1]? = rest.head? := by rw [hTail, List.head?_drop]
    have hMark : c = '!' → rest ≠ [] := by
      rintro rfl rfl
      rw [hText] at hBuffer
      exact absurd (hBuffer '!' rfl) (by decide)
    have hUnclosed : (∀ i, offset < i → buffer[i]? ≠ some '"') ↔ '"' ∉ rest := by
      rw [List.mem_iff_getElem?, hTail]
      constructor
      · rintro h ⟨k, hk⟩
        rw [List.getElem?_drop] at hk
        exact h _ (by omega) hk
      · intro h i hi hQuote
        obtain ⟨k, rfl⟩ := Nat.exists_eq_add_of_le (Nat.succ_le_of_lt hi)
        exact h ⟨k, by rwa [List.getElem?_drop]⟩
    rw [ofText_cons_eq_fault_iff hMark]
    constructor
    · rintro (⟨rfl, hQuote, rfl⟩ | ⟨x, rfl, hHead, hx, rfl⟩ | ⟨hStarts, rfl⟩)
      · exact .unterminatedString hc (hUnclosed.mpr hQuote)
      · exact .malformedOperator hc (hNext.trans hHead) hx (ofString_singleton x)
      · obtain ⟨hMarks, hDigit, hAlpha⟩ := startsNothing_iff.mp hStarts
        exact .unexpectedCharacter hc hMarks hDigit hAlpha (ofString_singleton c)
    · intro h
      cases h with
      | unterminatedString hQuote hOpen =>
        rw [hc] at hQuote
        exact .inl ⟨Option.some.inj hQuote, hUnclosed.mp hOpen, rfl⟩
      | @malformedOperator x shown hExclamation hFollowing hx hShown =>
        rw [hc] at hExclamation
        rw [ofString_singleton] at hShown
        cases hShown
        exact .inr (.inl ⟨x, Option.some.inj hExclamation, hNext.symm.trans hFollowing, hx, rfl⟩)
      | @unexpectedCharacter x shown hFound hMarks hDigit hAlpha hShown =>
        rw [hc] at hFound
        cases hFound
        rw [ofString_singleton] at hShown
        cases hShown
        exact .inr (.inr ⟨startsNothing_iff.mpr ⟨hMarks, hDigit, hAlpha⟩, rfl⟩)

theorem Scanner.outcome_pull_eq_error_iff {s : Scanner} {buffer : List Char} {offset : Nat}
    {d : Diagnostic} (hCursor : s.cursor = .atOffset buffer offset) (hBuffer : Terminated buffer) :
    s.pull.outcome = .error d ↔ ∃ target, LayoutEnds buffer offset target ∧
      FaultAt buffer target d.fault ∧
      d.location = some (Place.location s.filename (buffer.take target)) ∧
      d.sourceLine = some (String.ofList (Place.lineText buffer target)) := by
  have hSkip := Cursor.skipLayout_atOffset buffer offset
  rw [← hCursor] at hSkip
  simp only [layoutEnds_iff, exists_eq_left]
  generalize offset + (layout (buffer.drop offset)).length = target at hSkip
  have hRest : s.cursor.skipLayout.rest = buffer.drop target := by rw [hSkip]; rfl
  rw [← ofText_drop_eq_fault_iff (hBuffer.drop target), ← hRest]
  cases hRead : ofText s.cursor.skipLayout.rest with
  | word kind spelling => simp [pull_of_word hRead, deliver]
  | endOfInput => simp [pull_of_endOfInput hRead, deliver]
  | fault fault =>
    rw [pull_of_fault hRead, hSkip]
    simp only [fail, Cursor.location_atOffset, Cursor.sourceLine_atOffset]
    constructor
    · rintro ⟨⟩
      exact ⟨rfl, rfl, rfl⟩
    · rintro ⟨hFault, hLocation, hLine⟩
      cases d
      cases hFault
      cases hLocation
      cases hLine
      rfl

/-- The failures of a session in any state. An offset at or past the end shows no fault, so
there a pull delivers a token. -/
theorem pull_fails_iff_faultAt {source : String} {s : Session} (h : s.Reachable source)
    (d : Diagnostic) :
    s.scanner.pull.outcome = .error d ↔
      ∃ target, LayoutEnds (programText source) s.scanner.cursor.position target ∧
        FaultAt (programText source) target d.fault ∧
        d.location =
          some (Place.location s.scanner.filename ((programText source).take target)) ∧
        d.sourceLine = some (String.ofList (Place.lineText (programText source) target)) :=
  Scanner.outcome_pull_eq_error_iff h.cursor_eq (terminated_programText source)

/-- The mark is the last character of the program, behind a comment with its newline and a
blank. What follows it is the newline that has been added. -/
theorem pull_fails_at_last_mark :
    Session.Reachable "# é\n !"
        ((Session.ofScanner (.ofSource "# é\n !" none {})).perform .next).session ∧
      ((Session.ofScanner (.ofSource "# é\n !" none {})).perform
          .next).session.scanner.pull.outcome =
        .error ⟨.malformedOperator (.ofChar '\n'), some ⟨"<input>", 2, 2⟩, some " !"⟩ := by
  have hReached : Session.Reachable "# é\n !"
      ((Session.ofScanner (.ofSource "# é\n !" none {})).perform .next).session :=
    .perform (.opened none {}) .next
  refine ⟨hReached, (pull_fails_iff_faultAt hReached _).mpr ⟨5, ?_, ?_, ?_, ?_⟩⟩
  · exact layoutEnds_iff.mpr (by cbv)
  · exact .malformedOperator (by cbv) (by cbv) (by decide) (ofString_singleton '\n')
  · cbv
  · cbv

end TeenyLexer
