import Mathlib
import TeenyLexer.Proofs.Rendering.Printing
import TeenyLexer.Proofs.Rendering.Returns

/-! # Layout put into a program

Blanks can be put in front of any token and behind it, a comment in front of any newline, and a
carriage return at the end of every line. All of this lands in the gaps of the program, so its
words stay, and so do their lines.
-/

namespace TeenyLexer

def insertAt (source : String) (offset : Nat) (text : List Char) : String :=
  String.ofList (source.toList.take offset ++ (text ++ source.toList.drop offset))

/-- The program with a carriage return before every newline outside of its strings. -/
def withReturns (source : String) (tokens : List Token) : String :=
  String.ofList (returnsOutside 0 (stringSpans (programText source) tokens) source.toList)

/-- The program is scanned into tokens that differ from these in nothing but their columns. -/
def ScansAlike (source : String) (filename : Option String) (settings : Settings)
    (tokens : List Token) : Prop :=
  ∃ tokens', tokenize source filename settings = .ok tokens' ∧
    tokens'.map Token.wordAndLine = tokens.map Token.wordAndLine

theorem programText_insertAt {source : String} {before after : List Char}
    (h : programText source = before ++ after) (hAfter : after ≠ []) (text : List Char) :
    programText (insertAt source before.length text) = before ++ (text ++ after) := by
  have hBefore : before.length ≤ source.toList.length := by
    have hLength := congrArg List.length h
    have hPositive := List.length_pos_iff.mpr hAfter
    rw [length_programText, List.length_append] at hLength
    rw [String.length_toList]
    omega
  have hTake : source.toList.take before.length = before := by
    rw [← List.take_append_of_le_length hBefore, ← programText, h, List.take_left]
  have hDrop : source.toList.drop before.length ++ ['\n'] = after := by
    rw [← List.drop_append_of_le_length hBefore, ← programText, h, List.drop_left]
  rw [programText, insertAt, String.toList_ofList, hTake, List.append_assoc, List.append_assoc,
    hDrop]

section Gaps

variable {source : String} {filename : Option String} {settings : Settings}
variable {before after : List Piece} {piece : Piece}

theorem scansAlike_of_respaces {source' : String} {pieces pieces' : List Piece}
    (h : FallsInto (programText source) pieces) (hGaps : List.Forall₂ Respaces pieces pieces')
    (hText : programText source' = pieces'.flatMap Piece.text) :
    ScansAlike source' filename settings
      (tokensOf (Settings.filenameOr settings.filename filename) [] pieces) := by
  refine ⟨_, tokenize_eq_ok_iff.mpr ⟨pieces', ?_, rfl⟩, map_wordAndLine_respaced h hGaps rfl _⟩
  rw [hText]
  exact h.respace hGaps

theorem respaces_of_gap {text gap : List Char} (h : FallsInto text (before ++ piece :: after))
    (hGap : IsGap gap piece.kind) (hKeeps : gap = [] → piece.gap = []) :
    List.Forall₂ Respaces (before ++ piece :: after) (before ++ { piece with gap } :: after) := by
  have hSame : ∀ p ∈ before ++ piece :: after, Respaces p p :=
    fun p hp => .refl (h.of_mem hp).1
  apply List.rel_append
  · exact List.forall₂_same.mpr fun p hp => hSame p (List.mem_append_left _ hp)
  · apply List.Forall₂.cons ⟨rfl, rfl, hGap, fun hNone => .inl (hKeeps hNone)⟩
    apply List.forall₂_same.mpr
    intro p hp
    exact hSame p (List.mem_append_right _ (List.mem_cons_of_mem _ hp))

/-- What is put into a gap has to leave a gap there. -/
theorem scansAlike_insertAt {front back text : List Char}
    (h : FallsInto (programText source) (before ++ piece :: after))
    (hGap : piece.gap = front ++ back) (hText : IsGap (front ++ (text ++ back)) piece.kind) :
    ScansAlike (insertAt source (before.flatMap Piece.text ++ front).length text) filename settings
      (tokensOf (Settings.filenameOr settings.filename filename) []
        (before ++ piece :: after)) := by
  have hKeeps : front ++ (text ++ back) = [] → piece.gap = [] := by
    rw [hGap]
    simp only [List.append_eq_nil_iff]
    tauto
  have hSpelling : back ++ (piece.spelling ++ after.flatMap Piece.text) ≠ [] := by
    have hWord := h.spells (List.mem_append_right _ List.mem_cons_self)
    simp [hWord.ne_nil]
  have hSplit : programText source = before.flatMap Piece.text ++ front ++
      (back ++ (piece.spelling ++ after.flatMap Piece.text)) := by
    rw [h.eq_flatMap, List.flatMap_append, List.flatMap_cons, Piece.text, hGap]
    simp only [List.append_assoc]
  apply scansAlike_of_respaces h (respaces_of_gap h hText hKeeps)
  rw [programText_insertAt hSplit hSpelling, List.flatMap_append, List.flatMap_cons, Piece.text]
  simp only [List.append_assoc]

theorem scansAlike_insert_before {text : List Char}
    (h : FallsInto (programText source) (before ++ piece :: after))
    (hText : IsGap (piece.gap ++ text) piece.kind) :
    ScansAlike (insertAt source (before.flatMap Piece.text ++ piece.gap).length text) filename
      settings (tokensOf (Settings.filenameOr settings.filename filename) []
        (before ++ piece :: after)) := by
  apply scansAlike_insertAt h (List.append_nil piece.gap).symm
  rwa [List.append_nil]

theorem scansAlike_blanks_behind {blanks : List Char}
    (h : FallsInto (programText source) (before ++ piece :: after))
    (hStop : (before.flatMap Piece.text ++ piece.text).length ≤ source.length)
    (hBlanks : ∀ c ∈ blanks, isBlank c = true) :
    ScansAlike (insertAt source (before.flatMap Piece.text ++ piece.text).length blanks) filename
      settings (tokensOf (Settings.filenameOr settings.filename filename) []
        (before ++ piece :: after)) := by
  have hBehind : before.flatMap Piece.text ++ piece.text =
      (before ++ [piece]).flatMap Piece.text ++ [] := by
    simp
  cases after with
  | nil =>
    rw [hBehind, List.append_nil, ← h.eq_flatMap, length_programText] at hStop
    exact absurd hStop (Nat.not_succ_le_self _)
  | cons next after =>
    rw [List.append_cons] at h ⊢
    have hGap := (h.of_mem (List.mem_append_right _ List.mem_cons_self)).1
    rw [hBehind]
    exact scansAlike_insertAt h (List.nil_append next.gap).symm (hGap.blanks_append hBlanks)

theorem scansAlike_withReturns {pieces : List Piece}
    (h : FallsInto (programText source) pieces) :
    ScansAlike (withReturns source
        (tokensOf (Settings.filenameOr settings.filename filename) [] pieces)) filename settings
      (tokensOf (Settings.filenameOr settings.filename filename) [] pieces) := by
  have hNonempty : programText source ≠ [] := by simp [programText]
  obtain ⟨before, gap, rfl⟩ := h.last_newline (terminated_programText source) hNonempty
  have hLast := (h.of_mem (List.mem_append_right _ List.mem_cons_self)).1
  have hGaps : List.Forall₂ Respaces (before ++ [⟨gap, .newline, ['\n']⟩])
      (before.map Piece.withReturn ++ [⟨gap, .newline, ['\n']⟩]) := by
    apply List.rel_append
    · apply List.forall₂_map_right_iff.mpr
      apply List.forall₂_same.mpr
      intro p hp
      exact Piece.respaces_withReturn (h.of_mem (List.mem_append_left _ hp)).1
    · exact .cons (.refl hLast) .nil
  apply scansAlike_of_respaces h hGaps
  rw [programText, withReturns, String.toList_ofList, returnsOutside_source h, List.flatMap_append,
    List.flatMap_singleton, Piece.text, List.append_assoc]

theorem exists_split_of_mem_placed {passed : List Char} {pieces : List Piece} {name : String}
    {t : Token} (ht : t ∈ placed name passed pieces) :
    ∃ before piece after, pieces = before ++ piece :: after ∧ t.toWord = piece.word ∧
      t.location = Place.location name (passed ++ (before.flatMap Piece.text ++ piece.gap)) := by
  induction pieces generalizing passed with
  | nil => cases ht
  | cons piece pieces ih =>
    rcases List.mem_cons.mp ht with rfl | ht
    · exact ⟨[], piece, pieces, rfl, rfl, rfl⟩
    · obtain ⟨before, piece', after, rfl, hWord, hPlace⟩ := ih ht
      refine ⟨piece :: before, piece', after, rfl, hWord, ?_⟩
      rw [hPlace, List.flatMap_cons]
      simp only [List.append_assoc]

theorem tokensOf_cases {pieces : List Piece} (h : FallsInto (programText source) pieces)
    {name : String} {t : Token} (ht : t ∈ tokensOf name [] pieces) :
    (∃ before piece after, pieces = before ++ piece :: after ∧ t.kind = piece.kind ∧
      t.span (programText source) = ⟨(before.flatMap Piece.text ++ piece.gap).length,
        (before.flatMap Piece.text ++ piece.text).length⟩) ∨
    t.kind = .endOfInput ∧ (t.span (programText source)).start = source.length + 1 := by
  rcases List.mem_append.mp ht with ht | ht
  · obtain ⟨before, piece, after, rfl, hWord, hPlace⟩ := exists_split_of_mem_placed ht
    have hSpells := h.spells (List.mem_append_right _ List.mem_cons_self)
    have hSplit : programText source = [] ++ (before.flatMap Piece.text ++ piece.gap) ++
        (piece.spelling ++ after.flatMap Piece.text) := by
      rw [h.eq_flatMap, List.flatMap_append, List.flatMap_cons, Piece.text]
      simp only [List.append_assoc, List.nil_append]
    refine .inl ⟨before, piece, after, rfl, by rw [← Piece.kind_word, ← hWord], ?_⟩
    rw [hSplit, Token.span_of_append hPlace, hWord, Piece.spelling_word hSpells, Piece.text]
    simp only [List.length_append, List.nil_append, Nat.add_assoc]
  · obtain rfl := List.mem_singleton.mp ht
    have hEnd : (endToken name [] pieces).location = Place.location name (programText source) := by
      rw [h.eq_flatMap]
      rfl
    have hSpan := Token.span_of_append hEnd []
    rw [List.append_nil, length_programText] at hSpan
    exact .inr ⟨rfl, congrArg Span.start hSpan⟩

end Gaps

theorem tokenize_ignores_layout {source : String} {filename : Option String} {settings : Settings}
    {tokens : List Token} (h : tokenize source filename settings = .ok tokens) :
    (∀ offset ≤ source.length, ∀ t ∈ tokens,
        offset = (t.span (programText source)).start ∨
          offset = (t.span (programText source)).stop →
        ∀ blanks : List Char, (∀ c ∈ blanks, isBlank c = true) →
          ScansAlike (insertAt source offset blanks) filename settings tokens) ∧
      (∀ t ∈ tokens, t.kind = .newline → ∀ blanks note : List Char,
        (∀ c ∈ blanks, isBlank c = true) → '\n' ∉ note →
          ScansAlike (insertAt source (t.span (programText source)).start (blanks ++ '#' :: note))
            filename settings tokens) ∧
      ScansAlike (withReturns source tokens) filename settings tokens := by
  obtain ⟨pieces, hPieces, rfl⟩ := tokenize_eq_ok_iff.mp h
  refine ⟨?_, ?_, scansAlike_withReturns hPieces⟩
  · intro offset hOffset t ht hPlace blanks hBlanks
    rcases tokensOf_cases hPieces ht with ⟨before, piece, after, rfl, -, hSpan⟩ | ⟨-, hEnd⟩
    · rw [hSpan] at hPlace
      rcases hPlace with rfl | rfl
      · have hGap := (hPieces.of_mem (List.mem_append_right _ List.mem_cons_self)).1
        exact scansAlike_insert_before hPieces (hGap.append_blanks hBlanks)
      · exact scansAlike_blanks_behind hPieces hOffset hBlanks
    · -- The end of the input begins behind the newline that is not in the source.
      have hStop : (t.span (programText source)).start ≤ (t.span (programText source)).stop :=
        Nat.le_add_right _ _
      omega
  · intro t ht hNewline blanks note hBlanks hNote
    rcases tokensOf_cases hPieces ht with ⟨before, piece, after, rfl, hKind, hSpan⟩ | ⟨hEnd, -⟩
    · have hGap := (hPieces.of_mem (List.mem_append_right _ List.mem_cons_self)).1
      rw [← hKind, hNewline] at hGap
      rw [hSpan]
      apply scansAlike_insert_before hPieces
      rw [← hKind, hNewline, ← List.append_assoc]
      exact (hGap.append_blanks hBlanks).append_comment hNote
    · rw [hEnd] at hNewline
      cases hNewline

/-- A return between two numbers that touch, a comment with a quote in it before the newline behind
a string over two lines, and a return before that newline but not before the one in the string. -/
theorem tokenize_ignores_layout_around_string :
    ∃ tokens, tokenize "1..5\"\n\"# !\n" none {} = .ok tokens ∧
      ScansAlike "1.\r.5\"\n\"# !\n" none {} tokens ∧
      ScansAlike "1..5\"\n\"# !\t#\"@\n" none {} tokens ∧
      ScansAlike "1..5\"\n\"# !\r\n" none {} tokens := by
  have hTokens : tokenize "1..5\"\n\"# !\n" none {} = .ok
      [⟨⟨.number, "1."⟩, ⟨"<input>", 1, 1⟩⟩, ⟨⟨.number, ".5"⟩, ⟨"<input>", 1, 3⟩⟩,
        ⟨⟨.string, "\n"⟩, ⟨"<input>", 1, 5⟩⟩, ⟨⟨.newline, "\n"⟩, ⟨"<input>", 2, 5⟩⟩,
        ⟨⟨.newline, "\n"⟩, ⟨"<input>", 3, 1⟩⟩, ⟨.endOfInput, ⟨"<input>", 4, 1⟩⟩] := by cbv
  obtain ⟨hBlanks, hComment, hReturns⟩ := tokenize_ignores_layout hTokens
  have hInserted : insertAt "1..5\"\n\"# !\n" 2 ['\r'] = "1.\r.5\"\n\"# !\n" := by cbv
  have hStart : (Token.span (programText "1..5\"\n\"# !\n")
      ⟨⟨.newline, "\n"⟩, ⟨"<input>", 2, 5⟩⟩).start = 10 := by cbv
  have hNoted : insertAt "1..5\"\n\"# !\n" 10 ['\t', '#', '"', '@'] =
      "1..5\"\n\"# !\t#\"@\n" := by cbv
  refine ⟨_, hTokens, ?_, ?_, ?_⟩
  · rw [← hInserted]
    exact hBlanks 2 (by cbv) ⟨⟨.number, "1."⟩, ⟨"<input>", 1, 1⟩⟩ (by simp) (.inr (by cbv))
      ['\r'] (List.forall_mem_singleton.mpr rfl)
  · rw [← hNoted, ← hStart]
    exact hComment ⟨⟨.newline, "\n"⟩, ⟨"<input>", 2, 5⟩⟩ (by simp) rfl ['\t'] ['"', '@']
      (List.forall_mem_singleton.mpr rfl) (by decide)
  · refine Eq.mp (congrArg (fun source => ScansAlike source none {} _) ?_) hReturns
    cbv

end TeenyLexer
