import Mathlib
import TeenyLexer.Proofs.CommandLine.Row
import TeenyLexer.Proofs.CommandLine.Statements
import TeenyLexer.Proofs.Rendering.Newlines
import TeenyLexer.Proofs.Text.Lines

/-! # The lines of a listing

The record of a statement begins a line, which is headed by the line of the statement's first token.
Lexemes are listed as they are, so a newline in a string breaks the record, and the line behind it
has no head. A listing has one line for each statement where no string holds a newline.
-/

namespace TeenyLexer.CommandLine.Listing

open Text

/-- What stands in front of the tokens of a statement. -/
def head (first : Token) : List Char :=
  (alignRight 3 (toString first.location.line) ++ ": ").toList

/-- A line that is headed by the line of the first token of a run. -/
def HeadsLine (run : List Token) (line : List Char) : Prop :=
  ∃ first ∈ run.head?, head first <+: line

/-- The lines that the record of a run takes up. The first has a head, and each newline in a string
begins one more. -/
structure TakesLines (run : List Token) (lines : List (List Char)) : Prop where
  record : IsRecordOf run (String.ofList (['\n'].intercalate lines) ++ "\n")
  headed : ∃ line ∈ lines.head?, HeadsLine run line
  length : lines.length = newlinesInStrings run + 1

/-- A text whose lines are those of the runs among some tokens, one run after the other. -/
structure ListsByLine (tokens : List Token) (text : String) : Prop where
  lines : ∃ runs lines, HasRuns tokens runs ∧ List.Forall₂ TakesLines runs lines ∧
    text.toList.splitOn '\n' = lines.flatten ++ [[]]
  count : ∀ runs, HasRuns tokens runs →
    text.toList.count '\n' = runs.length + newlinesInStrings tokens
  one_each_iff : ∀ runs, HasRuns tokens runs →
    (text.toList.count '\n' = runs.length ↔
      ∀ t ∈ tokens, t.kind = .string → '\n' ∉ t.lexeme.toList)
  one_each : (∀ t ∈ tokens, t.kind = .string → '\n' ∉ t.lexeme.toList) →
    ∀ runs, HasRuns tokens runs →
      List.Forall₂ HeadsLine runs (text.toList.splitOn '\n').dropLast

section Records

variable {run : List Token}

/-- The record of a run up to the newline that ends it. -/
def recordText : List Token → List Char
  | [] => []
  | first :: more => head first ++ [' '].intercalate ((first :: more).map fun t => (item t).toList)

theorem toList_entry (h : run ≠ []) : (entry run).toList = recordText run ++ ['\n'] := by
  obtain ⟨first, more, rfl⟩ := List.exists_cons_of_ne_nil h
  have hItems : ((first :: more).map item).map String.toList =
      (first :: more).map fun t => (item t).toList := List.map_map
  rw [entry, String.toList_append, String.toList_append, String.toList_intercalate, hItems]
  rfl

theorem newline_not_mem_head (first : Token) : '\n' ∉ head first := by
  have hColon : allPrintable ": ".toList = true := rfl
  have hLine := allPrintable_alignRight 3 (allPrintable_toString first.location.line)
  apply not_mem_of_allPrintable _ rfl
  rw [head, String.toList_append, allPrintable_append, hLine, hColon, Bool.and_self]

theorem count_newline_item (t : Token) :
    (item t).toList.count '\n' = t.lexeme.toList.count '\n' := by
  have hName : t.kind.name.toList.count '\n' = 0 :=
    List.count_eq_zero.mpr (not_mem_of_allPrintable t.kind.allPrintable_name rfl)
  simp [item, String.toList_append, hName]

/-- Of all that is shown of a run only its strings can hold newlines. -/
theorem count_newline_recordText (h : ∀ t ∈ run, t.kind ≠ .string → '\n' ∉ t.lexeme.toList) :
    (recordText run).count '\n' = newlinesInStrings run := by
  cases run with
  | nil => rfl
  | cons first more =>
    rw [recordText, List.count_append, List.count_eq_zero.mpr (newline_not_mem_head first),
      Nat.zero_add, count_newline_intercalate (by decide), List.map_map, ← sum_count_newline h]
    exact congrArg List.sum (List.map_congr_left fun t _ => count_newline_item t)

theorem takesLines_recordText (hRun : run ≠ [])
    (h : ∀ t ∈ run, t.kind ≠ .string → '\n' ∉ t.lexeme.toList) :
    TakesLines run ((recordText run).splitOn '\n') where
  record := by
    have hEntry : String.ofList (recordText run) ++ "\n" = entry run := by
      rw [← String.toList_inj, toList_entry hRun, String.toList_append, String.toList_ofList]
      rfl
    rw [List.intercalate_splitOn, hEntry]
    exact isRecordOf_entry hRun
  headed := by
    obtain ⟨first, more, rfl⟩ := List.exists_cons_of_ne_nil hRun
    obtain ⟨line, hLine, hHead⟩ := exists_head_splitOn_newline (newline_not_mem_head first)
      ([' '].intercalate ((first :: more).map fun t => (item t).toList))
    exact ⟨line, hLine, first, rfl, hHead⟩
  length := by rw [length_splitOn_newline, count_newline_recordText h]

theorem TakesLines.eq_singleton {lines : List (List Char)} (h : TakesLines run lines)
    (hNone : newlinesInStrings run = 0) : ∃ line, lines = [line] ∧ HeadsLine run line := by
  have hLength := h.length
  rw [hNone] at hLength
  obtain ⟨line, rfl⟩ := List.length_eq_one_iff.mp hLength
  obtain ⟨_, hLine, hHeaded⟩ := h.headed
  cases hLine
  exact ⟨line, rfl, hHeaded⟩

end Records

section Runs

variable {tokens : List Token} {runs : List (List Token)}

theorem HasRuns.ne_nil_of_mem (h : HasRuns tokens runs) {run : List Token} (hRun : run ∈ runs) :
    run ≠ [] := by
  induction h with
  | nil => cases hRun
  | cons _ hNonempty _ _ _ ih =>
    rcases List.mem_cons.mp hRun with rfl | hMore
    · exact hNonempty
    · exact ih hMore

theorem HasRuns.mem_of_mem (h : HasRuns tokens runs) {run : List Token} (hRun : run ∈ runs)
    {t : Token} (ht : t ∈ run) : t ∈ tokens ∧ endsStatement t = false := by
  have hMem : t ∈ runs.flatten := List.mem_flatten.mpr ⟨run, hRun, ht⟩
  rw [h.flatten_eq, List.mem_filter] at hMem
  exact ⟨hMem.1, by simpa using hMem.2⟩

theorem HasRuns.sum_newlinesInStrings (h : HasRuns tokens runs) :
    (runs.map newlinesInStrings).sum = newlinesInStrings tokens := by
  rw [← newlinesInStrings_flatten, h.flatten_eq]
  apply newlinesInStrings_filter
  intro t _ hKind
  rw [endsStatement, hKind]
  rfl

theorem length_flatten_of_takesLines {lines : List (List (List Char))}
    (h : List.Forall₂ TakesLines runs lines) :
    lines.flatten.length = runs.length + (runs.map newlinesInStrings).sum := by
  induction h with
  | nil => rfl
  | cons hFirst _ ih =>
    rw [List.flatten_cons, List.length_append, hFirst.length, ih, List.map_cons, List.sum_cons,
      List.length_cons]
    omega

theorem forall₂_headsLine_flatten {lines : List (List (List Char))}
    (h : List.Forall₂ TakesLines runs lines) (hNone : ∀ run ∈ runs, newlinesInStrings run = 0) :
    List.Forall₂ HeadsLine runs lines.flatten := by
  induction h with
  | nil => exact .nil
  | cons hFirst _ ih =>
    obtain ⟨hNoneFirst, hNoneMore⟩ := List.forall_mem_cons.mp hNone
    obtain ⟨line, rfl, hHeaded⟩ := hFirst.eq_singleton hNoneFirst
    exact .cons hHeaded (ih hNoneMore)

/-- The lines of some records, which are each ended by a newline. -/
theorem splitOn_join_entry (h : ∀ run ∈ runs, run ≠ []) :
    (String.join (runs.map entry)).toList.splitOn '\n' =
      (runs.map fun run => (recordText run).splitOn '\n').flatten ++ [[]] := by
  have hTexts : (String.join (runs.map entry)).toList =
      (runs.map recordText).flatMap fun text => text ++ ['\n'] := by
    rw [String.toList_join, List.flatMap_map, List.flatMap_map]
    exact List.flatMap_congr fun run hRun => toList_entry (h run hRun)
  rw [hTexts, splitOn_newline_flatMap, List.flatMap_map]
  rfl

theorem HasRuns.forall₂_takesLines (h : HasRuns tokens runs)
    (hLexemes : ∀ t ∈ tokens, endsStatement t = false → t.kind ≠ .string →
      '\n' ∉ t.lexeme.toList) :
    List.Forall₂ TakesLines runs (runs.map fun run => (recordText run).splitOn '\n') := by
  rw [List.forall₂_map_right_iff, List.forall₂_same]
  intro run hRun
  apply takesLines_recordText (h.ne_nil_of_mem hRun)
  intro t ht
  obtain ⟨hMem, hInside⟩ := h.mem_of_mem hRun ht
  exact hLexemes t hMem hInside

theorem HasRuns.listsByLine (h : HasRuns tokens runs)
    (hLexemes : ∀ t ∈ tokens, endsStatement t = false → t.kind ≠ .string →
      '\n' ∉ t.lexeme.toList) :
    ListsByLine tokens (String.join (runs.map entry)) := by
  have hSplit := splitOn_join_entry fun run => h.ne_nil_of_mem
  have hLines := h.forall₂_takesLines hLexemes
  have hCount : (String.join (runs.map entry)).toList.count '\n' =
      runs.length + newlinesInStrings tokens := by
    have hLength := length_splitOn_newline (String.join (runs.map entry)).toList
    rw [hSplit, List.length_append, length_flatten_of_takesLines hLines, h.sum_newlinesInStrings,
      List.length_singleton] at hLength
    omega
  -- The tokens settle the runs, so there are no others to count the lines of.
  have hUnique : ∀ runs', HasRuns tokens runs' → runs' = runs :=
    fun runs' h' => h'.statements_eq.symm.trans h.statements_eq
  refine ⟨⟨runs, _, h, hLines, hSplit⟩, ?_, ?_, ?_⟩
  · intro runs' h'
    rw [hUnique runs' h', hCount]
  · intro runs' h'
    rw [hUnique runs' h', hCount, Nat.add_eq_left, newlinesInStrings_eq_zero_iff]
  · intro hPlain runs' h'
    rw [hUnique runs' h', hSplit, List.dropLast_concat]
    apply forall₂_headsLine_flatten hLines
    intro run hRun
    apply newlinesInStrings_eq_zero_iff.mpr
    intro t ht
    exact hPlain t (h.mem_of_mem hRun ht).1

end Runs

theorem ofFile_of_text {find : String → Entry} {path : String} {text : List Char}
    (h : find (Path.normalize path) = .file (Utf8.encode text)) :
    ofFile find path = .ok (ofSource (Path.normalize path) (unifyNewlines text)) := by
  simp only [ofFile, h, Entry.read, ofBytes, Utf8.decode_eq_ok_iff.mpr rfl]

/-- Every file without a fault is listed by the lines of its statements. The lines that have no head
are as many as the newlines of the program inside of its strings. -/
theorem ofFile_lists_by_line {find : String → Entry} {path : String} {text : List Char}
    {tokens : List Token} (hFile : find (Path.normalize path) = .file (Utf8.encode text))
    (hTokens : tokenize (Dump.programOf text) (some (Path.normalize path)) {} = .ok tokens) :
    ∃ shown, ofFile find path = .ok shown ∧ ListsByLine tokens shown.stdout ∧
      (unifyNewlines text).count '\n' =
        newlinesOutside 0 (stringSpans (programText (Dump.programOf text)) tokens)
          (unifyNewlines text) + newlinesInStrings tokens := by
  have hNewlines := count_newline_of_tokenize hTokens
  rw [Dump.programOf, String.toList_ofList] at hNewlines
  refine ⟨_, ofFile_of_text hFile, ?_, hNewlines⟩
  rw [ofSource_of_ok hTokens]
  apply (hasRuns_of_tokenize_eq_ok hTokens).listsByLine
  intro t ht hInside hString
  apply newline_not_mem_lexeme hTokens ht _ hString
  intro hNewline
  rw [endsStatement_eq_true_iff.mpr (.inl hNewline)] at hInside
  cases hInside

/-- A string over three lines, the second of which looks like a head. -/
theorem ofFile_lists_by_line_of_string :
    let bytes := Utf8.encode "# 1\n  LET s = \"a\r\n  2: \n\"\rPRINT s".toList
    let tokens : List Token := [⟨⟨.newline, "\n"⟩, ⟨"p.teeny", 1, 4⟩⟩,
      ⟨⟨.keyword .let, "LET"⟩, ⟨"p.teeny", 2, 3⟩⟩, ⟨⟨.identifier, "s"⟩, ⟨"p.teeny", 2, 7⟩⟩,
      ⟨⟨.operator .assign, "="⟩, ⟨"p.teeny", 2, 9⟩⟩,
      ⟨⟨.string, "a\n  2: \n"⟩, ⟨"p.teeny", 2, 11⟩⟩, ⟨⟨.newline, "\n"⟩, ⟨"p.teeny", 4, 2⟩⟩,
      ⟨⟨.keyword .print, "PRINT"⟩, ⟨"p.teeny", 5, 1⟩⟩, ⟨⟨.identifier, "s"⟩, ⟨"p.teeny", 5, 7⟩⟩,
      ⟨⟨.newline, "\n"⟩, ⟨"p.teeny", 5, 8⟩⟩, ⟨.endOfInput, ⟨"p.teeny", 6, 1⟩⟩]
    tokenize "# 1\n  LET s = \"a\n  2: \n\"\nPRINT s" (some "p.teeny") {} = .ok tokens ∧
      ∃ shown runs, ofFile (FileTree.ofPaths [("p.teeny", .file bytes)]).find "p.teeny" =
          .ok shown ∧
        ListsByLine tokens shown.stdout ∧ HasRuns tokens runs ∧ runs.length = 2 ∧
        shown.stdout.toList.count '\n' = 4 := by
  intro bytes tokens
  have hFile : Path.Opens (FileTree.ofPaths [("p.teeny", .file bytes)]).find "p.teeny" bytes :=
    FileTree.opens_singleton "p.teeny" bytes (by decide) (by decide) (by decide) (by decide)
  have hTokens : tokenize (Dump.programOf "# 1\n  LET s = \"a\r\n  2: \n\"\rPRINT s".toList)
      (some (Path.normalize "p.teeny")) {} = .ok tokens := by cbv
  have hRuns := hasRuns_of_tokenize_eq_ok hTokens
  obtain ⟨shown, hShown, hLines, -⟩ := ofFile_lists_by_line hFile.normal hTokens
  refine ⟨by cbv, shown, statements tokens, hShown, hLines, hRuns, by decide, ?_⟩
  rw [hLines.count _ hRuns]
  decide

/-- One statement with a newline in its string takes up two lines, and the second has no head. -/
theorem ofFile_breaks_line_in_string :
    let run : List Token := [⟨⟨.keyword .print, "PRINT"⟩, ⟨"p.teeny", 1, 1⟩⟩,
      ⟨⟨.string, "a\nb"⟩, ⟨"p.teeny", 1, 7⟩⟩]
    let tokens : List Token := run ++ [⟨⟨.newline, "\n"⟩, ⟨"p.teeny", 2, 3⟩⟩,
      ⟨⟨.newline, "\n"⟩, ⟨"p.teeny", 3, 1⟩⟩, ⟨.endOfInput, ⟨"p.teeny", 4, 1⟩⟩]
    tokenize "PRINT \"a\nb\"\n" (some "p.teeny") {} = .ok tokens ∧ HasRuns tokens [run] ∧
      ofFile (FileTree.ofPaths
          [("p.teeny", .file (Utf8.encode "PRINT \"a\nb\"\n".toList))]).find "p.teeny" =
        .ok { stdout := "  1: PRINT(PRINT) STRING(a\nb)\n" } ∧
      "  1: PRINT(PRINT) STRING(a\nb)\n".toList.count '\n' ≠ [run].length ∧
      "  1: PRINT(PRINT) STRING(a\nb)\n".toList.splitOn '\n' =
        ["  1: PRINT(PRINT) STRING(a".toList, "b)".toList, []] ∧
      ¬HeadsLine run "b)".toList := by
  intro run tokens
  have hFile := FileTree.opens_singleton "p.teeny" (Utf8.encode "PRINT \"a\nb\"\n".toList)
    (by decide) (by decide) (by decide) (by decide)
  have hTokens : tokenize (Dump.programOf "PRINT \"a\nb\"\n".toList)
      (some (Path.normalize "p.teeny")) {} = .ok tokens := by cbv
  have hRuns : HasRuns tokens [run] := hasRuns_of_tokenize_eq_ok hTokens
  refine ⟨by cbv, hRuns, ?_, by decide, by decide, ?_⟩
  · rw [ofFile_of_text hFile.normal, ofSource_of_ok hTokens, hRuns.statements_eq]
    cbv
  · rintro ⟨first, hFirst, hHead⟩
    cases hFirst
    exact absurd hHead (by decide)

end TeenyLexer.CommandLine.Listing
