import Mathlib
import TeenyLexer.CommandLine.Listing
import TeenyLexer.Proofs.CommandLine.FileDump

/-! # Statements

The statements of a listing are the runs of tokens between those that end a statement. Each run is
listed once, with the line of its first token, and no token of it is lost. When a scan fails, the
run under way is not listed.
-/

namespace TeenyLexer

namespace Scanner

theorem exists_last_of_tokens_eq_ok {s : Scanner} {tokens : List Token}
    (h : s.tokens = .ok tokens) :
    ∃ before last, tokens = before ++ [last] ∧ last.kind = .endOfInput := by
  have hStream := isStreamOf_tokens s
  rw [h] at hStream
  generalize s.stream = stream at hStream
  cases hStream with
  | @finished before last _ hEnds => exact ⟨before, last, rfl, congrArg Word.kind hEnds⟩

theorem kind_ne_endOfInput_of_mem_delivered {s : Scanner} {d : Diagnostic}
    (h : s.tokens = .error d) {t : Token} (ht : t ∈ delivered s.pulls) : t.kind ≠ .endOfInput := by
  have hStream := isStreamOf_tokens s
  rw [delivered_pulls, List.mem_filterMap] at ht
  obtain ⟨outcome, hOutcome, hToken⟩ := ht
  rw [h] at hStream
  generalize s.stream = stream at hStream hOutcome
  cases hStream with
  | failed hInner =>
    rcases List.mem_append.mp hOutcome with hBefore | hLast
    · obtain ⟨_, hMem, rfl⟩ := List.mem_map.mp hBefore
      cases hToken
      exact hInner t hMem
    · rw [List.mem_singleton.mp hLast] at hToken
      cases hToken

end Scanner

namespace CommandLine.Listing

/-- Tokens with the runs among them that end no statement. A run is as long as can be: it begins
behind the end of a statement, or as the first of all, and the end of a statement follows it. -/
inductive HasRuns : List Token → List (List Token) → Prop
  | nil {gap : List Token} (ends : ∀ t ∈ gap, endsStatement t = true) : HasRuns gap []
  | cons {gap run rest : List Token} {runs : List (List Token)}
      (ends : ∀ t ∈ gap, endsStatement t = true)
      (nonempty : run ≠ []) (inside : ∀ t ∈ run, endsStatement t = false)
      (closed : ∃ t ∈ rest.head?, endsStatement t = true) (more : HasRuns rest runs) :
      HasRuns (gap ++ (run ++ rest)) (run :: runs)

/-- The record of a run: the line of its first token, and then the kind and the lexeme of every
token of it. -/
def IsRecordOf (run : List Token) (record : String) : Prop :=
  ∃ first more, run = first :: more ∧
    record = Text.alignRight 3 (toString first.location.line) ++ ": " ++
      String.intercalate " " (run.map fun t => t.kind.name ++ "(" ++ t.lexeme ++ ")") ++ "\n"

/-- The text lists some tokens by their runs, each of which has one record. -/
structure Lists (tokens : List Token) (text : String) : Prop where
  records : ∃ runs, HasRuns tokens runs ∧ ∃ records, List.Forall₂ IsRecordOf runs records ∧
    text = String.join records
  /-- No other runs would do, and nothing is lost in them. -/
  unique : ∀ runs runs', HasRuns tokens runs → HasRuns tokens runs' → runs = runs'
  lossless : ∀ runs, HasRuns tokens runs → runs.flatten = tokens.filter fun t => !endsStatement t

section Runs

variable {tokens gap run rest pending : List Token} {runs : List (List Token)} {t : Token}

theorem HasRuns.cons_end (h : HasRuns tokens runs) (ht : endsStatement t = true) :
    HasRuns (t :: tokens) runs := by
  cases h with
  | nil hEnds => exact .nil (List.forall_mem_cons.mpr ⟨ht, hEnds⟩)
  | cons hEnds hNonempty hInside hClosed hMore =>
    exact .cons (List.forall_mem_cons.mpr ⟨ht, hEnds⟩) hNonempty hInside hClosed hMore

theorem endsStatement_of_mem_getLast?_cons (ht : endsStatement t = true)
    (h : ∀ t' ∈ tokens.getLast?, endsStatement t' = true) :
    ∀ t' ∈ (t :: tokens).getLast?, endsStatement t' = true := by
  intro t' ht'
  rw [List.getLast?_cons] at ht'
  cases hTokens : tokens.getLast? with
  | none =>
    rw [hTokens] at ht'
    rwa [← Option.some.inj ht']
  | some last =>
    rw [hTokens] at ht'
    rw [← Option.some.inj ht']
    exact h last hTokens

theorem statementsFrom_end (ht : endsStatement t = true) (rest : List Token) :
    statementsFrom [] (t :: rest) = statements rest := by
  rw [statementsFrom, if_pos ht, if_pos rfl, statements]

theorem statementsFrom_pending_end (ht : endsStatement t = true) (hPending : pending ≠ [])
    (rest : List Token) : statementsFrom pending (t :: rest) = pending :: statements rest := by
  rw [statementsFrom, if_pos ht, if_neg hPending, statements]

theorem statementsFrom_inside (ht : endsStatement t = false) (pending rest : List Token) :
    statementsFrom pending (t :: rest) = statementsFrom (pending ++ [t]) rest := by
  rw [statementsFrom, if_neg (by simp [ht])]

theorem statements_gap (h : ∀ t ∈ gap, endsStatement t = true) (rest : List Token) :
    statements (gap ++ rest) = statements rest := by
  induction gap with
  | nil => rfl
  | cons t gap ih =>
    obtain ⟨ht, hGap⟩ := List.forall_mem_cons.mp h
    rw [List.cons_append, statements, statementsFrom_end ht, ih hGap]

theorem statementsFrom_run (h : ∀ t ∈ run, endsStatement t = false) (pending rest : List Token) :
    statementsFrom pending (run ++ rest) = statementsFrom (pending ++ run) rest := by
  induction run generalizing pending with
  | nil => rw [List.nil_append, List.append_nil]
  | cons t run ih =>
    obtain ⟨ht, hRun⟩ := List.forall_mem_cons.mp h
    rw [List.cons_append, statementsFrom_inside ht, ih hRun, List.append_assoc,
      List.singleton_append]

theorem HasRuns.statements_eq (h : HasRuns tokens runs) : statements tokens = runs := by
  induction h with
  | nil hEnds =>
    rename_i gap
    rw [← List.append_nil gap, statements_gap hEnds]
    rfl
  | @cons gap run rest runs hEnds hNonempty hInside hClosed hMore ih =>
    obtain ⟨t, hHead, ht⟩ := hClosed
    obtain ⟨after, rfl⟩ := List.head?_eq_some_iff.mp hHead
    rw [statements, statementsFrom_end ht] at ih
    rw [statements_gap hEnds, statements, statementsFrom_run hInside, List.nil_append,
      statementsFrom_pending_end ht hNonempty, ih]

theorem HasRuns.flatten_eq (h : HasRuns tokens runs) :
    runs.flatten = tokens.filter fun t => !endsStatement t := by
  induction h with
  | nil hEnds =>
    symm
    simpa using hEnds
  | @cons gap run rest runs hEnds hNonempty hInside hClosed hMore ih =>
    have hGap : gap.filter (fun t => !endsStatement t) = [] := by simpa using hEnds
    have hRun : run.filter (fun t => !endsStatement t) = run := by simpa using hInside
    rw [List.flatten_cons, ih, List.filter_append, List.filter_append, hGap, hRun, List.nil_append]

/-- What is listed at any point of the loop, where the tokens `pending` precede those to come: the
runs up to the last end of a statement. -/
theorem exists_hasRuns (hPending : ∀ t ∈ pending, endsStatement t = false) (tokens : List Token) :
    ∃ closed left, pending ++ tokens = closed ++ left ∧
      HasRuns closed (statementsFrom pending tokens) ∧
      (∀ t ∈ closed.getLast?, endsStatement t = true) ∧ ∀ t ∈ left, endsStatement t = false := by
  induction tokens generalizing pending with
  | nil =>
    refine ⟨[], pending, List.append_nil pending, .nil (List.forall_mem_nil _), ?_, hPending⟩
    exact nofun
  | cons t tokens ih =>
    cases ht : endsStatement t with
    | false =>
      have hMore : ∀ t' ∈ pending ++ [t], endsStatement t' = false := by
        intro t' ht'
        rcases List.mem_append.mp ht' with hBefore | hLast
        · exact hPending t' hBefore
        · rw [List.mem_singleton.mp hLast, ht]
      obtain ⟨closed, left, hSplit, hRest⟩ := ih hMore
      rw [List.append_assoc, List.singleton_append] at hSplit
      rw [statementsFrom_inside ht]
      exact ⟨closed, left, hSplit, hRest⟩
    | true =>
      obtain ⟨closed, left, hSplit, hRuns, hLast, hLeft⟩ := ih (List.forall_mem_nil _)
      rw [List.nil_append] at hSplit
      have hLast' := endsStatement_of_mem_getLast?_cons ht hLast
      have hEnd := hRuns.cons_end ht
      by_cases hNone : pending = []
      · subst hNone
        rw [statementsFrom_end ht]
        exact ⟨t :: closed, left, congrArg (t :: ·) hSplit, hEnd, hLast', hLeft⟩
      · rw [statementsFrom_pending_end ht hNone]
        refine ⟨pending ++ t :: closed, left, ?_, ?_, ?_, hLeft⟩
        · rw [hSplit, List.append_assoc]
          rfl
        · exact .cons (List.forall_mem_nil _) hNone hPending ⟨t, rfl, ht⟩ hEnd
        · rwa [List.getLast?_append_of_ne_nil _ (List.cons_ne_nil t closed)]

end Runs

theorem isRecordOf_entry {run : List Token} (h : run ≠ []) : IsRecordOf run (entry run) := by
  obtain ⟨first, more, rfl⟩ := List.exists_cons_of_ne_nil h
  exact ⟨first, more, rfl, rfl⟩

theorem HasRuns.lists {tokens : List Token} {runs : List (List Token)} (h : HasRuns tokens runs) :
    Lists tokens (String.join (runs.map entry)) where
  records := by
    refine ⟨runs, h, runs.map entry, ?_, rfl⟩
    induction h with
    | nil => exact .nil
    | cons _ hNonempty _ _ _ ih => exact .cons (isRecordOf_entry hNonempty) ih
  unique := by
    intro runs runs' hRuns hRuns'
    exact hRuns.statements_eq.symm.trans hRuns'.statements_eq
  lossless := fun _ hRuns => hRuns.flatten_eq

/-- What is owed for a program in a file of some name. -/
structure Answers (name : String) (text : List Char) (shown : Transcript) : Prop where
  finished : ∀ tokens, tokenize (Dump.programOf text) (some name) {} = .ok tokens →
    Lists tokens shown.stdout ∧ shown.stderr = "" ∧ shown.exitCode = 0
  /-- The tokens before the fault fall into those up to the last newline, which are listed, and
  those behind it. -/
  failed : ∀ d, tokenize (Dump.programOf text) (some name) {} = .error d →
    ∃ closed left,
      (Scanner.ofSource (Dump.programOf text) (some name) {}).outcomes
          ((closed ++ left).length + 1) = (closed ++ left).map .ok ++ [.error d] ∧
      (∀ t ∈ closed ++ left, t.kind ≠ .endOfInput) ∧
      (∀ t ∈ closed.getLast?, t.kind = .newline) ∧ (∀ t ∈ left, t.kind ≠ .newline) ∧
      Lists closed shown.stdout ∧ shown.stderr = d.message ++ "\n" ∧ shown.exitCode = 1

theorem endsStatement_eq_true_iff {t : Token} :
    endsStatement t = true ↔ t.kind = .newline ∨ t.kind = .endOfInput := by
  simp [endsStatement]

section Program

variable {name : String} {source : List Char}

theorem ofSource_of_ok {tokens : List Token}
    (h : tokenize (String.ofList source) (some name) {} = .ok tokens) :
    ofSource name source = { stdout := String.join ((statements tokens).map entry) } := by
  obtain ⟨hFailure, hDelivered⟩ := Scanner.delivered_of_tokens_eq_ok h
  simp only [ofSource, hFailure, hDelivered]

theorem exists_ofSource_of_error {d : Diagnostic}
    (h : tokenize (String.ofList source) (some name) {} = .error d) :
    ∃ before, (Scanner.ofSource (String.ofList source) (some name) {}).outcomes
          (before.length + 1) = before.map .ok ++ [.error d] ∧
      (∀ t ∈ before, t.kind ≠ .endOfInput) ∧
      ofSource name source =
        { stdout := String.join ((statements before).map entry)
          stderr := d.message ++ "\n"
          exitCode := 1 } := by
  obtain ⟨hFailure, hOutcomes⟩ := Scanner.delivered_of_tokens_eq_error h
  refine ⟨_, hOutcomes, fun _ => Scanner.kind_ne_endOfInput_of_mem_delivered h, ?_⟩
  simp only [ofSource, hFailure]

/-- The end of the input closes the last run. -/
theorem hasRuns_of_tokenize_eq_ok {filename : Option String} {settings : Settings} {source : String}
    {tokens : List Token} (h : tokenize source filename settings = .ok tokens) :
    HasRuns tokens (statements tokens) := by
  obtain ⟨closed, left, hSplit, hRuns, -, hLeft⟩ := exists_hasRuns (List.forall_mem_nil _) tokens
  obtain ⟨before, last, hTokens, hKind⟩ := Scanner.exists_last_of_tokens_eq_ok h
  have hNone : left = [] := by
    by_contra hSome
    have hLast : left.getLast? = some last := by
      rw [← List.getLast?_append_of_ne_nil closed hSome, ← hSplit, hTokens]
      exact List.getLast?_concat
    have hInside := hLeft last (List.mem_of_getLast? hLast)
    rw [endsStatement_eq_true_iff.mpr (.inr hKind)] at hInside
    cases hInside
  rw [hNone, List.append_nil, List.nil_append] at hSplit
  rw [hSplit] at hRuns ⊢
  exact hRuns

end Program

theorem answers_ofSource (name : String) (text : List Char) :
    Answers name text (ofSource name (Text.unifyNewlines text)) where
  finished := by
    intro tokens hTokens
    rw [ofSource_of_ok hTokens]
    exact ⟨(hasRuns_of_tokenize_eq_ok hTokens).lists, rfl, rfl⟩
  failed := by
    intro d hFails
    obtain ⟨before, hOutcomes, hInner, hShown⟩ := exists_ofSource_of_error hFails
    obtain ⟨closed, left, hSplit, hRuns, hLast, hLeft⟩ :=
      exists_hasRuns (List.forall_mem_nil _) before
    rw [List.nil_append] at hSplit
    rw [hSplit] at hOutcomes hInner
    rw [hShown]
    refine ⟨closed, left, hOutcomes, hInner, ?_, ?_, hRuns.lists, rfl, rfl⟩
    · intro t ht
      rcases endsStatement_eq_true_iff.mp (hLast t ht) with hNewline | hEnd
      · exact hNewline
      · exact absurd hEnd (hInner t (List.mem_append_left _ (List.mem_of_getLast? ht)))
    · intro t ht hNewline
      have hInside := hLeft t ht
      rw [endsStatement_eq_true_iff.mpr (.inl hNewline)] at hInside
      cases hInside

/-- Every file that can be read as text is listed by its statements. -/
theorem ofFile_lists_statements {find : String → Entry} {path : String} {text : List Char}
    (hFile : find (Path.normalize path) = .file (Text.Utf8.encode text)) :
    ∃ shown, ofFile find path = .ok shown ∧ Answers (Path.normalize path) text shown := by
  refine ⟨_, ?_, answers_ofSource _ text⟩
  simp only [ofFile, hFile, Entry.read, ofBytes, Text.Utf8.decode_eq_ok_iff.mpr rfl]

/-- A statement over two lines, one behind a blank line and a comment, and one with a fault. -/
theorem ofFile_lists_statements_before_fault :
    ∃ shown, ofFile (FileTree.ofPaths [("src/p.teeny",
        .file (Text.Utf8.encode "PRINT \"é\r\n\"\n\n# x\n y=1\nLET !".toList))]).find
        "src//./p.teeny" = .ok shown ∧
      Answers (Path.normalize "src//./p.teeny") "PRINT \"é\r\n\"\n\n# x\n y=1\nLET !".toList
        shown := by
  have hFind : (FileTree.ofPaths [("src/p.teeny",
      .file (Text.Utf8.encode "PRINT \"é\r\n\"\n\n# x\n y=1\nLET !".toList))]).find
        "src//./p.teeny" =
      .file (Text.Utf8.encode "PRINT \"é\r\n\"\n\n# x\n y=1\nLET !".toList) := by
    generalize Text.Utf8.encode "PRINT \"é\r\n\"\n\n# x\n y=1\nLET !".toList = bytes
    cbv
  exact ofFile_lists_statements (FileTree.opens hFind).normal

end CommandLine.Listing

end TeenyLexer
