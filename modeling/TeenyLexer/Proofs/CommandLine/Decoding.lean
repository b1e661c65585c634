import Mathlib
import TeenyLexer.Proofs.CommandLine.FileDump
import TeenyLexer.Proofs.Text.Quoted

/-! # Reading a dump

A dump holds its tokens: each is read back from its row, with its line, its column, its kind and its
lexeme. So programs whose dumps are the same have the same tokens in the same places.
-/

namespace TeenyLexer

/-- What a dump shows of a token. The name of the file is not part of it. -/
structure Token.Shown where
  line : Int
  column : Int
  word : Word
  deriving DecidableEq

def Token.shown (t : Token) : Token.Shown :=
  ⟨t.location.line, t.location.column, t.toWord⟩

namespace Kind

theorem mem_all (kind : Kind) : kind ∈ all := by
  cases kind with
  | keyword k => cases k <;> decide
  | operator o => cases o <;> decide
  | _ => decide

theorem space_not_mem_name (kind : Kind) : ' ' ∉ kind.name.toList := by
  have hAll : ∀ kind ∈ all, ' ' ∉ kind.name.toList := by decide
  exact hAll kind kind.mem_all

theorem ofName?_name (kind : Kind) : ofName? kind.name = some kind := by
  have hAll : ∀ kind ∈ all, ofName? kind.name = some kind := by decide
  exact hAll kind kind.mem_all

theorem space_not_mem_head_name (kind : Kind) (behind : List Char) :
    ' ' ∉ (kind.name.toList ++ behind).head? := by
  have hAll : ∀ kind ∈ all, kind.name.toList ≠ [] := by decide
  rw [List.head?_append_of_ne_nil _ (hAll kind kind.mem_all)]
  exact fun h => space_not_mem_name kind (List.mem_of_mem_head? h)

end Kind

namespace CommandLine.Dump

open Text

/-- The first field of a row, and what stands behind the spaces after it. -/
def readField (text : List Char) : List Char × List Char :=
  (text.takeWhile (· ≠ ' '), (text.dropWhile (· ≠ ' ')).dropWhile (· = ' '))

def readPosition? (text : List Char) : Option (Int × Int) := do
  let line ← (String.ofList (text.takeWhile (· ≠ ':'))).toInt?
  let column ← (String.ofList ((text.dropWhile (· ≠ ':')).drop 1)).toInt?
  return (line, column)

/-- The word of a row. The end of the input is shown without its lexeme. -/
def readWord? (text : List Char) : Option Word := do
  let (name, behind) := readField text
  let kind ← Kind.ofName? (String.ofList name)
  if kind = .endOfInput then return .endOfInput
  let lexeme ← readQuoted? behind
  return ⟨kind, String.ofList lexeme⟩

def readRow? (text : List Char) : Option Token.Shown := do
  let (position, behind) := readField text
  let (line, column) ← readPosition? position
  let word ← readWord? behind
  return ⟨line, column, word⟩

/-- What a dump shows of its tokens. Nothing stands behind its last newline. -/
def read? (dump : String) : Option (List Token.Shown) :=
  (dump.toList.splitOn '\n').dropLast.mapM readRow?

section Fields

variable {x : Char} {field : List Char}

theorem takeWhile_ne_append (h : x ∉ field) (behind : List Char) :
    (field ++ x :: behind).takeWhile (· ≠ x) = field := by
  have hField : ∀ c ∈ field, decide (c ≠ x) = true := by
    intro c hc
    exact decide_eq_true fun hEq => h (hEq ▸ hc)
  rw [List.takeWhile_append_of_pos hField, List.takeWhile_cons_of_neg (by simp), List.append_nil]

theorem dropWhile_ne_append (h : x ∉ field) (behind : List Char) :
    (field ++ x :: behind).dropWhile (· ≠ x) = x :: behind := by
  have hSplit : (field ++ x :: behind).takeWhile (· ≠ x) ++ (field ++ x :: behind).dropWhile (· ≠ x) =
      field ++ x :: behind := List.takeWhile_append_dropWhile
  rw [takeWhile_ne_append h] at hSplit
  exact List.append_cancel_left hSplit

theorem readField_spaces (hField : ' ' ∉ field) {behind : List Char}
    (hBehind : ' ' ∉ behind.head?) (n : Nat) :
    readField (field ++ (List.replicate n ' ' ++ ' ' :: behind)) = (field, behind) := by
  have hSpaces : List.replicate n ' ' ++ ' ' :: behind =
      ' ' :: (List.replicate n ' ' ++ behind) := by
    rw [← List.cons_append, ← List.replicate_succ, List.replicate_succ', List.append_assoc]
    rfl
  have hRun : ∀ c ∈ ' ' :: List.replicate n ' ', decide (c = ' ') = true := by
    intro c hc
    rw [← List.replicate_succ] at hc
    exact decide_eq_true (List.eq_of_mem_replicate hc)
  have hStop : behind.dropWhile (· = ' ') = behind := by
    cases behind with
    | nil => rfl
    | cons c behind => exact List.dropWhile_cons_of_neg (by simpa [eq_comm] using hBehind)
  rw [hSpaces, readField, takeWhile_ne_append hField, dropWhile_ne_append hField,
    ← List.cons_append, List.dropWhile_append_of_pos hRun, hStop]

theorem readField_alignLeft {width : Nat} {text : String} (hText : ' ' ∉ text.toList)
    {behind : List Char} (hBehind : ' ' ∉ behind.head?) :
    readField ((alignLeft width text).toList ++ ' ' :: behind) = (text.toList, behind) := by
  rw [alignLeft, String.toList_ofList, List.rightpad, List.append_assoc]
  exact readField_spaces hText hBehind _

theorem readField_of_not_mem (h : ' ' ∉ field) : readField field = (field, []) := by
  have hField : ∀ c ∈ field, decide (c ≠ ' ') = true := by
    intro c hc
    exact decide_eq_true fun hEq => h (hEq ▸ hc)
  rw [readField, List.takeWhile_eq_self_iff.mpr hField, List.dropWhile_eq_nil_iff.mpr hField]
  rfl

end Fields

theorem not_mem_toString {x : Char} (hDigit : x.isDigit = false) (hMinus : x ≠ '-') (n : Int) :
    x ∉ (toString n).toList := by
  intro hx
  rcases digit_or_minus_of_mem_toString hx with h | h
  · rw [hDigit] at h
    cases h
  · exact hMinus h

theorem space_not_mem_position (t : Token) : ' ' ∉ t.position.toList := by
  have hNumber : ∀ n : Int, ' ' ∉ (toString n).toList := not_mem_toString rfl (by decide)
  simp only [Token.position, String.toList_append, List.mem_append, not_or]
  exact ⟨⟨hNumber _, by decide⟩, hNumber _⟩

theorem readPosition?_position (t : Token) :
    readPosition? t.position.toList = some (t.location.line, t.location.column) := by
  have hColon : ':' ∉ (toString t.location.line).toList := not_mem_toString rfl (by decide) _
  have hPosition : t.position.toList = (toString t.location.line).toList ++
      ':' :: (toString t.location.column).toList := by
    simp [Token.position, String.toList_append]
  have hNumber : ∀ n : Int, (toString n).toInt? = some n := Int.toInt?_repr
  rw [readPosition?, hPosition, takeWhile_ne_append hColon, dropWhile_ne_append hColon,
    List.drop_one, List.tail_cons, String.ofList_toList, String.ofList_toList, hNumber, hNumber]
  rfl

theorem space_not_mem_head_quote (text : List Char) : ' ' ∉ (quoteChars text).head? := by
  rcases delimiter_cases text with h | h <;> simp [quoteChars, h]

theorem readWord?_name : readWord? Kind.endOfInput.name.toList = some .endOfInput := by
  rw [readWord?, readField_of_not_mem (Kind.space_not_mem_name .endOfInput)]
  simp [Kind.ofName?_name]

theorem readWord?_quoted {kind : Kind} (hKind : kind ≠ .endOfInput) (lexeme : String) :
    readWord? ((alignLeft 15 kind.name).toList ++ ' ' :: quoteChars lexeme.toList) =
      some ⟨kind, lexeme⟩ := by
  rw [readWord?, readField_alignLeft kind.space_not_mem_name
    (space_not_mem_head_quote lexeme.toList)]
  simp [Kind.ofName?_name, hKind, readQuoted?_quoteChars]

theorem readRow?_position {t : Token} {behind : List Char} (hBehind : ' ' ∉ behind.head?) :
    readRow? ((alignLeft 8 t.position).toList ++ ' ' :: behind) =
      (readWord? behind).map fun word => ⟨t.location.line, t.location.column, word⟩ := by
  rw [readRow?, readField_alignLeft (space_not_mem_position t) hBehind]
  simp only [readPosition?_position]
  cases readWord? behind <;> rfl

theorem readRow?_row {t : Token} (hEnd : t.kind = .endOfInput → t.toWord = .endOfInput) :
    readRow? (row t).toList = some t.shown := by
  by_cases hKind : t.kind = .endOfInput
  · have hRow : (row t).toList =
        (alignLeft 8 t.position).toList ++ ' ' :: Kind.endOfInput.name.toList := by
      simp [row, hKind]
    have hName := Kind.space_not_mem_head_name .endOfInput []
    rw [List.append_nil] at hName
    rw [hRow, readRow?_position hName, readWord?_name, ← hEnd hKind]
    rfl
  · have hRow : (row t).toList = (alignLeft 8 t.position).toList ++
        ' ' :: ((alignLeft 15 t.kind.name).toList ++ ' ' :: quoteChars t.lexeme.toList) := by
      simp [row, hKind, quote]
    have hName : ' ' ∉ ((alignLeft 15 t.kind.name).toList ++
        ' ' :: quoteChars t.lexeme.toList).head? := by
      rw [alignLeft, String.toList_ofList, List.rightpad, List.append_assoc]
      exact t.kind.space_not_mem_head_name _
    rw [hRow, readRow?_position hName, readWord?_quoted hKind]
    rfl

section Rows

theorem rows_cons (t : Token) (tokens : List Token) :
    (rows (t :: tokens)).toList = (row t).toList ++ '\n' :: (rows tokens).toList := by
  simp [rows, String.join_cons]

theorem count_newline_rows (tokens : List Token) :
    (rows tokens).toList.count '\n' = tokens.length := by
  induction tokens with
  | nil => rfl
  | cons t tokens ih =>
    rw [rows_cons, List.count_append, List.count_eq_zero.mpr (newline_not_mem_row t),
      List.count_cons_self, ih, Nat.zero_add, List.length_cons]

theorem splitOn_rows (tokens : List Token) :
    (rows tokens).toList.splitOn '\n' = tokens.map (fun t => (row t).toList) ++ [[]] := by
  induction tokens with
  | nil => rfl
  | cons t tokens ih =>
    rw [rows_cons, List.splitOn_append_cons_self_of_not_mem (newline_not_mem_row t), ih,
      List.map_cons, List.cons_append]

theorem read?_rows {tokens : List Token}
    (h : ∀ t ∈ tokens, t.kind = .endOfInput → t.toWord = .endOfInput) :
    read? (rows tokens) = some (tokens.map Token.shown) := by
  rw [read?, splitOn_rows, List.dropLast_concat]
  induction tokens with
  | nil => rfl
  | cons t tokens ih =>
    obtain ⟨hFirst, hRest⟩ := List.forall_mem_cons.mp h
    simp [readRow?_row hFirst, ih hRest]

end Rows

def deliveredFrom (settings : Settings) (source : List Char) : List Token :=
  Scanner.delivered (Scanner.ofSource (String.ofList source) none settings).pulls

theorem toWord_of_mem_deliveredFrom {settings : Settings} {source : List Char} {t : Token}
    (ht : t ∈ deliveredFrom settings source) (hKind : t.kind = .endOfInput) :
    t.toWord = .endOfInput := by
  obtain ⟨s, hOutcome⟩ := Scanner.exists_pull_of_mem_delivered ht
  exact Scanner.toWord_of_kind_eq_endOfInput hOutcome hKind

theorem stdout_ofSource (settings : Settings) (source : List Char) :
    (ofSource settings false source).stdout = rows (deliveredFrom settings source) := by
  rw [← echoAll_rows]
  simp only [ofSource, deliveredFrom, Bool.false_eq_true, if_false, List.append_nil]
  split <;> rfl

theorem isPrintable_of_isLineBreak {c : Char} (h : isLineBreak c = true) :
    isPrintable c = false := by
  simp only [isLineBreak, List.mem_cons, List.not_mem_nil, or_false, decide_eq_true_eq] at h
  rcases h with rfl | rfl | rfl | rfl | rfl | rfl | rfl | rfl | rfl | rfl <;> decide +kernel

/-- Rows are single lines of printable characters, and what a dump shows of its tokens can be read
back from it, for every program. -/
theorem read_undoes_dump :
    (∀ t : Token, allPrintable (row t).toList = true ∧
        (∀ c ∈ (row t).toList, isLineBreak c = false) ∧ stripControl (row t) = row t) ∧
      (∀ (settings : Settings) (source : List Char),
        (ofSource settings false source).stdout = rows (deliveredFrom settings source) ∧
        (ofSource settings false source).stdout.toList.count '\n' =
          (deliveredFrom settings source).length ∧
        read? (ofSource settings false source).stdout =
          some ((deliveredFrom settings source).map Token.shown)) ∧
      (∀ (settings settings' : Settings) (source source' : List Char),
        (ofSource settings false source).stdout = (ofSource settings' false source').stdout →
          (deliveredFrom settings source).map Token.shown =
            (deliveredFrom settings' source').map Token.shown) ∧
      ∀ (find : String → Entry) (env : Environment) (path : String) (text : List Char)
        (arguments : List String) (flags : List Flag),
        Path.Opens find path (Utf8.encode text) →
        Arguments.ofList arguments = .ok ⟨flags, [path]⟩ → (∀ flag ∈ flags, flag = .trace) →
          run arguments env find =
            ofSource ⟨Path.normalize path, (Settings.ofEnvironment env).trace || .trace ∈ flags⟩
              false (unifyNewlines text) := by
  have hRead : ∀ (settings : Settings) (source : List Char),
      read? (ofSource settings false source).stdout =
        some ((deliveredFrom settings source).map Token.shown) := by
    intro settings source
    rw [stdout_ofSource]
    exact read?_rows fun _ => toWord_of_mem_deliveredFrom
  refine ⟨?_, ?_, ?_, ?_⟩
  · intro t
    have hPrintable := allPrintable_row t
    refine ⟨hPrintable, ?_, stripControl_of_not_mem (not_mem_of_allPrintable hPrintable rfl)⟩
    intro c hc
    rw [Bool.eq_false_iff]
    intro hBreak
    exact not_mem_of_allPrintable hPrintable (isPrintable_of_isLineBreak hBreak) hc
  · intro settings source
    refine ⟨stdout_ofSource settings source, ?_, hRead settings source⟩
    rw [stdout_ofSource, count_newline_rows]
  · intro settings settings' source source' hSame
    have hShown := hRead settings source
    rw [hSame, hRead settings' source'] at hShown
    exact (Option.some.inj hShown).symm
  · intro find env path text arguments flags hFile hArguments hFlags
    have hPlain : Flag.verbose ∉ flags := by
      intro hMem
      cases hFlags _ hMem
    rw [run_of_file hFile hArguments fun flag hFlag => .inr (hFlags flag hFlag), ofBytes,
      Utf8.decode_eq_ok_iff.mpr rfl, decide_eq_false hPlain]

/-- The dump of a program with a quote, a control sequence and a NUL in a string, and behind it a
string that is left open. -/
theorem read_undoes_dump_of_control_sequence :
    read? (run ["--trace", "p.teeny"] {}
        (FileTree.ofPaths
          [("p.teeny", .file (Utf8.encode "\"'\x1b[0m\té\x00\"\r\n_2 \"".toList))]).find).stdout =
      some [⟨1, 1, ⟨.string, "'\x1b[0m\té\x00"⟩⟩, ⟨1, 11, ⟨.newline, "\n"⟩⟩,
        ⟨2, 1, ⟨.identifier, "_2"⟩⟩] := by
  have hFind : (FileTree.ofPaths
      [("p.teeny", .file (Utf8.encode "\"'\x1b[0m\té\x00\"\r\n_2 \"".toList))]).find "p.teeny" =
      .file (Utf8.encode "\"'\x1b[0m\té\x00\"\r\n_2 \"".toList) := by
    generalize Utf8.encode "\"'\x1b[0m\té\x00\"\r\n_2 \"".toList = bytes
    cbv
  have hArguments : Arguments.ofList ["--trace", "p.teeny"] = .ok ⟨[.trace], ["p.teeny"]⟩ := by
    decide
  obtain ⟨-, hDump, -, hRun⟩ := read_undoes_dump
  rw [hRun _ {} _ _ _ _ (FileTree.opens hFind) hArguments (by decide), (hDump _ _).2.2]
  cbv

end CommandLine.Dump

end TeenyLexer
