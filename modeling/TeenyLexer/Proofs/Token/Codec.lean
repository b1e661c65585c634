import TeenyLexer.Proofs.Source.Spelling

/-! # Lexemes and spellings

Undoing the escapes of a lexeme gives the body of its string back, so a word that has a
spelling is written by exactly that spelling.
-/

namespace TeenyLexer

namespace Escape

theorem encode_cons_of_isEscaped {c : Char} (h : isEscaped c = true) (body : List Char) :
    encode (c :: body) = '\\' :: c :: encode body := by
  simp [encode, h]

theorem encode_cons_of_not_isEscaped {c : Char} (h : isEscaped c = false) (body : List Char) :
    encode (c :: body) = c :: encode body := by
  simp [encode, h]

theorem mem_encode {c : Char} {body : List Char} (h : c ∈ body) : c ∈ encode body := by
  apply List.mem_flatMap.mpr
  refine ⟨c, h, ?_⟩
  split <;> simp

/-- Only backslashes are added by the escapes. -/
theorem count_encode {c : Char} (h : c ≠ '\\') (body : List Char) :
    (encode body).count c = body.count c := by
  induction body with
  | nil => rfl
  | cons d body ih =>
    cases hd : isEscaped d with
    | true =>
      rw [encode_cons_of_isEscaped hd, List.count_cons_of_ne h.symm, List.count_cons, ih,
        List.count_cons]
    | false => rw [encode_cons_of_not_isEscaped hd, List.count_cons, ih, List.count_cons]

theorem decode_escape {c : Char} (h : isEscaped c = true) (rest : List Char) :
    decode ('\\' :: c :: rest) = (c :: ·) <$> decode rest := by
  rw [decode, if_pos rfl, if_pos h]

theorem decode_cons_of_not_isEscaped {c : Char} (h : isEscaped c = false) (rest : List Char) :
    decode (c :: rest) = (c :: ·) <$> decode rest := by
  have hc : c ≠ '\\' := by
    rintro rfl
    cases h
  cases rest with
  | nil => simp [decode, h]
  | cons d rest => rw [decode, if_neg hc, h, if_neg Bool.false_ne_true]

theorem decode_encode (body : List Char) : decode (encode body) = some body := by
  induction body with
  | nil => rfl
  | cons c body ih =>
    cases hc : isEscaped c with
    | true =>
      rw [encode_cons_of_isEscaped hc, decode_escape hc, ih]
      rfl
    | false =>
      rw [encode_cons_of_not_isEscaped hc, decode_cons_of_not_isEscaped hc, ih]
      rfl

end Escape

namespace Word

@[simp] theorem kind_ofSpelling (kind : Kind) (spelling : List Char) :
    (ofSpelling kind spelling).kind = kind := by
  rw [ofSpelling]
  split <;> rfl

theorem ofSpelling_string (body : List Char) :
    ofSpelling .string ('"' :: body ++ ['"']) =
      ⟨.string, String.ofList (Escape.encode body)⟩ := by
  simp [ofSpelling]

theorem lexeme_of_ne_string {kind : Kind} (h : kind ≠ .string) (text : List Char) :
    (ofSpelling kind text).lexeme = String.ofList text := by
  rw [ofSpelling, if_neg h]

theorem spelling_of_ne_string {kind : Kind} (h : kind ≠ .string) (text : List Char) :
    (ofSpelling kind text).spelling = text := by
  simp [ofSpelling, spelling, h]

theorem spelling_of_string (body : List Char) :
    (ofSpelling .string ('"' :: body ++ ['"'])).spelling = '"' :: body ++ ['"'] := by
  have hBody : ('"' :: body ++ ['"']).tail.dropLast = body := by simp
  simp only [ofSpelling, spelling, if_true, hBody, String.toList_ofList, Escape.decode_encode,
    Option.getD_some]

theorem spelling_ofSpelling {kind : Kind} {text : List Char} (h : Spells kind text) :
    (ofSpelling kind text).spelling = text := by
  cases h with
  | string _ => exact spelling_of_string _
  | _ => exact spelling_of_ne_string Kind.noConfusion _

theorem IsSpelled.spells {w : Word} (h : w.IsSpelled) : Spells w.kind w.spelling := by
  obtain ⟨text, hSpells, hWord⟩ := h
  rw [hWord, kind_ofSpelling, spelling_ofSpelling hSpells]
  exact hSpells

theorem IsSpelled.ofSpelling_spelling {w : Word} (h : w.IsSpelled) :
    ofSpelling w.kind w.spelling = w := by
  obtain ⟨text, hSpells, hWord⟩ := h
  have hSpelling : w.spelling = text := by rw [hWord, spelling_ofSpelling hSpells]
  rw [hSpelling, ← hWord]

end Word

end TeenyLexer
