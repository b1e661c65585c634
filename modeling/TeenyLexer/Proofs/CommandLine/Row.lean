import TeenyLexer.CommandLine.Dump
import TeenyLexer.Proofs.Text.Printable

/-! # Rows of a dump

The row of a token is printable whatever the token quotes. So it is one line, and it is shown as it
is.
-/

namespace TeenyLexer

open Text

theorem Kind.allPrintable_name (kind : Kind) : allPrintable kind.name.toList = true := by
  cases kind with
  | keyword k => cases k <;> rfl
  | operator o => cases o <;> rfl
  | _ => rfl

theorem Token.allPrintable_position (t : Token) : allPrintable t.position.toList = true := by
  have hColon : allPrintable ":".toList = true := rfl
  simp only [Token.position, String.toList_append, allPrintable_append, allPrintable_toString,
    hColon, Bool.and_self]

namespace CommandLine.Dump

theorem allPrintable_row (t : Token) : allPrintable (row t).toList = true := by
  have hSpace : allPrintable " ".toList = true := rfl
  have hPosition := allPrintable_alignLeft 8 t.allPrintable_position
  have hKind := allPrintable_alignLeft 15 t.kind.allPrintable_name
  rw [row]
  split
  · simp only [String.toList_append, allPrintable_append, hPosition, hSpace,
      Kind.allPrintable_name, Bool.and_self]
  · simp only [String.toList_append, allPrintable_append, hPosition, hSpace, hKind,
      allPrintable_quote, Bool.and_self]

theorem newline_not_mem_row (t : Token) : '\n' ∉ (row t).toList :=
  not_mem_of_allPrintable (allPrintable_row t) rfl

theorem echo_row (t : Token) : echo (row t) = row t ++ "\n" := by
  rw [echo, stripControl_of_not_mem (not_mem_of_allPrintable (allPrintable_row t) rfl)]

/-- Some tokens, each on a line of its own. -/
def rows (tokens : List Token) : String :=
  String.join (tokens.map fun t => row t ++ "\n")

theorem echoAll_rows (tokens : List Token) : echoAll (tokens.map row) = rows tokens := by
  rw [echoAll, rows, List.map_map]
  congr 1
  exact List.map_congr_left fun t _ => echo_row t

theorem echoAll_append (above below : List String) :
    echoAll (above ++ below) = echoAll above ++ echoAll below := by
  rw [echoAll, List.map_append, String.join_append]
  rfl

end CommandLine.Dump

end TeenyLexer
