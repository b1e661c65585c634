/-! # Aligned columns

Padding with spaces up to a width. A text that is already as wide is left alone.
-/

namespace TeenyLexer.Text

def alignLeft (width : Nat) (text : String) : String :=
  String.ofList (text.toList.rightpad width ' ')

def alignRight (width : Nat) (text : String) : String :=
  String.ofList (text.toList.leftpad width ' ')

end TeenyLexer.Text
