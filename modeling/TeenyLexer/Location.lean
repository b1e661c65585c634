/-! # Locations

A file name with a line and a column, both counted from one. Locations made by a scanner
are never below that; a location made by hand may hold any integers.
-/

namespace TeenyLexer

structure Location where
  filename : String
  line : Int
  column : Int
  deriving DecidableEq

def Location.text (l : Location) : String :=
  l.filename ++ ":" ++ toString l.line ++ ":" ++ toString l.column

end TeenyLexer
