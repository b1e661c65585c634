/-! # Escapes in string literals

The lexeme of a string literal can be dropped into a format string: a percent sign and a
backslash of the body are preceded by a backslash. Undoing the two escapes from left to
right gives the body back.
-/

namespace TeenyLexer.Escape

def isEscaped (c : Char) : Bool :=
  c == '%' || c == '\\'

def encode (body : List Char) : List Char :=
  body.flatMap fun c => if isEscaped c then ['\\', c] else [c]

/-- The body of a lexeme. A percent sign on its own and a backslash before anything but an
escaped character belong to no lexeme. -/
def decode : List Char → Option (List Char)
  | [] => some []
  | [c] => if isEscaped c then none else some [c]
  | c :: d :: rest =>
    if c = '\\' then if isEscaped d then (d :: ·) <$> decode rest else none
    else if isEscaped c then none
    else (c :: ·) <$> decode (d :: rest)

end TeenyLexer.Escape
