/-! # Hexadecimal digits -/

namespace TeenyLexer.Text

/-- The last `width` hexadecimal digits of a number, in lower case. -/
def hex : Nat → Nat → List Char
  | 0, _ => []
  | width + 1, n => hex width (n / 16) ++ [Nat.digitChar (n % 16)]

@[simp] theorem length_hex (width n : Nat) : (hex width n).length = width := by
  induction width generalizing n with
  | zero => rfl
  | succ width ih => simp [hex, ih]

/-- The code point of a character as `U+` and at least four digits in upper case. -/
def codePoint (c : Char) : String :=
  "U+" ++ String.ofList (((Nat.toDigits 16 c.toNat).leftpad 4 '0').map Char.toUpper)

end TeenyLexer.Text
