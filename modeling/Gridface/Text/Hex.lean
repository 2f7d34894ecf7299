/-!
# Hexadecimal text

Upper-case hexadecimal numerals, padded on the left to a least number of digits.
-/

namespace Gridface.Text

/-- The upper-case hexadecimal numeral of `n`, with at least `width` digits. -/
def hexUpper (width n : Nat) : String :=
  String.ofList ((Nat.toDigits 16 n).map Char.toUpper |>.leftpad width '0')

/-- The lower-case hexadecimal numeral of `n`, with at least `width` digits. -/
def hexLower (width n : Nat) : String :=
  String.ofList ((Nat.toDigits 16 n).leftpad width '0')

end Gridface.Text
