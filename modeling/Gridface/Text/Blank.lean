/-!
# White space

The characters with the Unicode property `White_Space`.
-/

namespace Gridface.Text

/-- Ranges of characters with the property, by first and last code point. -/
def blankRanges : List (Nat × Nat) :=
  [(0x9, 0xD), (0x20, 0x20), (0x85, 0x85), (0xA0, 0xA0), (0x1680, 0x1680), (0x2000, 0x200A),
    (0x2028, 0x2029), (0x202F, 0x202F), (0x205F, 0x205F), (0x3000, 0x3000)]

/-- Whether a character is white space. -/
def isBlank (c : Char) : Bool := blankRanges.any fun r => r.1 ≤ c.toNat && c.toNat ≤ r.2

/-- The characters without white space at either end. -/
def trimBlank (cs : List Char) : List Char :=
  ((cs.dropWhile isBlank).reverse.dropWhile isBlank).reverse

/-- The characters that are not white space. -/
def withoutBlank (s : String) : String := String.ofList (s.toList.filter fun c => !isBlank c)

end Gridface.Text
