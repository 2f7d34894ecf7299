import Gridface.Text.Utf8

/-!
# Octets

A text of which each character stands for the byte that is its code. Bytes that are no UTF-8 can so
be taken apart like any other text, and back again.
-/

namespace Gridface.Text

/-- A text of which each character stands for one byte. -/
abbrev Octets := String

namespace Octets

/-- The octets of some bytes. -/
def ofBytes (data : List UInt8) : Octets :=
  String.ofList (data.map fun b => Char.ofNat b.toNat)

/-- The bytes that octets stand for. -/
def toBytes (o : Octets) : List UInt8 := o.toList.map fun c => c.toNat.toUInt8

/-- The octets of a text in UTF-8. -/
def ofText (text : String) : Octets := ofBytes (utf8Bytes text)

/-- The text that octets are in UTF-8, with U+FFFD in the place of each broken character. -/
def toText (o : Octets) : String := ofUtf8Lossy o.toBytes

/-- Whether an octet is shown as it is: one of the characters from the blank to the tilde. -/
def isShown (c : Char) : Bool := ' ' ≤ c && c ≤ '~'

/-- Whether an octet is white space. -/
def isBlank (c : Char) : Bool := c == ' ' || ('\t' ≤ c && c ≤ '\x0d')

/-- The value of a digit, in bases up to 36. -/
def digit? (c : Char) : Option Nat :=
  if '0' ≤ c ∧ c ≤ '9' then some (c.toNat - '0'.toNat)
  else if 'a' ≤ c ∧ c ≤ 'z' then some (c.toNat - 'a'.toNat + 10)
  else if 'A' ≤ c ∧ c ≤ 'Z' then some (c.toNat - 'A'.toNat + 10)
  else none

/-- The value of a digit in the given base. -/
def digitBelow? (base : Nat) (c : Char) : Option Nat := (digit? c).filter (· < base)

/-- The number that the digits at the start of some octets make after `value`, of at most `limit`
digits, and the octets after them. -/
def readDigits (base : Nat) : Nat → Nat → List Char → Nat × List Char
  | _, value, [] => (value, [])
  | 0, value, cs => (value, cs)
  | limit + 1, value, c :: cs =>
    match digitBelow? base c with
    | some digit => readDigits base limit (value * base + digit) cs
    | none => (value, c :: cs)

/-- An octet as three octal digits. -/
def octal (c : Char) : List Char :=
  [c.toNat / 64, c.toNat / 8 % 8, c.toNat % 8].map Nat.digitChar

end Octets

end Gridface.Text
