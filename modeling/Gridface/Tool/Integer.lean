import Gridface.Text.Octets

/-!
# Integers

Integers as tools read them: after white space and a sign, in base ten, or in the base that the
first digits tell. What is too large for 64 bits is the nearest number that is not.
-/

namespace Gridface.Tool

open Text

/-- A number at the start of a word, and what follows it. -/
structure Reading (α : Type) where
  value : α
  rest : List Char
  /-- The number in the word is not in the range of such numbers. -/
  isOutOfRange : Bool := false

/-- Whether there is a minus sign, and what follows the blanks and the sign of a number. -/
def readSign (cs : List Char) : Bool × List Char :=
  match cs.dropWhile Octets.isBlank with
  | '-' :: rest => (true, rest)
  | '+' :: rest => (false, rest)
  | rest => (false, rest)

/-- The number that the digits at the start make in a base, and what follows; at least one digit is
needed. -/
def readNatural? (base : Nat) (cs : List Char) : Option (Nat × List Char) :=
  match cs with
  | [] => none
  | c :: rest => if (Octets.digitBelow? base c).isSome then
      some (Octets.readDigits base (rest.length + 1) 0 (c :: rest)) else none

/-- The number at the start, in the base that its first digits tell: sixteen after `0x`, eight after
another zero, else ten. -/
def readPrefixed? (cs : List Char) : Option (Nat × List Char) :=
  match cs with
  | '0' :: mark :: rest =>
    (if mark == 'x' || mark == 'X' then readNatural? 16 rest else none) <|> readNatural? 8 cs
  | cs => readNatural? 10 cs

/-- The number at the start of a word, with its sign, and what follows it; a word that does not
begin with a number is zero, and all of it follows. -/
def readInteger (read? : List Char → Option (Nat × List Char)) (word : Octets) : Reading Int :=
  let (isNegative, digits) := readSign word.toList
  match read? digits with
  | none => { value := 0, rest := word.toList }
  | some (n, rest) => { value := if isNegative then -n else n, rest }

/-- The greatest integer of 64 bits. -/
def greatestInteger : Int := Int64.maxValue.toInt

/-- The least integer of 64 bits. -/
def leastInteger : Int := Int64.minValue.toInt

/-- The greatest natural number of 64 bits. -/
def greatestNatural : Nat := UInt64.size - 1

/-- A number brought into the range of integers of 64 bits. -/
def Reading.signed (r : Reading Int) : Reading Int :=
  if r.value < leastInteger then { r with value := leastInteger, isOutOfRange := true }
  else if greatestInteger < r.value then { r with value := greatestInteger, isOutOfRange := true }
  else r

/-- A number brought into the range of natural numbers of 64 bits; a negative one counts from the
end of the range. -/
def Reading.unsigned (r : Reading Int) : Reading Nat :=
  if greatestNatural < r.value.natAbs then
    { value := greatestNatural, rest := r.rest, isOutOfRange := true }
  else { value := (r.value % UInt64.size).toNat, rest := r.rest }

end Gridface.Tool
