/-!
# Decimal numbers

Numbers in positional notation with a point and perhaps an exponent, and the doubles nearest to
them.
-/

namespace Gridface.Text

/-- The number `digits * 10 ^ exponent`, with a sign of its own. -/
structure Decimal where
  negative : Bool
  digits : Nat
  exponent : Int
  deriving DecidableEq, Repr

namespace Decimal

/-- The value of a run of decimal digits. -/
def digitsValue (ds : List Char) : Nat := ds.foldl (fun n d => n * 10 + (d.toNat - '0'.toNat)) 0

/-- Whether a text starts with a minus sign, and what follows its sign. -/
def splitSign : List Char → Bool × List Char
  | '-' :: rest => (true, rest)
  | '+' :: rest => (false, rest)
  | cs => (false, cs)

/-- The exponent that ends a number; nothing stands for zero. -/
def exponent? : List Char → Option Int
  | [] => some 0
  | c :: rest =>
    let (negative, ds) := splitSign rest
    if (c == 'e' || c == 'E') && !ds.isEmpty && ds.all Char.isDigit then
      some (if negative then -(digitsValue ds : Int) else digitsValue ds)
    else none

/-- The number that a text is: a sign, digits around a point, and an exponent. There is at least one
digit before or after the point. -/
def ofChars? (cs : List Char) : Option Decimal := do
  let (negative, cs) := splitSign cs
  let whole := cs.takeWhile Char.isDigit
  let (fraction, rest) :=
    match cs.dropWhile Char.isDigit with
    | '.' :: rest => (rest.takeWhile Char.isDigit, rest.dropWhile Char.isDigit)
    | rest => ([], rest)
  let ds := whole ++ fraction
  if ds.isEmpty then none
  else
    let exponent ← exponent? rest
    some { negative, digits := digitsValue ds, exponent := exponent - fraction.length }

/-- A magnitude of so many digits before the point is beyond every double, and one of so many zeros
after the point is below every double. -/
def doubleDigits : Int := 400

/-- The double nearest to the magnitude of the number. -/
def magnitude (d : Decimal) : Float :=
  let size := (Nat.toDigits 10 d.digits).length + d.exponent
  if d.digits = 0 ∨ size < -doubleDigits then 0.0
  else if doubleDigits < size then 1.0 / 0.0
  else if d.exponent < 0 then Float.ofScientific d.digits true d.exponent.natAbs
  else Float.ofScientific d.digits false d.exponent.natAbs

/-- The double nearest to the number. -/
def toFloat (d : Decimal) : Float := if d.negative then -d.magnitude else d.magnitude

end Decimal

end Gridface.Text
