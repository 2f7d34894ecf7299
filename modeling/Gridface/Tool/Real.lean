import Gridface.Tool.Integer

/-!
# Real numbers

Binary floating point as tools read and write it. A number is a whole number of powers of two; it is
read by rounding a fraction once, and written from its exact value.
-/

namespace Gridface.Tool

open Text

/-- A form of binary floating point. -/
structure RealForm where
  /-- The bits of a number that is not very small. -/
  bits : Nat
  /-- The exponent of the last bit of the smallest numbers. -/
  least : Int
  /-- The exponent of the last bit of the greatest numbers. -/
  greatest : Int
  /-- The bits before the point in hexadecimal notation. -/
  leading : Nat

/-- Numbers of 64 bits. -/
def RealForm.double : RealForm := ⟨53, -1074, 971, 1⟩

/-- Numbers of 80 bits. -/
def RealForm.extended : RealForm := ⟨64, -16445, 16320, 4⟩

/-- The size of a real number. -/
inductive Magnitude
  /-- So many times a power of two. -/
  | finite (count : Nat) (exponent : Int)
  | infinite
  | notNumber
  deriving DecidableEq, Repr

/-- A real number with its sign. -/
structure Real where
  isNegative : Bool
  magnitude : Magnitude
  deriving DecidableEq, Repr

/-- A power, with no use of notation that other libraries give a meaning of their own. -/
def power (base exponent : Nat) : Nat := Nat.pow base exponent

/-- The quotient that is closest to a fraction; of two the even one. -/
def nearestQuotient (n d : Nat) : Nat :=
  let q := n / d
  let twice := 2 * (n % d)
  if d < twice ∨ (d = twice ∧ q % 2 = 1) then q + 1 else q

/-- A fraction times a power of a base, as numerator and denominator. -/
def scaled (n d base : Nat) (exponent : Int) : Nat × Nat :=
  if 0 ≤ exponent then (n * power base exponent.toNat, d)
  else (n, d * power base (-exponent).toNat)

namespace RealForm

/-- The number of this form that is closest to a positive fraction, and whether the fraction is out
of the range of such numbers. -/
def ofFraction (f : RealForm) (n d : Nat) : Magnitude × Bool :=
  let guess : Int := (n.log2 : Int) - d.log2 - f.bits
  let (n₁, d₁) := scaled n d 2 (-guess)
  let exponent := max f.least (if n₁ < power 2 f.bits * d₁ then guess else guess + 1)
  let (n₂, d₂) := scaled n d 2 (-exponent)
  let count := nearestQuotient n₂ d₂
  let isTiny := count < power 2 (f.bits - 1) && count * d₂ != n₂
  if count = power 2 f.bits then
    if f.greatest < exponent + 1 then (.infinite, true)
    else (.finite (count / 2) (exponent + 1), false)
  else if f.greatest < exponent then (.infinite, true)
  else (.finite count exponent, isTiny)

/-- The number of this form that is closest to a natural number times a power of a base, and whether
that is out of the range of such numbers. What is far out of range is not worked out. -/
def ofScientific (f : RealForm) (n base : Nat) (exponent : Int) : Magnitude × Bool :=
  let size := (n.log2 : Int) + exponent * base.log2
  if n = 0 then (.finite 0 0, false)
  else if 0 ≤ exponent ∧ f.greatest + f.bits < size then (.infinite, true)
  else if exponent < 0 ∧ size + 8 < f.least then (.finite 0 0, true)
  else
    let (n, d) := scaled n 1 base exponent
    f.ofFraction n d

end RealForm

/-! ## Reading -/

/-- The digits on both sides of a point, at least one, and what follows them: the number without
the point, and how many digits are after it. -/
def readPoint? (base : Nat) (cs : List Char) : Option (Nat × Nat × List Char) :=
  let (whole, rest) := Octets.readDigits base cs.length 0 cs
  let hasWhole := rest.length < cs.length
  match rest with
  | '.' :: after =>
    let (n, rest) := Octets.readDigits base after.length whole after
    let places := after.length - rest.length
    if hasWhole || 0 < places then some (n, places, rest) else none
  | rest => if hasWhole then some (whole, 0, rest) else none

/-- The exponent after its mark, and what follows; nothing is read if there is no exponent. -/
def readExponent (mark : Char) (cs : List Char) : Int × List Char :=
  match cs with
  | c :: rest =>
    if c.toLower == mark then
      let (isNegative, digits) :=
        match rest with
        | '-' :: digits => (true, digits)
        | '+' :: digits => (false, digits)
        | digits => (false, digits)
      match readNatural? 10 digits with
      | some (n, after) => (if isNegative then -n else n, after)
      | none => (0, cs)
    else (0, cs)
  | [] => (0, [])

/-- What follows a word at the start, whatever the case of its letters. -/
def dropWord? (word : String) (cs : List Char) : Option (List Char) :=
  if (cs.take word.length).map Char.toLower == word.toList then some (cs.drop word.length)
  else none

/-- What follows the note in parentheses that a value which is no number may have. -/
def dropNote (cs : List Char) : List Char :=
  match cs with
  | '(' :: rest =>
    match rest.dropWhile fun c => c.isAlphanum || c == '_' with
    | ')' :: after => after
    | _ => cs
  | cs => cs

/-- The value of a number in decimal or hexadecimal notation, and what follows it. -/
def readFinite? (f : RealForm) (cs : List Char) : Option ((Magnitude × Bool) × List Char) :=
  let hexadecimal :=
    match cs with
    | '0' :: x :: rest => if x == 'x' || x == 'X' then readPoint? 16 rest else none
    | _ => none
  match hexadecimal with
  | some (n, places, rest) =>
    let (exponent, rest) := readExponent 'p' rest
    some (f.ofScientific n 2 (exponent - 4 * places), rest)
  | none =>
    match readPoint? 10 cs with
    | some (n, places, rest) =>
      let (exponent, rest) := readExponent 'e' rest
      some (f.ofScientific n 10 (exponent - places), rest)
    | none => none

/-- The real number at the start of a word; a word that does not begin with one is zero, and all of
it follows. -/
def readReal (f : RealForm) (word : Octets) : Reading Real :=
  let (isNegative, cs) := readSign word.toList
  match dropWord? "infinity" cs <|> dropWord? "inf" cs with
  | some rest => { value := ⟨isNegative, .infinite⟩, rest }
  | none =>
    match dropWord? "nan" cs with
    | some rest => { value := ⟨isNegative, .notNumber⟩, rest := dropNote rest }
    | none =>
      match readFinite? f cs with
      | some ((magnitude, isOutOfRange), rest) =>
        { value := ⟨isNegative, magnitude⟩, rest, isOutOfRange }
      | none => { value := ⟨false, .finite 0 0⟩, rest := word.toList }

/-- A natural number as a real number. -/
def Real.ofNat (n : Nat) : Real := ⟨false, .finite n 0⟩

/-! ## Writing -/

/-- The digits of a number in a base, with zeros before them up to a width. -/
def digitsOf (base width n : Nat) : List Char :=
  let digits := Nat.toDigits base n
  List.replicate (width - digits.length) '0' ++ digits

/-- The text of a number with so many of its last digits after a point; `showPoint` asks for the
point where nothing comes after it. -/
def withPoint (base places n : Nat) (showPoint : Bool) : List Char :=
  let digits := digitsOf base (places + 1) n
  let whole := digits.take (digits.length - places)
  if places = 0 then whole ++ (if showPoint then ['.'] else [])
  else whole ++ '.' :: digits.drop (digits.length - places)

/-- A fraction with so many places after the point. -/
def fixedDigits (n d places : Nat) (showPoint : Bool) : List Char :=
  withPoint 10 places (nearestQuotient (n * power 10 places) d) showPoint

/-- The exponent of the power of ten that is just below a fraction; zero for zero. -/
def decimalExponent (n d : Nat) : Int :=
  if n = 0 then 0
  else
    let guess : Int := (Nat.toDigits 10 n).length - (Nat.toDigits 10 d).length
    let (n, d) := scaled n d 10 (-guess)
    if d ≤ n then guess else guess - 1

/-- The digits of a fraction with so many places after the first, and the exponent of ten. -/
def scientificDigits (n d places : Nat) : Nat × Int :=
  let exponent := decimalExponent n d
  let (n, d) := scaled n d 10 (places - exponent)
  let digits := nearestQuotient n d
  if digits = power 10 (places + 1) then (digits / 10, exponent + 1) else (digits, exponent)

/-- An exponent with its sign and at least so many digits. -/
def exponentText (width : Nat) (exponent : Int) : List Char :=
  (if exponent < 0 then '-' else '+') :: digitsOf 10 width exponent.natAbs

/-- The zeros at the end of the places after a point, and a point before them, are dropped. -/
def withoutZeros (cs : List Char) : List Char :=
  if cs.contains '.' then
    match cs.reverse.dropWhile (· == '0') with
    | '.' :: whole => whole.reverse
    | kept => kept.reverse
  else cs

/-- A fraction in the shorter of two notations, with so many digits that count. -/
def generalDigits (n d digits : Nat) (keepZeros : Bool) : List Char :=
  let digits := max digits 1
  let (mantissa, exponent) := scientificDigits n d (digits - 1)
  let drop := if keepZeros then id else withoutZeros
  if exponent < -4 ∨ (digits : Int) ≤ exponent then
    drop (withPoint 10 (digits - 1) mantissa keepZeros) ++ 'e' :: exponentText 2 exponent
  else drop (fixedDigits n d ((digits : Int) - 1 - exponent).toNat keepZeros)

/-- The hexadecimal digits of a number and the exponent of two; as many places as asked for, or as
many as there are. The first digit is not zero, but for the smallest numbers, which all have one
exponent. -/
def binaryDigits (f : RealForm) (count : Nat) (exponent : Int) (places : Option Nat)
    (showPoint : Bool) : List Char :=
  let all := (f.bits - f.leading + 3) / 4
  let shift := 4 * all + f.leading - f.bits
  let lack := if count = 0 ∨ exponent = f.least then 0 else f.bits - 1 - count.log2
  let lifted := count * power 2 (lack + shift)
  let exponent := if count = 0 then 0 else exponent - lack + (f.bits - f.leading)
  let (text, exponent) :=
    match places with
    | none => (withoutZeros (withPoint 16 all lifted true), exponent)
    | some places =>
      let rounded :=
        if all ≤ places then lifted * power 16 (places - all)
        else nearestQuotient lifted (power 16 (all - places))
      if power 16 (places + 1) ≤ rounded then
        (withPoint 16 places (rounded / 16) showPoint, exponent + 4)
      else (withPoint 16 places rounded showPoint, exponent)
  let text := if showPoint && !text.contains '.' then text ++ ['.'] else text
  text ++ 'p' :: exponentText 1 exponent

end Gridface.Tool
