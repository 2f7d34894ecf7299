import Gridface.Json

/-!
# Reading JSON

The grammar of RFC 8259, without extensions. A reader takes what is left of the text and gives a
value with what is left after it.
-/

namespace Gridface.Json

/-- Space, tab, line feed and carriage return may stand between the parts of a text. -/
def isBlank (c : Char) : Bool :=
  c == ' ' || c == '\t' || c == '\n' || c == '\x0d'

/-- What is left of a text after its leading blanks. -/
def skipBlank (cs : List Char) : List Char :=
  cs.dropWhile isBlank

/-! ## Strings -/

/-- The value of a hexadecimal digit. -/
def hexDigit? (c : Char) : Option Nat :=
  if '0' ≤ c ∧ c ≤ '9' then some (c.toNat - '0'.toNat)
  else if 'a' ≤ c ∧ c ≤ 'f' then some (c.toNat - 'a'.toNat + 10)
  else if 'A' ≤ c ∧ c ≤ 'F' then some (c.toNat - 'A'.toNat + 10)
  else none

/-- The character that a one-letter escape stands for. -/
def escaped? : Char → Option Char
  | '"' => some '"'
  | '\\' => some '\\'
  | '/' => some '/'
  | 'b' => some '\x08'
  | 'f' => some '\x0c'
  | 'n' => some '\n'
  | 'r' => some '\x0d'
  | 't' => some '\t'
  | _ => none

/-- The code points of a string whose opening quote has been read. An escape of four digits may
give half of a surrogate pair. -/
def readCodes : List Char → Option (List Nat × List Char)
  | [] => none
  | '"' :: rest => some ([], rest)
  | '\\' :: 'u' :: a :: b :: c :: d :: rest => do
    let high := (← hexDigit? a) * 16 + (← hexDigit? b)
    let low := (← hexDigit? c) * 16 + (← hexDigit? d)
    let code := high * 256 + low
    let (codes, rest) ← readCodes rest
    some (code :: codes, rest)
  | '\\' :: c :: rest => do
    let c ← escaped? c
    let (codes, rest) ← readCodes rest
    some (c.toNat :: codes, rest)
  | c :: rest => do
    if c.val < 0x20 ∨ c = '\\' then none
    else
      let (codes, rest) ← readCodes rest
      some (c.toNat :: codes, rest)

/-- The first half of a surrogate pair. -/
def isHighHalf (code : Nat) : Bool := 0xD800 ≤ code && code < 0xDC00

/-- The second half of a surrogate pair. -/
def isLowHalf (code : Nat) : Bool := 0xDC00 ≤ code && code < 0xE000

/-- The characters of a list of code points, if every half of a surrogate pair has its other half
beside it. -/
def characters? : List Nat → Option (List Char)
  | [] => some []
  | code :: rest =>
    if isHighHalf code then
      match rest with
      | low :: rest =>
        if isLowHalf low then
          (characters? rest).map
            (Char.ofNat (0x10000 + (code - 0xD800) * 0x400 + (low - 0xDC00)) :: ·)
        else none
      | [] => none
    else if isLowHalf code then none
    else (characters? rest).map (Char.ofNat code :: ·)

/-- The text of a list of code points. -/
def textOf? (codes : List Nat) : Option String :=
  (characters? codes).map String.ofList

/-! ## Numbers -/

/-- A run of at least one decimal digit. -/
def readDigits (cs : List Char) : Option (List Char × List Char) :=
  match cs.takeWhile Char.isDigit with
  | [] => none
  | digits => some (digits, cs.dropWhile Char.isDigit)

/-- What is left after an optional fraction, and whether there was one. -/
def skipFraction : List Char → Option (Bool × List Char)
  | '.' :: rest => (readDigits rest).map fun p => (true, p.2)
  | cs => some (false, cs)

/-- What is left after an optional sign. -/
def skipSign : List Char → List Char
  | '+' :: rest => rest
  | '-' :: rest => rest
  | cs => cs

/-- What is left after an optional exponent, and whether there was one. -/
def skipExponent : List Char → Option (Bool × List Char)
  | 'e' :: rest => (readDigits (skipSign rest)).map fun p => (true, p.2)
  | 'E' :: rest => (readDigits (skipSign rest)).map fun p => (true, p.2)
  | cs => some (false, cs)

/-- The value of a run of decimal digits. -/
def decimalValue (digits : List Char) : Nat :=
  digits.foldl (fun n d => n * 10 + (d.toNat - '0'.toNat)) 0

/-- A number without its sign. -/
def readMagnitude (negative : Bool) (cs : List Char) : Option (Json × List Char) := do
  let (digits, rest) ← readDigits cs
  if digits.head? = some '0' ∧ digits.length ≠ 1 then none
  let (fraction, rest) ← skipFraction rest
  let (exponent, rest) ← skipExponent rest
  let magnitude := decimalValue digits
  if fraction || exponent || (negative && magnitude == 0) then some (number none, rest)
  else some (number (some (if negative then -magnitude else magnitude)), rest)

/-- A number. -/
def readNumber : List Char → Option (Json × List Char)
  | '-' :: rest => readMagnitude true rest
  | cs => readMagnitude false cs

/-! ## Values -/

mutual

/-- A value, after blanks. -/
def readValue : Nat → List Char → Option (Json × List Char)
  | 0, _ => none
  | fuel + 1, cs =>
    match skipBlank cs with
    | 'n' :: 'u' :: 'l' :: 'l' :: rest => some (null, rest)
    | 't' :: 'r' :: 'u' :: 'e' :: rest => some (bool true, rest)
    | 'f' :: 'a' :: 'l' :: 's' :: 'e' :: rest => some (bool false, rest)
    | '"' :: rest => (readCodes rest).map fun p => (string (textOf? p.1), p.2)
    | '[' :: rest =>
      match skipBlank rest with
      | ']' :: rest => some (array [], rest)
      | rest => (readElements fuel rest).map fun p => (array p.1, p.2)
    | '{' :: rest =>
      match skipBlank rest with
      | '}' :: rest => some (object [], rest)
      | rest => (readMembers fuel rest).map fun p => (object p.1, p.2)
    | rest => readNumber rest

/-- The elements of an array, with the closing bracket. -/
def readElements : Nat → List Char → Option (List Json × List Char)
  | 0, _ => none
  | fuel + 1, cs => do
    let (value, rest) ← readValue fuel cs
    match skipBlank rest with
    | ',' :: rest =>
      let (values, rest) ← readElements fuel rest
      some (value :: values, rest)
    | ']' :: rest => some ([value], rest)
    | _ => none

/-- The members of an object, with the closing brace. -/
def readMembers : Nat → List Char → Option (List (Option String × Json) × List Char)
  | 0, _ => none
  | fuel + 1, cs => do
    let '"' :: rest := skipBlank cs | none
    let (codes, rest) ← readCodes rest
    let ':' :: rest := skipBlank rest | none
    let (value, rest) ← readValue fuel rest
    match skipBlank rest with
    | ',' :: rest =>
      let (members, rest) ← readMembers fuel rest
      some ((textOf? codes, value) :: members, rest)
    | '}' :: rest => some ([(textOf? codes, value)], rest)
    | _ => none

end

/-- The value that a text is, if it is one value between blanks. A step of the reader that takes
nothing from the text is followed by one that does, so twice the length bounds the steps. -/
def ofText? (text : String) : Option Json := do
  let cs := text.toList
  let (value, rest) ← readValue (2 * cs.length + 2) cs
  if (skipBlank rest).isEmpty then some value else none

end Gridface.Json
