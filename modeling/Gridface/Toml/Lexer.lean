import Gridface.Text.Decimal
import Gridface.Toml

/-!
# Reading TOML: words

Blanks, comments, keys, strings and numbers of TOML 1.0. A reader takes what is left of the text
and gives a value with what is left after it.
-/

namespace Gridface.Toml

/-! ## Blanks and comments -/

/-- Space and tab. -/
def isBlank (c : Char) : Bool := c == ' ' || c == '\t'

/-- What is left after leading blanks. -/
def skipBlank (cs : List Char) : List Char := cs.dropWhile isBlank

/-- A character that may stand in a comment: tab and everything but control characters. -/
def isCommentChar (c : Char) : Bool :=
  c == '\t' || (0x20 ≤ c.val && c.val != 0x7F)

/-- What is left after a line break. -/
def skipBreak? : List Char → Option (List Char)
  | '\n' :: rest => some rest
  | '\x0d' :: '\n' :: rest => some rest
  | _ => none

/-- What is left after the end of a line: blanks, a comment, and a line break or the text's end. -/
def endLine? (cs : List Char) : Option (List Char) :=
  let rest :=
    match skipBlank cs with
    | '#' :: rest => rest.dropWhile isCommentChar
    | rest => rest
  if rest.isEmpty then some [] else skipBreak? rest

/-- What is left after blanks, line breaks and comments; `comment` says whether a comment is
open. -/
def skipTrivia (comment : Bool) : List Char → List Char
  | [] => []
  | '\n' :: rest => skipTrivia false rest
  | '\x0d' :: '\n' :: rest => skipTrivia false rest
  | c :: rest =>
    if comment then (if isCommentChar c then skipTrivia true rest else c :: rest)
    else if isBlank c then skipTrivia false rest
    else if c == '#' then skipTrivia true rest
    else c :: rest

/-! ## Strings -/

/-- The value of a hexadecimal digit. -/
def hexDigit? (c : Char) : Option Nat :=
  if '0' ≤ c ∧ c ≤ '9' then some (c.toNat - '0'.toNat)
  else if 'a' ≤ c ∧ c ≤ 'f' then some (c.toNat - 'a'.toNat + 10)
  else if 'A' ≤ c ∧ c ≤ 'F' then some (c.toNat - 'A'.toNat + 10)
  else none

/-- The character whose code has these hexadecimal digits. -/
def coded? (digits : List Char) : Option Char := do
  let values ← digits.mapM hexDigit?
  let code := values.foldl (fun n d => n * 16 + d) 0
  if code.isValidChar then some (Char.ofNat code) else none

/-- The character that a one-letter escape stands for. -/
def escaped? : Char → Option Char
  | '"' => some '"'
  | '\\' => some '\\'
  | 'b' => some '\x08'
  | 'f' => some '\x0c'
  | 'n' => some '\n'
  | 'r' => some '\x0d'
  | 't' => some '\t'
  | _ => none

/-- A string and what is left after it. -/
abbrev Word := Option (List Char × List Char)

/-- The string `c` followed by the rest of the string. -/
def Word.push (c : Char) (w : Word) : Word := w.map fun p => (c :: p.1, p.2)

/-- A basic string whose opening quote has been read. -/
def readBasic : List Char → Word
  | [] => none
  | '"' :: rest => some ([], rest)
  | '\\' :: 'u' :: a :: b :: c :: d :: rest => do
    let char ← coded? [a, b, c, d]
    (readBasic rest).push char
  | '\\' :: 'U' :: a :: b :: c :: d :: e :: f :: g :: h :: rest => do
    let char ← coded? [a, b, c, d, e, f, g, h]
    (readBasic rest).push char
  | '\\' :: c :: rest => do
    let char ← escaped? c
    (readBasic rest).push char
  | c :: rest => if isCommentChar c && c != '\\' then (readBasic rest).push c else none

/-- A literal string whose opening quote has been read. -/
def readLiteral : List Char → Word
  | [] => none
  | '\'' :: rest => some ([], rest)
  | c :: rest => if isCommentChar c then (readLiteral rest).push c else none

/-- A line break follows, perhaps after blanks. -/
def breaksLine (cs : List Char) : Bool := (skipBreak? (skipBlank cs)).isSome

/-- A basic string of several lines whose opening quotes have been read. After a backslash at a
line's end, `skipping` blanks and line breaks goes on up to the next other character. -/
def readBasicLines (skipping : Bool) : List Char → Word
  | [] => none
  | '"' :: '"' :: '"' :: '"' :: '"' :: rest => some (['"', '"'], rest)
  | '"' :: '"' :: '"' :: '"' :: rest => some (['"'], rest)
  | '"' :: '"' :: '"' :: rest => some ([], rest)
  | '\n' :: rest =>
    if skipping then readBasicLines true rest else (readBasicLines false rest).push '\n'
  | '\x0d' :: '\n' :: rest =>
    if skipping then readBasicLines true rest else (readBasicLines false rest).push '\n'
  | '\\' :: 'u' :: a :: b :: c :: d :: rest => do
    let char ← coded? [a, b, c, d]
    (readBasicLines false rest).push char
  | '\\' :: 'U' :: a :: b :: c :: d :: e :: f :: g :: h :: rest => do
    let char ← coded? [a, b, c, d, e, f, g, h]
    (readBasicLines false rest).push char
  | '\\' :: c :: rest =>
    if breaksLine (c :: rest) then readBasicLines true (c :: rest)
    else do
      let char ← escaped? c
      (readBasicLines false rest).push char
  | c :: rest =>
    if skipping && isBlank c then readBasicLines true rest
    else if isCommentChar c && c != '\\' then (readBasicLines false rest).push c
    else none

/-- A literal string of several lines whose opening quotes have been read. -/
def readLiteralLines : List Char → Word
  | [] => none
  | '\'' :: '\'' :: '\'' :: '\'' :: '\'' :: rest => some (['\'', '\''], rest)
  | '\'' :: '\'' :: '\'' :: '\'' :: rest => some (['\''], rest)
  | '\'' :: '\'' :: '\'' :: rest => some ([], rest)
  | '\n' :: rest => (readLiteralLines rest).push '\n'
  | '\x0d' :: '\n' :: rest => (readLiteralLines rest).push '\n'
  | c :: rest => if isCommentChar c then (readLiteralLines rest).push c else none

/-- What is left after a line break, if there is one. -/
def skipFirstBreak (cs : List Char) : List Char := (skipBreak? cs).getD cs

/-- A string of any of the four kinds. -/
def readText (cs : List Char) : Option (String × List Char) :=
  let word : Word :=
    match cs with
    | '"' :: '"' :: '"' :: rest => readBasicLines false (skipFirstBreak rest)
    | '\'' :: '\'' :: '\'' :: rest => readLiteralLines (skipFirstBreak rest)
    | '"' :: rest => readBasic rest
    | '\'' :: rest => readLiteral rest
    | _ => none
  word.map fun p => (String.ofList p.1, p.2)

/-! ## Keys -/

/-- A character of a bare key. -/
def isBareChar (c : Char) : Bool := c.isAlphanum || c == '-' || c == '_'

/-- One part of a key: bare, or a string of one line. -/
def readKey (cs : List Char) : Option (String × List Char) :=
  match cs with
  | '"' :: rest => (readBasic rest).map fun p => (String.ofList p.1, p.2)
  | '\'' :: rest => (readLiteral rest).map fun p => (String.ofList p.1, p.2)
  | cs =>
    match cs.takeWhile isBareChar with
    | [] => none
    | name => some (String.ofList name, cs.dropWhile isBareChar)

/-- The parts of a dotted key after its first part, with the blanks after the key. -/
def readKeyTail : Nat → List Char → Option (List String × List Char)
  | 0, _ => none
  | fuel + 1, cs =>
    match skipBlank cs with
    | '.' :: rest => do
      let (name, rest) ← readKey (skipBlank rest)
      let (names, rest) ← readKeyTail fuel rest
      some (name :: names, rest)
    | rest => some ([], rest)

/-- Nothing is nested as deep as this, and no key has as many parts. -/
def depthLimit : Nat := 80

/-- A dotted key, with the blanks after it. Each part takes a character, so the length bounds the
parts. -/
def readPath (cs : List Char) : Option (List String × List Char) := do
  let (name, rest) ← readKey (skipBlank cs)
  let (names, rest) ← readKeyTail (rest.length + 1) rest
  if (name :: names).length < depthLimit then some (name :: names, rest) else none

/-! ## Integers -/

/-- The digits that follow a first digit; an underscore may stand between two digits. -/
def moreDigits (isDigit : Char → Bool) : List Char → List Char × List Char
  | '_' :: c :: rest =>
    if isDigit c then
      let (digits, rest) := moreDigits isDigit rest
      (c :: digits, rest)
    else ([], '_' :: c :: rest)
  | c :: rest =>
    if isDigit c then
      let (digits, rest) := moreDigits isDigit rest
      (c :: digits, rest)
    else ([], c :: rest)
  | [] => ([], [])

/-- The number with these digits in the given base. -/
def valueOf (base : Nat) (digits : List Char) : Nat :=
  digits.foldl (fun n d => n * base + (hexDigit? d).getD 0) 0

/-- Integers have 64 bits. -/
def isInteger (n : Int) : Bool := Int64.minValue.toInt ≤ n && n ≤ Int64.maxValue.toInt

/-- The integer with the given sign and magnitude, if it has 64 bits. -/
def signed? (negative : Bool) (magnitude : Nat) (rest : List Char) : Option (Int × List Char) :=
  let n : Int := if negative then -magnitude else magnitude
  if isInteger n then some (n, rest) else none

/-- An unsigned integer in the given base, whose mark has been read. -/
def readBased (base : Nat) (isDigit : Char → Bool) : List Char → Option (Int × List Char)
  | c :: rest =>
    if isDigit c then
      let (digits, rest) := moreDigits isDigit rest
      signed? false (valueOf base (c :: digits)) rest
    else none
  | [] => none

/-- A decimal integer whose sign has been read; a first digit zero stands alone. -/
def readDecimal (negative : Bool) : List Char → Option (Int × List Char)
  | '0' :: rest => some (0, rest)
  | c :: rest =>
    if c.isDigit then
      let (digits, rest) := moreDigits Char.isDigit rest
      signed? negative (valueOf 10 (c :: digits)) rest
    else none
  | [] => none

/-- An integer. -/
def readInteger : List Char → Option (Int × List Char)
  | '0' :: 'x' :: rest => readBased 16 (fun c => (hexDigit? c).isSome) rest
  | '0' :: 'o' :: rest => readBased 8 (fun c => '0' ≤ c && c ≤ '7') rest
  | '0' :: 'b' :: rest => readBased 2 (fun c => c == '0' || c == '1') rest
  | '+' :: rest => readDecimal false rest
  | '-' :: rest => readDecimal true rest
  | cs => readDecimal false cs

/-! ## Fractions -/

/-- What is left after a run of digits; an underscore may stand between two of them. -/
def skipDigits? : List Char → Option (List Char)
  | c :: rest => if c.isDigit then some (moreDigits Char.isDigit rest).2 else none
  | [] => none

/-- What is left after an exponent. -/
def skipExponent? : List Char → Option (List Char)
  | c :: rest => if c == 'e' || c == 'E' then skipDigits? (Text.Decimal.splitSign rest).2 else none
  | [] => none

/-- What is left after the digits before a point; a first digit zero stands alone. -/
def skipWhole? : List Char → Option (List Char)
  | '0' :: rest => some rest
  | cs => skipDigits? cs

/-- What is left after a fraction, an exponent, or both. -/
def skipFraction? : List Char → Option (List Char)
  | '.' :: rest => do
    let rest ← skipDigits? rest
    return (skipExponent? rest).getD rest
  | cs => skipExponent? cs

/-- Whether the number that a text is, underscores apart, is so large that it counts as positive
infinity. -/
def exceedsAll (cs : List Char) : Bool :=
  match Text.Decimal.ofChars? (cs.filter (· != '_')) with
  | some d => d.toFloat == 1.0 / 0.0
  | none => false

/-- What is left after a number with a fraction or an exponent, an infinity, or what is no
number. -/
def skipFractional? (cs : List Char) : Option (List Char) :=
  match (Text.Decimal.splitSign cs).2 with
  | 'i' :: 'n' :: 'f' :: rest => some rest
  | 'n' :: 'a' :: 'n' :: rest => some rest
  | unsigned => do
    let rest ← skipFraction? (← skipWhole? unsigned)
    if exceedsAll (cs.take (cs.length - rest.length)) then none else some rest

end Gridface.Toml
