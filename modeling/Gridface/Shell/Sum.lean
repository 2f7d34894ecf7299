import Gridface.Shell.Script
import Gridface.Tool.Integer

/-!
# Sums

The sums that a script asks for: whole numbers of 64 bits, names of parameters, and operators. What
is wrong with the text of a sum has its place in the sum, so that what stands before it is still
worked out.
-/

namespace Gridface.Shell

open Text

/-- An operator between two sums. -/
inductive SumOperator
  | times
  | quotient
  | remainder
  | plus
  | minus
  | shiftLeft
  | shiftRight
  | less
  | lessEqual
  | greater
  | greaterEqual
  | equal
  | unequal
  | bitAnd
  | bitXor
  | bitOr
  deriving DecidableEq, Repr

/-- A sum. -/
inductive Sum
  | number (value : Int64)
  | parameter (name : Octets)
  | negative (operand : Sum)
  | isZero (operand : Sum)
  | complement (operand : Sum)
  | binary (operator : SumOperator) (left right : Sum)
  | both (left right : Sum)
  | either (left right : Sum)
  | choice (test yes no : Sum)
  | assign (name : Octets) (operator : Option SumOperator) (value : Sum)
  /-- Something is wrong after a sum. -/
  | spoilt (before : Sum) (reason : String)
  /-- Something is wrong where a sum should be. -/
  | missing (reason : String)
  deriving Repr

/-- A token of a sum. -/
inductive SumToken
  | number (value : Int64)
  | name (text : Octets)
  | mark (text : String)
  /-- Octets that are no token. -/
  | unknown
  deriving DecidableEq, Repr

namespace Sum

/-! ## Tokens -/

/-- The marks of sums; where one begins another, the longer one comes first. -/
def marks : List String :=
  ["<<=", ">>=", "<<", ">>", "<=", ">=", "==", "!=", "&&", "||", "*=", "/=", "%=", "+=", "-=",
    "&=", "^=", "|=", "*", "/", "%", "+", "-", "<", ">", "&", "^", "|", "!", "~", "?", ":", "(",
    ")", "="]

/-- The tokens of a text. -/
def tokensFrom : Nat → List Char → List SumToken
  | 0, _ => []
  | _ + 1, [] => []
  | fuel + 1, c :: cs =>
    if c == ' ' || c == '\t' || c == '\n' then tokensFrom fuel cs
    else if c.isDigit then
      match Tool.readPrefixed? (c :: cs) with
      | some (n, rest) =>
        .number (Int64.ofInt (min n Tool.greatestInteger)) :: tokensFrom fuel rest
      | none => [.unknown]
    else if startsName c then
      let name := (c :: cs).takeWhile isInName
      .name (String.ofList name) :: tokensFrom fuel ((c :: cs).drop name.length)
    else
      match marks.find? fun m => m.toList.isPrefixOf (c :: cs) with
      | some m => .mark m :: tokensFrom fuel ((c :: cs).drop m.length)
      | none => [.unknown]

/-- The tokens of a text. Each takes an octet at least, so the length bounds their number. -/
def tokens (text : Octets) : List SumToken := tokensFrom (text.length + 1) text.toList

/-! ## Reading -/

/-- Operators between sums by their marks, and how loosely each binds. -/
def operators : List (String × SumOperator × Nat) :=
  [("*", .times, 0), ("/", .quotient, 0), ("%", .remainder, 0), ("+", .plus, 1), ("-", .minus, 1),
    ("<<", .shiftLeft, 2), (">>", .shiftRight, 2), ("<", .less, 3), ("<=", .lessEqual, 3),
    (">", .greater, 3), (">=", .greaterEqual, 3), ("==", .equal, 4), ("!=", .unequal, 4),
    ("&", .bitAnd, 5), ("^", .bitXor, 6), ("|", .bitOr, 7)]

/-- How loosely the loosest operator binds. -/
def loosest : Nat := 7

/-- What an assignment mark does with the value before; plain assignment does nothing. -/
def assignment? (mark : String) : Option (Option SumOperator) :=
  if mark = "=" then some none
  else if ["<=", ">=", "==", "!="].contains mark then none
  else
    match mark.toList.reverse with
    | '=' :: operator =>
      (operators.lookup (String.ofList operator.reverse)).map fun o => some o.1
    | _ => none

/-- A sum and the tokens after it. -/
abbrev Reading := Sum × List SumToken

/-- The operator that comes next, if it binds as tightly as asked for. -/
def operatorWithin? (looseness : Nat) : List SumToken → Option (SumOperator × Nat)
  | .mark m :: _ => (operators.lookup m).filter fun o => o.2 ≤ looseness
  | _ => none

/-- A number, a parameter, a sum between parentheses, or one after a sign. -/
def readPrimary (whole : List SumToken → Reading) : Nat → List SumToken → Reading
  | 0, ts => (.missing "expecting primary", ts)
  | fuel + 1, ts =>
    let under (wrap : Sum → Sum) (rest : List SumToken) : Reading :=
      let (operand, rest) := readPrimary whole fuel rest
      (wrap operand, rest)
    match ts with
    | .number value :: rest => (.number value, rest)
    | .name text :: rest => (.parameter text, rest)
    | .mark "+" :: rest => under id rest
    | .mark "-" :: rest => under .negative rest
    | .mark "!" :: rest => under .isZero rest
    | .mark "~" :: rest => under .complement rest
    | .mark "(" :: rest =>
      let (inner, rest) := whole rest
      match rest with
      | .mark ")" :: rest => (inner, rest)
      | rest => (.spoilt inner "expecting ')'", rest)
    | ts => (.missing "expecting primary", ts)

/-- Joins operands to a sum by the operators that bind as tightly as asked for. -/
def readBinary (primary : List SumToken → Reading) : Nat → Nat → Sum → List SumToken → Reading
  | 0, _, left, ts => (left, ts)
  | fuel + 1, looseness, left, ts =>
    match operatorWithin? looseness ts with
    | none => (left, ts)
    | some (operator, own) =>
      let (right, rest) := primary (ts.drop 1)
      let (right, rest) :=
        if own = 0 then (right, rest) else readBinary primary fuel (own - 1) right rest
      readBinary primary fuel looseness (.binary operator left right) rest

/-- Joins operands by a mark, from the right. -/
def readJoined (mark : String) (join : Sum → Sum → Sum) (part : List SumToken → Reading) :
    Nat → List SumToken → Reading
  | 0, ts => part ts
  | fuel + 1, ts =>
    let (left, rest) := part ts
    match rest with
    | .mark m :: more =>
      if m = mark then
        let (right, rest) := readJoined mark join part fuel more
        (join left right, rest)
      else (left, rest)
    | rest => (left, rest)

/-- A choice, or a sum without one. -/
def readChoice (whole : List SumToken → Reading) (part : List SumToken → Reading) :
    Nat → List SumToken → Reading
  | 0, ts => part ts
  | fuel + 1, ts =>
    let (test, rest) := part ts
    match rest with
    | .mark "?" :: rest =>
      let (yes, rest) := whole rest
      match rest with
      | .mark ":" :: rest =>
        let (no, rest) := readChoice whole part fuel rest
        (.choice test yes no, rest)
      | rest => (.choice test (.spoilt yes "expecting ':'") (.number 0), rest)
    | rest => (test, rest)

/-- A whole sum, perhaps an assignment, nested so deeply at most. -/
def readWhole : Nat → List SumToken → Reading
  | 0, ts => (.missing "expecting primary", ts)
  | depth + 1, ts =>
    let size := ts.length + 1
    let plain (ts : List SumToken) : Reading :=
      let primary := readPrimary (readWhole depth) size
      let binary (ts : List SumToken) : Reading :=
        let (first, rest) := primary ts
        readBinary primary size loosest first rest
      let conjunction := readJoined "&&" .both binary size
      let alternative := readJoined "||" .either conjunction size
      readChoice (readWhole depth) alternative size ts
    match ts with
    | .name name :: .mark m :: rest =>
      match assignment? m with
      | some operator =>
        let (value, rest) := readWhole depth rest
        (.assign name operator value, rest)
      | none => plain ts
    | ts => plain ts

/-- The sum that a text is. Each level of nesting takes a token, so their number bounds the depth.
-/
def ofText (text : Octets) : Sum :=
  let ts := tokens text
  match readWhole (ts.length + 1) ts with
  | (sum, []) => sum
  | (sum, _) => .spoilt sum "expecting EOF"

/-- What is wrong with a sum that is passed over. -/
def fault? : Sum → Option String
  | .number _ => none
  | .parameter _ => none
  | .negative operand => operand.fault?
  | .isZero operand => operand.fault?
  | .complement operand => operand.fault?
  | .binary _ left right => left.fault? <|> right.fault?
  | .both left right => left.fault? <|> right.fault?
  | .either left right => left.fault? <|> right.fault?
  | .choice test yes no => test.fault? <|> yes.fault? <|> no.fault?
  | .assign _ _ value => value.fault?
  | .spoilt before reason => before.fault? <|> some reason
  | .missing reason => some reason

/-! ## Operators -/

/-- A truth as a number. -/
def ofBool (b : Bool) : Int64 := if b then 1 else 0

/-- What an operator makes of two numbers; nothing is divided by zero. -/
def result? (operator : SumOperator) (a b : Int64) : Option Int64 :=
  match operator with
  | .times => some (a * b)
  | .quotient => if b = 0 then none else some (a / b)
  | .remainder => if b = 0 then none else some (a % b)
  | .plus => some (a + b)
  | .minus => some (a - b)
  | .shiftLeft => some (a <<< b)
  | .shiftRight => some (a >>> b)
  | .less => some (ofBool (a < b))
  | .lessEqual => some (ofBool (a ≤ b))
  | .greater => some (ofBool (b < a))
  | .greaterEqual => some (ofBool (b ≤ a))
  | .equal => some (ofBool (a == b))
  | .unequal => some (ofBool (a != b))
  | .bitAnd => some (a &&& b)
  | .bitXor => some (a ^^^ b)
  | .bitOr => some (a ||| b)

end Sum

end Gridface.Shell
