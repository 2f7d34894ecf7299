import Gridface.Toml.Lexer

/-!
# Reading TOML: dates and times

Dates and times are checked and passed over: nothing that is read from a document takes one.
-/

namespace Gridface.Toml

/-- The number that exactly `count` digits at the start of a text are, and what is left. -/
def fixedDigits? (count : Nat) (cs : List Char) : Option (Nat × List Char) :=
  let digits := cs.take count
  if digits.length = count ∧ digits.all Char.isDigit then some (valueOf 10 digits, cs.drop count)
  else none

/-- A number of two digits that lies between two bounds, and what is left. -/
def pairWithin? (least greatest : Nat) (cs : List Char) : Option (Nat × List Char) := do
  let (n, rest) ← fixedDigits? 2 cs
  if least ≤ n ∧ n ≤ greatest then some (n, rest) else none

/-- What is left after a given character. -/
def skipChar? (c : Char) : List Char → Option (List Char)
  | d :: rest => if d = c then some rest else none
  | [] => none

/-- The number of days in a month. -/
def daysIn (year month : Nat) : Nat :=
  let isLeap := year % 4 = 0 ∧ (year % 100 ≠ 0 ∨ year % 400 = 0)
  if month = 2 then (if isLeap then 29 else 28) else if [4, 6, 9, 11].contains month then 30 else 31

/-- What is left after a date. -/
def skipDate? (cs : List Char) : Option (List Char) := do
  let (year, cs) ← fixedDigits? 4 cs
  let (month, cs) ← pairWithin? 1 12 (← skipChar? '-' cs)
  let (_, cs) ← pairWithin? 1 (daysIn year month) (← skipChar? '-' cs)
  return cs

/-- What is left after a fraction of a second, if there is one. -/
def skipSecondFraction (cs : List Char) : List Char :=
  match cs with
  | '.' :: c :: rest => if c.isDigit then rest.dropWhile Char.isDigit else cs
  | _ => cs

/-- What is left after a time; a minute may have a leap second. -/
def skipTime? (cs : List Char) : Option (List Char) := do
  let (_, cs) ← pairWithin? 0 23 cs
  let (_, cs) ← pairWithin? 0 59 (← skipChar? ':' cs)
  let (_, cs) ← pairWithin? 0 60 (← skipChar? ':' cs)
  return skipSecondFraction cs

/-- What is left after a distance from universal time: hours and minutes. -/
def skipDistance? (cs : List Char) : Option (List Char) := do
  let (_, cs) ← pairWithin? 0 23 cs
  let (_, cs) ← pairWithin? 0 59 (← skipChar? ':' cs)
  return cs

/-- What is left after the offset of a time, if there is one. -/
def skipOffset? (cs : List Char) : Option (List Char) :=
  match cs with
  | '+' :: rest => skipDistance? rest
  | '-' :: rest => skipDistance? rest
  | c :: rest => some (if c = 'Z' ∨ c = 'z' then rest else c :: rest)
  | [] => some []

/-- What is left after the time that follows a date, if one follows. -/
def skipClock? (cs : List Char) : Option (List Char) :=
  match cs with
  | c :: rest =>
    if c = 'T' ∨ c = 't' ∨ c = ' ' then
      match skipTime? rest with
      | some rest => skipOffset? rest
      | none => some cs
    else some cs
  | [] => some []

/-- What is left after a date, a time, or both. -/
def skipMoment? (cs : List Char) : Option (List Char) :=
  match skipDate? cs with
  | some rest => skipClock? rest
  | none => skipTime? cs

end Gridface.Toml
