import Gridface.Shell.Script

/-!
# Patterns

Patterns that texts match: an asterisk stands for any text, a question mark for one octet, and a set
between brackets for one octet of the set.
-/

namespace Gridface.Shell

open Text

/-- An octet of a pattern, and whether it stands for itself. -/
abbrev PatternChar := Char × Bool

/-- A member of a set. -/
inductive Member
  | one (c : Char)
  | range (first last : Char)
  | kind (test : Char → Bool)

/-- What a part of a pattern stands for. -/
inductive Glob
  | one (c : Char)
  | any
  | many
  | set (isInverted : Bool) (members : List Member)

/-- Whether the set has an octet. -/
def Member.has (m : Member) (c : Char) : Bool :=
  match m with
  | one d => c == d
  | range first last => first ≤ c && c ≤ last
  | kind test => test c

/-- Whether a part that stands for one octet stands for the given one. -/
def Glob.accepts (g : Glob) (c : Char) : Bool :=
  match g with
  | one d => c == d
  | any => true
  | many => false
  | set isInverted members => (members.any fun m => m.has c) != isInverted

namespace Pattern

/-- Whether an octet is a punctuation mark. -/
def isPunctuation (c : Char) : Bool := '!' ≤ c && c ≤ '~' && !c.isAlphanum

/-- The kinds of octets that a set can name. -/
def kinds : List (String × (Char → Bool)) :=
  [("alnum", Char.isAlphanum), ("alpha", Char.isAlpha), ("blank", fun c => c == ' ' || c == '\t'),
    ("cntrl", fun c => c < ' ' || c == '\x7f'), ("digit", Char.isDigit),
    ("graph", fun c => '!' ≤ c && c ≤ '~'), ("lower", Char.isLower),
    ("print", Octets.isShown), ("punct", isPunctuation), ("space", Octets.isBlank),
    ("upper", Char.isUpper), ("xdigit", fun c => (Octets.digitBelow? 16 c).isSome)]

/-- The kind that is named after an opening bracket, and what follows its closing bracket. -/
def readKind? (cs : List PatternChar) : Option ((Char → Bool) × List PatternChar) :=
  match cs with
  | (':', false) :: rest =>
    let name := String.ofList ((rest.map Prod.fst).takeWhile Char.isLower)
    match kinds.lookup name, rest.drop name.length with
    | some test, (':', false) :: (']', false) :: after => some (test, after)
    | _, _ => none
  | _ => none

/-- The member that begins with an octet, and what follows it. -/
def readRange (c : Char) (cs : List PatternChar) : Member × List PatternChar :=
  match cs with
  | ('-', false) :: ('\\', false) :: (last, _) :: rest => (.range c last, rest)
  | ('-', false) :: (last, isLiteral) :: rest =>
    if last == ']' && !isLiteral then (.one c, cs) else (.range c last, rest)
  | cs => (.one c, cs)

/-- The members of a set, and what follows its closing bracket. A bracket that comes first is a
member. -/
def readMembers : Nat → Bool → List PatternChar → Option (List Member × List PatternChar)
  | 0, _, _ => none
  | _ + 1, _, [] => none
  | fuel + 1, isFirst, (c, isLiteral) :: rest =>
    let go (m : Member) (rest : List PatternChar) : Option (List Member × List PatternChar) := do
      let (members, after) ← readMembers fuel false rest
      return (m :: members, after)
    if c == ']' && !isLiteral && !isFirst then some ([], rest)
    else if c == '[' && !isLiteral then
      match readKind? rest with
      | some (test, after) => go (.kind test) after
      | none =>
        let (m, after) := readRange c rest
        go m after
    else if c == '\\' && !isLiteral then
      match rest with
      | (d, _) :: rest =>
        let (m, after) := readRange d rest
        go m after
      | [] => none
    else
      let (m, after) := readRange c rest
      go m after

/-- The parts of a pattern. A bracket that begins no set stands for itself. -/
def compileFrom : Nat → List PatternChar → List Glob
  | 0, _ => []
  | _ + 1, [] => []
  | fuel + 1, (c, isLiteral) :: rest =>
    if isLiteral then .one c :: compileFrom fuel rest
    else if c == '*' then .many :: compileFrom fuel rest
    else if c == '?' then .any :: compileFrom fuel rest
    else if c == '\\' then
      match rest with
      | (d, _) :: rest => .one d :: compileFrom fuel rest
      | [] => [.one c]
    else if c == '[' then
      let (isInverted, members) :=
        match rest with
        | ('!', false) :: members => (true, members)
        | members => (false, members)
      match readMembers (members.length + 1) true members with
      | some (members, after) => .set isInverted members :: compileFrom fuel after
      | none => .one c :: compileFrom fuel rest
    else .one c :: compileFrom fuel rest

/-- The parts of a pattern. Each takes an octet at least, so the length bounds their number. -/
def compile (cs : List PatternChar) : List Glob := compileFrom (cs.length + 1) cs

/-- A list and the lists that are left after each of its beginnings. -/
def suffixes : List Char → List (List Char)
  | [] => [[]]
  | c :: cs => (c :: cs) :: suffixes cs

/-- Whether a text matches a pattern. -/
def fits : List Glob → List Char → Bool
  | [], cs => cs.isEmpty
  | .many :: gs, cs => (suffixes cs).any fun rest => fits gs rest
  | g :: gs, cs =>
    match cs with
    | [] => false
    | c :: cs => g.accepts c && fits gs cs

/-! ## Rows of texts -/

/-- A row of texts, with nothing between them. -/
abbrev Row := List (Option Char)

/-- The first text of a row. -/
def first (row : Row) : List Char := (row.takeWhile Option.isSome).filterMap id

/-- How much of a row is its shortest or longest beginning that matches, where the first text of a
beginning is what matches. The shortest is one of the first text; without one nothing is. -/
def frontSize (gs : List Glob) (longest : Bool) (row : Row) : Nat :=
  let sizes := List.range ((if longest then row.length else (first row).length) + 1)
  let isMatch (size : Nat) : Bool := fits gs (first (row.take size))
  ((if longest then sizes.reverse else sizes).find? isMatch).getD 0

/-- How much of a row is before its shortest or longest end that matches, where the first text of an
end is what matches. The longest begins in the first text; without one all of the row is. -/
def sizeBeforeEnd (gs : List Glob) (longest : Bool) (row : Row) : Nat :=
  let sizes := List.range ((if longest then (first row).length else row.length) + 1)
  let isMatch (size : Nat) : Bool := fits gs (first (row.drop size))
  ((if longest then sizes else sizes.reverse).find? isMatch).getD row.length

end Pattern

end Gridface.Shell
