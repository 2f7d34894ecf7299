import Gridface.Text.Octets

/-!
# Quoting

How complaints show a word. A name is shown as a shell reads it, and stays as it is if that is the
name itself. A word that is cited stands between quotation marks.
-/

namespace Gridface.Tool

open Text

/-- The octets of one character of a word, and whether they are shown as they are. -/
structure QuoteUnit where
  octets : List Char
  isShown : Bool

/-- Whether a character beyond ASCII can be seen. -/
def isSeen (c : Char) : Bool := 0xA0 ≤ c.val && c.val != 0x2028 && c.val != 0x2029

/-- The characters of a word; an octet that belongs to none is not shown. -/
def unitsFrom : Nat → List Char → List QuoteUnit
  | 0, _ => []
  | _ + 1, [] => []
  | fuel + 1, c :: cs =>
    if c.toNat < 0x80 then ⟨[c], Octets.isShown c⟩ :: unitsFrom fuel cs
    else
      let (character, size) := firstChar c.toNat.toUInt8 (cs.map fun c => c.toNat.toUInt8)
      match character with
      | some character =>
        ⟨c :: cs.take (size - 1), isSeen character⟩ :: unitsFrom fuel (cs.drop (size - 1))
      | none => ⟨[c], false⟩ :: unitsFrom fuel cs

/-- The characters of a word. Each takes an octet at least, so the length bounds their number. -/
def units (word : Octets) : List QuoteUnit := unitsFrom word.length word.toList

/-- The letter that a control character is escaped with. -/
def controlLetter? : Char → Option Char
  | '\x07' => some 'a'
  | '\x08' => some 'b'
  | '\x0c' => some 'f'
  | '\n' => some 'n'
  | '\x0d' => some 'r'
  | '\t' => some 't'
  | '\x0b' => some 'v'
  | _ => none

/-- An octet that is not shown as it is. -/
def escaped (c : Char) : List Char :=
  match controlLetter? c with
  | some letter => ['\\', letter]
  | none => '\\' :: Octets.octal c

/-- A word between quotation marks, with a backslash before backslashes and closing marks in it. -/
def cited (word : Octets) : Octets :=
  let closing := Octets.ofText "’"
  let body := (units word).flatMap fun u =>
    if !u.isShown then u.octets.flatMap escaped
    else if u.octets == ['\\'] || u.octets == closing.toList then '\\' :: u.octets
    else u.octets
  Octets.ofText "‘" ++ String.ofList body ++ closing

/-! ## Names as a shell reads them -/

/-- Characters that a shell reads as themselves anywhere. -/
def isPlain (c : Char) : Bool :=
  c.isAlphanum || 0x80 ≤ c.toNat || "%+,-./:@]_".toList.contains c

/-- Whether a shell reads a name as itself. -/
def isPlainName (name : Octets) : Bool :=
  match name.toList with
  | [] => false
  | first :: rest =>
    if rest.isEmpty && (first == '{' || first == '}') then false
    else
      (units name).all (·.isShown) && (isPlain first || first == '{' || first == '}') &&
        rest.all fun c => isPlain c || "#\x7b\x7d~".toList.contains c

/-- Characters that stand for themselves both between apostrophes and between double quotes. -/
def isTame (c : Char) : Bool := isPlain c || c == ' ' || c == '\''

/-- Whether a name stands for itself between double quotes. -/
def isTameName (name : Octets) : Bool :=
  match name.toList with
  | [] => true
  | first :: rest =>
    (units name).all (·.isShown) && (isTame first || first == '#' || first == '~') &&
      rest.all isTame

/-- The characters of a name between apostrophes; those that are not shown are escaped in a part of
its own, and `escaping` says whether such a part is open. -/
def quoteBody (escaping : Bool) : List QuoteUnit → List Char
  | [] => []
  | u :: us =>
    if !u.isShown then
      (if escaping then [] else "'$'".toList) ++ u.octets.flatMap escaped ++ quoteBody true us
    else if u.octets == ['\''] then "'\\''".toList ++ quoteBody false us
    else (if escaping then "''".toList else []) ++ u.octets ++ quoteBody false us

/-- Whether the last part of a quoted name is one of escapes. -/
def endsEscaping (us : List QuoteUnit) : Bool := us.getLast?.any fun u => !u.isShown

/-- A name between quotes. Double quotes serve for an apostrophe if they can. A name that cannot be
shown so is gone through twice, and the second time starts in the part where the first ended. -/
def quotedName (name : Octets) : Octets :=
  let us := units name
  let hasApostrophe := name.toList.contains '\''
  if hasApostrophe && isTameName name then s!"\"{name}\""
  else s!"'{String.ofList (quoteBody (hasApostrophe && endsEscaping us) us)}'"

/-- A name, quoted if a shell does not read it as itself. -/
def shellName (name : Octets) : Octets := if isPlainName name then name else quotedName name

/-- A name before a colon, quoted if that leaves a doubt. -/
def shown (name : Octets) : Octets :=
  if name.toList.contains ':' then quotedName name else shellName name

end Gridface.Tool
