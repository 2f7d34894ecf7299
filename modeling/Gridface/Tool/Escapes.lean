import Gridface.Tool

/-!
# Escapes

What a backslash and the characters after it stand for, in what tools write. Each tool knows escapes
of its own.
-/

namespace Gridface.Tool

open Text

/-- Where an escape stands. -/
inductive EscapeSite
  /-- In an argument of a tool that writes its arguments. -/
  | echoed
  /-- In a format. -/
  | format
  /-- In an argument that a format asks to be unescaped. -/
  | argument
  deriving DecidableEq, Repr

/-- What an escape stands for. -/
inductive Escape
  /-- Octets, and what follows the escape. -/
  | octets (cs rest : List Char)
  /-- The end of all output. -/
  | stop
  /-- Nothing, for a reason. -/
  | broken (reason : String)

/-- The octet that a one-letter escape stands for. -/
def letterEscape? : Char → Option Char
  | 'a' => some '\x07'
  | 'b' => some '\x08'
  | 'e' => some '\x1b'
  | 'f' => some '\x0c'
  | 'n' => some '\n'
  | 'r' => some '\x0d'
  | 't' => some '\t'
  | 'v' => some '\x0b'
  | '\\' => some '\\'
  | _ => none

/-- The octet with the low bits of a value. -/
def octetOf (value : Nat) : Char := Char.ofNat (value % 256)

/-- An octet of at most three octal digits. -/
def octalEscape (digits : List Char) : Escape :=
  let (value, rest) := Octets.readDigits 8 3 0 digits
  .octets [octetOf value] rest

/-- An escape that is none: the backslash stands for itself, and so does what follows it. -/
def literalEscape : List Char → Escape
  | [] => .octets ['\\'] []
  | c :: rest => .octets ['\\', c] rest

/-- Whether a character is an octal digit. -/
def isOctal (c : Char) : Bool := '0' ≤ c && c ≤ '7'

/-- An octet of one or two hexadecimal digits, if there is a digit. -/
def hexEscape? (digits : List Char) : Option Escape :=
  match digits with
  | c :: _ =>
    if (Octets.digitBelow? 16 c).isSome then
      let (value, rest) := Octets.readDigits 16 2 0 digits
      some (.octets [octetOf value] rest)
    else none
  | [] => none

/-- Whether a character may be asked for by its number: no surrogate, and none of the first
characters but for three that not every character set has. -/
def hasUniversalName (code : Nat) : Bool :=
  (0x9F < code || [0x24, 0x40, 0x60].contains code) && !(0xD800 ≤ code && code ≤ 0xDFFF)

/-- A character by its number, of exactly so many hexadecimal digits. A number that is beyond all
characters stays as it is. -/
def characterEscape (letter : Char) (width : Nat) (digits : List Char) : Escape :=
  let (code, rest) := Octets.readDigits 16 width 0 digits
  let text (width : Nat) := (List.replicate (width - (Nat.toDigits 16 code).length) '0') ++
    (Nat.toDigits 16 code)
  if digits.length < rest.length + width then .broken "missing hexadecimal number in escape"
  else if !hasUniversalName code then
    .broken s!"invalid universal character name \\{letter}{String.ofList (text width)}"
  else if code < 0x110000 then .octets (Octets.ofText (Char.ofNat code).toString).toList rest
  else .octets ('\\' :: 'U' :: (text 8).map Char.toUpper) rest

/-- What follows a backslash in a tool of its own. -/
def readStandalone (site : EscapeSite) (cs : List Char) : Escape :=
  match cs with
  | [] => literalEscape []
  | 'c' :: _ => .stop
  | 'x' :: digits =>
    match hexEscape? digits with
    | some escape => escape
    | none =>
      if site = .echoed then literalEscape cs else .broken "missing hexadecimal number in escape"
  | '0' :: digits => octalEscape (if site = .format then cs else digits)
  | c :: rest =>
    if isOctal c then octalEscape cs
    else if site != .echoed && c == '"' then .octets ['"'] rest
    else if site != .echoed && c == 'u' then characterEscape 'u' 4 rest
    else if site != .echoed && c == 'U' then characterEscape 'U' 8 rest
    else
      match letterEscape? c with
      | some octet => .octets [octet] rest
      | none => literalEscape cs

/-- What follows a backslash in a tool that is built into a shell. What is no escape is read again
after the backslash. -/
def readBuiltIn (site : EscapeSite) (cs : List Char) : Escape :=
  match cs with
  | [] => .octets ['\\'] []
  | c :: rest =>
    if site != .format && c == 'c' then .stop
    else if site != .format && c == '0' then octalEscape rest
    else if isOctal c then octalEscape cs
    else
      match letterEscape? c with
      | some octet => .octets [octet] rest
      | none => .octets ['\\'] cs

/-- What follows a backslash. -/
def readEscape (d : Dialect) (site : EscapeSite) (cs : List Char) : Escape :=
  match d with
  | .standalone => readStandalone site cs
  | .builtIn => readBuiltIn site cs

/-- The octets of a text with escapes, and how the text ends before its end, if it does. -/
def unescapeFrom (d : Dialect) (site : EscapeSite) : Nat → List Char → List Char × Option Escape
  | 0, _ => ([], none)
  | _ + 1, [] => ([], none)
  | fuel + 1, '\\' :: cs =>
    match readEscape d site cs with
    | .octets octets rest =>
      let (more, ending) := unescapeFrom d site fuel rest
      (octets ++ more, ending)
    | ending => ([], some ending)
  | fuel + 1, c :: cs =>
    let (more, ending) := unescapeFrom d site fuel cs
    (c :: more, ending)

/-- The octets of a text with escapes, and how it ends before its end. Each step takes an octet, so
the length bounds the steps. -/
def unescape (d : Dialect) (site : EscapeSite) (text : Octets) : List Char × Option Escape :=
  unescapeFrom d site (text.length + 1) text.toList

/-! ## Writing arguments -/

/-- Whether an argument consists of option letters. -/
def isEchoOption (argument : Octets) : Bool :=
  match argument.toList with
  | '-' :: letters => !letters.isEmpty && letters.all fun c => c == 'n' || c == 'e' || c == 'E'
  | _ => false

/-- Writes its arguments with blanks between them; `n` leaves out the line end, and `e` asks for
escapes. -/
def echo : Tool := fun arguments s =>
  let letters := (arguments.takeWhile isEchoOption).flatMap fun a => a.toList.drop 1
  let text := " ".intercalate (arguments.dropWhile isEchoOption)
  let (cs, ending) :=
    if (letters.filter (· != 'n')).getLast? == some 'e' then unescape .standalone .echoed text
    else (text.toList, none)
  let lineEnd := if letters.contains 'n' || ending.isSome then [] else ['\n']
  (ToolRun.start s).write (.ofOctets (String.ofList (cs ++ lineEnd)))

/-- Writes its arguments with blanks between them, with escapes, as a shell does by itself. -/
def echoEscaped : Tool := fun arguments s =>
  let isSilent := arguments.head? == some "-n"
  let words := if isSilent then arguments.drop 1 else arguments
  let (cs, ending) := unescape .builtIn .echoed (" ".intercalate words)
  let lineEnd := if isSilent || ending.isSome then [] else ['\n']
  (ToolRun.start s).write (.ofOctets (String.ofList (cs ++ lineEnd)))

end Gridface.Tool
