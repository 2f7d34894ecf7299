import Gridface.Tool.Escapes
import Gridface.Tool.Quoting
import Gridface.Tool.Real

/-!
# Formats

The tool that writes its arguments as a format says, and uses the format again for the arguments
that are left.
-/

namespace Gridface.Tool

open Text

/-- A conversion of a format: how an argument is written. -/
structure Conversion where
  flags : List Char := []
  width : Nat := 0
  precision : Option Nat := none
  letter : Char

/-- The largest width or precision. -/
def largestWidth : Nat := 2147483647

namespace Conversion

/-- Whether what the conversion writes could have more octets than can be counted. -/
def isTooLong (c : Conversion) : Bool :=
  largestWidth < c.width || c.precision.any (largestWidth < ·)

/-- Whether the conversion has a flag. -/
def has (c : Conversion) (flag : Char) : Bool := c.flags.contains flag

/-- A text brought to the width of the conversion. Zeros, where they may be used, go between the
sign and the digits. -/
def padded (c : Conversion) (mayUseZeros : Bool) (sign body : List Char) : List Char :=
  let missing := c.width - (sign.length + body.length)
  if c.has '-' then sign ++ body ++ List.replicate missing ' '
  else if mayUseZeros && c.has '0' then sign ++ List.replicate missing '0' ++ body
  else List.replicate missing ' ' ++ sign ++ body

/-- The sign of a number. -/
def sign (c : Conversion) (isNegative : Bool) : List Char :=
  if isNegative then ['-'] else if c.has '+' then ['+'] else if c.has ' ' then [' '] else []

/-- The digits of a natural number, at least as many as the precision asks for. -/
def digits (c : Conversion) (base n : Nat) : List Char :=
  match c.precision with
  | none => digitsOf base 1 n
  | some least => if n = 0 ∧ least = 0 then [] else digitsOf base least n

/-- An integer as the conversion writes it. -/
def signed (c : Conversion) (n : Int) : List Char :=
  c.padded c.precision.isNone (c.sign (n < 0)) (c.digits 10 n.natAbs)

/-- A natural number as the conversion writes it. -/
def unsigned (c : Conversion) (n : Nat) : List Char :=
  let write := c.padded c.precision.isNone
  match c.letter with
  | 'o' =>
    let digits := c.digits 8 n
    write [] (if c.has '#' && digits.head? != some '0' then '0' :: digits else digits)
  | 'x' => write (if c.has '#' && n != 0 then ['0', 'x'] else []) (c.digits 16 n)
  | 'X' =>
    write (if c.has '#' && n != 0 then ['0', 'X'] else []) ((c.digits 16 n).map Char.toUpper)
  | _ => write [] (c.digits 10 n)

/-- A real number as the conversion writes it. -/
def real (c : Conversion) (f : RealForm) (r : Real) : List Char :=
  let kind := c.letter.toLower
  let sign := c.sign r.isNegative
  let text :=
    match r.magnitude with
    | .infinite => c.padded false sign "inf".toList
    | .notNumber => c.padded false sign "nan".toList
    | .finite count exponent =>
      let (n, d) := scaled count 1 2 exponent
      let places := c.precision.getD 6
      match kind with
      | 'f' => c.padded true sign (fixedDigits n d places (c.has '#'))
      | 'e' =>
        let (mantissa, exponent) := scientificDigits n d places
        c.padded true sign
          (withPoint 10 places mantissa (c.has '#') ++ 'e' :: exponentText 2 exponent)
      | 'g' => c.padded true sign (generalDigits n d places (c.has '#'))
      | _ =>
        c.padded true (sign ++ ['0', 'x']) (binaryDigits f count exponent c.precision (c.has '#'))
  if kind = c.letter then text else text.map Char.toUpper

end Conversion

/-! ## Arguments -/

/-- What has been done with a format. -/
structure FormatRun where
  run : ToolRun
  /-- What has been written since the last complaint, last octet first. -/
  pending : List Char := []
  arguments : List Octets
  /-- Nothing more is written. -/
  isStopped : Bool := false
  /-- Something could not be written. -/
  hasFailed : Bool := false

/-- The number of the character after a quote, if the word begins with a quote and has one. A tool
of its own takes a whole character, one that is built in takes an octet. -/
def quotedCode? (d : Dialect) (word : Octets) : Option (Nat × List Char) :=
  match word.toList with
  | quote :: c :: rest =>
    if quote == '\'' || quote == '"' then
      match d, firstChar c.toNat.toUInt8 (rest.map fun c => c.toNat.toUInt8) with
      | .standalone, (some character, size) => some (character.toNat, rest.drop (size - 1))
      | _, _ => some (c.toNat, rest)
    else none
  | _ => none

namespace FormatRun

/-- Writes some octets. -/
def emit (r : FormatRun) (cs : List Char) : FormatRun :=
  { r with pending := cs.reverse ++ r.pending }

/-- Brings what has been written before what comes next. -/
def flush (r : FormatRun) : FormatRun :=
  if r.pending.isEmpty then r
  else
    { r with
      run := r.run.write (.ofOctets (String.ofList r.pending.reverse))
      pending := [] }

/-- Complains about an argument. -/
def complain (r : FormatRun) (complaint : Octets) : FormatRun :=
  let r := r.flush
  { r with run := r.run.complain complaint }

/-- Complains about the format, and stops. -/
def fail (r : FormatRun) (status : Nat) (complaint : Octets) : FormatRun :=
  let r := r.complain complaint
  { r with run := { r.run with status }, isStopped := true }

/-- The next argument, if there is one, which is then used up. -/
def next (r : FormatRun) : Option Octets × FormatRun :=
  (r.arguments.head?, { r with arguments := r.arguments.drop 1 })

/-- Complains about a word that is not wholly a number. -/
def check {α : Type} (d : Dialect) (name : Octets) (word : Octets) (reading : Reading α)
    (r : FormatRun) : FormatRun :=
  let isNone := reading.rest.length == word.length
  match d with
  | .standalone =>
    if reading.isOutOfRange then r.complain s!"{name}: {cited word}: Numerical result out of range"
    else if reading.rest.isEmpty then r
    else if isNone then r.complain s!"{name}: {cited word}: expected a numeric value"
    else r.complain s!"{name}: {cited word}: value not completely converted"
  | .builtIn =>
    if !reading.rest.isEmpty then
      if isNone then r.complain s!"{name}: {word}: expected numeric value"
      else r.complain s!"{name}: {word}: not completely converted"
    else if reading.isOutOfRange then r.complain s!"{name}: {word}: Numerical result out of range"
    else r

/-- Says which octets after a character are left out; that is no failure. -/
def noteIgnored (r : FormatRun) (name rest : Octets) : FormatRun :=
  let r := r.flush
  let warning := s!"{name}: warning: {rest}"
  { r with run :=
      r.run.note s!"{warning}: character(s) following character constant have been ignored" }

/-- The number that the next argument is. A quote and a character stand for the character's code. -/
def number {α : Type} (d : Dialect) (name : Octets) (ofCode : Nat → α) (read : Octets → Reading α)
    (r : FormatRun) : α × FormatRun :=
  let (argument, r) := r.next
  match argument with
  | none => (ofCode 0, r)
  | some word =>
    match quotedCode? d word with
    | some (code, rest) =>
      (ofCode code,
        if d = .standalone && !rest.isEmpty then
          r.noteIgnored name (String.ofList rest)
        else r)
    | none =>
      if d = .builtIn && (word == "'" || word == "\"") then (ofCode 0, r)
      else
        let reading := read word
        (reading.value, r.check d name word reading)

end FormatRun

/-! ## Directives -/

/-- Letters of conversions that a flag leaves no sense. -/
def lettersWithout : Char → List Char
  | 'I' => "aAceEosxX".toList
  | '\'' => "aAceEosxX".toList
  | '#' => "cdisu".toList
  | '0' => "cs".toList
  | _ => []

/-- The letters of conversions. -/
def conversionLetters (d : Dialect) : List Char :=
  match d with
  | .standalone => "aAcdeEfFgGiosuxX".toList
  | .builtIn => "aAbcdeEfFgGiosuxX".toList

/-- The flags of conversions. -/
def conversionFlags (d : Dialect) : List Char :=
  match d with
  | .standalone => "-+ #0'I".toList
  | .builtIn => "-+ #0".toList

/-- A width that is an argument, as it is counted. -/
def countedWidth (d : Dialect) (width : Int) : Int :=
  match d with
  | .standalone => width
  | .builtIn => width.bmod (2 * (largestWidth + 1))

/-- Reads the width of a conversion: a number in the format, or the next argument after an asterisk.
A negative width is one with blanks after the text. -/
def readWidth (d : Dialect) (name : Octets) (flags cs : List Char) (r : FormatRun) :
    (Nat × List Char) × List Char × FormatRun :=
  match cs with
  | '*' :: rest =>
    let word := r.arguments.headD ""
    let (width, r) := r.number d name (Int.ofNat ·) fun w => (readInteger readPrefixed? w).signed
    let r :=
      if d = .standalone && (width < -largestWidth - 1 || largestWidth < width) then
        r.fail 1 s!"{name}: invalid field width: {cited word}"
      else r
    let width := countedWidth d width
    ((width.natAbs, if width < 0 then '-' :: flags else flags), rest, r)
  | cs =>
    let (width, rest) := Octets.readDigits 10 cs.length 0 cs
    ((width, flags), rest, r)

/-- Reads the precision of a conversion, if it has one; a negative precision is none. -/
def readPrecision (d : Dialect) (name : Octets) (cs : List Char) (r : FormatRun) :
    Option Nat × List Char × FormatRun :=
  match cs with
  | '.' :: '*' :: rest =>
    let word := r.arguments.headD ""
    let (precision, r) :=
      r.number d name (Int.ofNat ·) fun w => (readInteger readPrefixed? w).signed
    let r :=
      if d = .standalone && (largestWidth : Int) < precision then
        r.fail 1 s!"{name}: invalid precision: {cited word}"
      else r
    let precision := countedWidth d precision
    (if precision < 0 then none else some precision.toNat, rest, r)
  | '.' :: rest =>
    let (precision, rest) := Octets.readDigits 10 rest.length 0 rest
    (some precision, rest, r)
  | cs => (none, cs, r)

/-- Writes a text as a conversion makes it, unless it could be too long. -/
def FormatRun.place (d : Dialect) (name : Octets) (c : Conversion) (text : Unit → List Char)
    (r : FormatRun) : FormatRun :=
  if !c.isTooLong then r.emit (text ())
  else
    match d with
    | .standalone => { r with hasFailed := true }
    | .builtIn => r.fail 2 s!"{name}: xvsnprintf failed"

/-- Writes an argument with its escapes. -/
def FormatRun.unescaped (d : Dialect) (name : Octets) (c : Conversion) (word : Octets)
    (r : FormatRun) : FormatRun :=
  let (cs, ending) := unescape d .argument word
  let cs := c.precision.elim cs fun n => cs.take n
  let r := r.place d name c fun _ => c.padded false [] cs
  match if r.isStopped then none else ending with
  | some (.broken reason) => r.fail 1 s!"{name}: {reason}"
  | some _ => { r with run := { r.run with status := if d = .standalone then 0 else r.run.status }
                       isStopped := true }
  | none => r

/-- Writes the next argument as a conversion says. -/
def FormatRun.convert (d : Dialect) (name : Octets) (c : Conversion) (r : FormatRun) : FormatRun :=
  let form := match d with
    | .standalone => RealForm.extended
    | .builtIn => RealForm.double
  match c.letter with
  | 'b' =>
    let (word, r) := r.next
    r.unescaped d name c (word.getD "")
  | 's' =>
    let (word, r) := r.next
    let cs := (word.getD "").toList
    r.place d name c fun _ => c.padded false [] (c.precision.elim cs fun n => cs.take n)
  | 'c' =>
    let (word, r) := r.next
    let cs := (word.getD "").toList.take 1
    r.place d name c fun _ =>
      c.padded false [] (if cs.isEmpty && d = .standalone then ['\x00'] else cs)
  | letter =>
    if letter == 'd' || letter == 'i' then
      let (n, r) := r.number d name (Int.ofNat ·) fun w => (readInteger readPrefixed? w).signed
      r.place d name c fun _ => c.signed n
    else if "ouxX".toList.contains letter then
      let (n, r) := r.number d name id fun w => (readInteger readPrefixed? w).unsigned
      r.place d name c fun _ => c.unsigned n
    else
      let (v, r) := r.number d name .ofNat (readReal form)
      r.place d name c fun _ => c.real form v

/-- Follows a directive, of which the percent sign has been read, and gives what comes after it. -/
def FormatRun.direct (d : Dialect) (name : Octets) (cs : List Char) (r : FormatRun) :
    FormatRun × List Char :=
  let simple (c : Char) : Bool := d = .standalone && cs.head? == some c
  if cs.head? == some '%' then (r.emit ['%'], cs.drop 1)
  else if simple 'b' then
    match r.next with
    | (some word, r) => (r.unescaped d name { letter := 'b' } word, cs.drop 1)
    | (none, r) => (r, cs.drop 1)
  else if simple 'q' then
    match r.next with
    | (some word, r) => (r.emit (shellName word).toList, cs.drop 1)
    | (none, r) => (r, cs.drop 1)
  else
    let flags := cs.takeWhile (conversionFlags d).contains
    let ((width, allFlags), rest, r) := readWidth d name flags (cs.drop flags.length) r
    let (precision, rest, r) :=
      if r.isStopped then (none, rest, r) else readPrecision d name rest r
    let hasPoint := ((cs.take (cs.length - rest.length)).contains '.')
    let rest := if d = .standalone then rest.dropWhile "lLhjtz".toList.contains else rest
    let directive := '%' :: cs.take (cs.length - rest.length)
    let senseless :=
      if d = .standalone then
        flags.flatMap lettersWithout ++ (if hasPoint then ['c'] else [])
      else []
    if r.isStopped then (r, [])
    else
      match rest with
      | [] =>
        match d with
        | .standalone =>
          (r.fail 1 s!"{name}: {String.ofList directive}: invalid conversion specification", [])
        | .builtIn => (r.fail 2 s!"{name}: missing format character", [])
      | letter :: after =>
        let directive := String.ofList (directive ++ [letter])
        if (conversionLetters d).contains letter && !senseless.contains letter then
          (r.convert d name { flags := allFlags, width, precision, letter }, after)
        else
          match d with
          | .standalone => (r.fail 1 s!"{name}: {directive}: invalid conversion specification", [])
          | .builtIn => (r.fail 2 s!"{name}: {directive}: invalid directive", [])

/-- Goes through a format once. -/
def FormatRun.follow (d : Dialect) (name : Octets) : Nat → List Char → FormatRun → FormatRun
  | 0, _, r => r
  | _ + 1, [], r => r
  | fuel + 1, c :: cs, r =>
    if r.isStopped then r
    else if c == '%' then
      let (r, rest) := r.direct d name cs
      follow d name fuel rest r
    else if c == '\\' then
      match readEscape d .format cs with
      | .octets octets rest => follow d name fuel rest (r.emit octets)
      | .stop => { r with run := { r.run with status := 0 }, isStopped := true }
      | .broken reason => r.fail 1 s!"{name}: {reason}"
    else follow d name fuel cs (r.emit [c])

/-- Uses the format as often as there are arguments for it. -/
def FormatRun.exhaust (d : Dialect) (name format : Octets) : Nat → FormatRun → FormatRun
  | 0, r => r
  | uses + 1, r =>
    let after := r.follow d name (format.length + 1) format.toList
    if after.isStopped || after.arguments.isEmpty ||
        after.arguments.length == r.arguments.length then after
    else after.exhaust d name format uses

/-- Notes the arguments that the format has no place for. -/
def FormatRun.noteExcess (name : Octets) (r : FormatRun) : FormatRun :=
  match r.arguments with
  | [] => r
  | first :: _ =>
    if r.isStopped then r
    else
      let r := r.flush
      let warning := s!"{name}: warning: ignoring excess arguments"
      { r with run := r.run.note s!"{warning}, starting with {cited first}" }

/-- What the tool does without a format. -/
def withoutFormat (d : Dialect) (name : Octets) (s : ToolStart) : ToolRun :=
  match d with
  | .standalone =>
    ((ToolRun.start s).complain s!"{name}: missing operand").complain
      s!"Try '{name} --help' for more information."
  | .builtIn =>
    { (ToolRun.start s).complain s!"{name}: usage: printf format [arg ...]" with status := 2 }

/-- The run with its complaints before what it wrote, which a built-in tool keeps back until it is
done. -/
def ToolRun.complaintsFirst (run : ToolRun) : ToolRun :=
  { run with
    written := run.written.filter (·.1 == .complaints) ++ run.written.filter (·.1 == .output) }

/-- Writes its arguments as the first of them says. A tool of its own notes arguments that the
format has no place for. Each use takes an argument, so their number bounds the uses. -/
def printf (d : Dialect) : Tool := fun arguments s =>
  let name := s.name
  let option := (arguments.head?.map String.toList).getD []
  match if arguments.head? = some "--" then arguments.drop 1 else arguments with
  | [] => withoutFormat d name s
  | format :: arguments =>
    if d = .builtIn && option.head? == some '-' && 1 < option.length && option != ['-', '-'] then
      let letter := String.ofList ((option.drop 1).take 1)
      { (ToolRun.start s).complain s!"{name}: Illegal option -{letter}" with status := 2 }
    else
      let r := FormatRun.exhaust d name format (arguments.length + 1) { run := .start s, arguments }
      match d with
      | .standalone =>
        let r := (r.noteExcess name).flush
        if r.hasFailed then r.run.complain s!"{name}: write error" else r.run
      | .builtIn => ToolRun.complaintsFirst r.flush.run

end Gridface.Tool
