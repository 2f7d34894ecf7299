import Gridface.Shell.Fields
import Gridface.Shell.Sum
import Gridface.Shell.Session
import Gridface.Shell.Words

/-!
# Expansion

What the words of a script stand for when they are used: the values of parameters, what commands
write, and what sums come to.
-/

namespace Gridface.Shell

open Text

namespace Run

/-! ## Sums -/

/-- Stops because of a sum that cannot be worked out. -/
def failSum {α : Type} (text : Octets) (reason : String) : Run α :=
  fail s!"arithmetic expression: {reason}: \"{text}\""

/-- The number that the value of a parameter is. -/
def numberNamed (name : Octets) : Run Int64 := do
  let value := (← variableNamed name).value.getD ""
  let reading := (Tool.readInteger Tool.readPrefixed? value).signed
  if reading.isOutOfRange || !reading.rest.all Octets.isBlank then failNumber value
  else return Int64.ofInt reading.value

/-- Stops if something is wrong with a sum that is passed over. -/
def passOver (text : Octets) (sum : Sum) : Run Unit :=
  match sum.fault? with
  | some reason => failSum text reason
  | none => return

/-- What an operator makes of two numbers of a sum. -/
def apply (text : Octets) (operator : SumOperator) (a b : Int64) : Run Int64 :=
  match Sum.result? operator a b with
  | some n => return n
  | none => failSum text "division by zero"

/-- What a sum with a text comes to. -/
def sumValue (text : Octets) : Sum → Run Int64
  | .number value => return value
  | .parameter name => numberNamed name
  | .negative operand => return -(← sumValue text operand)
  | .isZero operand => return Sum.ofBool ((← sumValue text operand) == 0)
  | .complement operand => return ~~~(← sumValue text operand)
  | .binary operator left right => do
    let a ← sumValue text left
    let b ← sumValue text right
    apply text operator a b
  | .both left right => do
    if (← sumValue text left) = 0 then
      passOver text right
      return 0
    else return Sum.ofBool ((← sumValue text right) != 0)
  | .either left right => do
    if (← sumValue text left) = 0 then return Sum.ofBool ((← sumValue text right) != 0)
    else
      passOver text right
      return 1
  | .choice test yes no => do
    if (← sumValue text test) = 0 then
      passOver text yes
      sumValue text no
    else
      let n ← sumValue text yes
      passOver text no
      return n
  | .assign name operator value => do
    let operand ← sumValue text value
    let n ←
      match operator with
      | some operator => apply text operator (← numberNamed name) operand
      | none => pure operand
    assign name (toString n.toInt)
    return n
  | .spoilt before reason => do
    discard (sumValue text before)
    failSum text reason
  | .missing reason => failSum text reason

/-! ## Values -/

/-- How words are expanded. -/
structure ExpandSetting where
  /-- Runs a command and gives what it writes. -/
  output : Option Command → Run Octets
  /-- A word may become several fields. -/
  isFull : Bool
  /-- The word stands in another one, in the place of a value. -/
  isInner : Bool := false

/-- The characters that part fields. -/
def dividers : Run (List Char) := do
  match (← get).bindings.lookup "IFS" with
  | some { value := some value, .. } => return value.toList
  | _ => return [' ', '\t', '\n']

/-- A value of a parameter. -/
structure Value where
  marks : List Mark
  /-- The value is that of all the parameters without names, one by one. -/
  isList : Bool := false

/-- Octets as marks. -/
def marksOf (text : Octets) (isQuoted : Bool) : List Mark :=
  text.toList.map fun c => .char c isQuoted

/-- The parameters without names, and what is between them. -/
def listMarks (e : ExpandSetting) (isApart isQuoted : Bool) : Run Value := do
  let s ← get
  let joint : List Mark ←
    match s.bindings.lookup "IFS" with
    | some { value := some value, .. } =>
      if e.isFull && (isApart || !isQuoted) then pure [.separator]
      else pure ((value.toList.take 1).map fun c => .char c isQuoted)
    | _ => pure [if e.isFull && isApart && isQuoted then .separator else .char ' ' isQuoted]
  let marks := s.parameters.map fun p => marksOf p isQuoted
  return {
    marks := joint.intercalate marks
    isList := isApart && !s.parameters.isEmpty }

/-- The letters of the options that are set, in a fixed order. -/
def optionText (s : Session) : Octets :=
  String.ofList ("pubaCEVvxsnmiIfe".toList.filter s.options.contains)

/-- The value of a parameter, if it has one. -/
def valueOf (e : ExpandSetting) (name : Octets) (isQuoted : Bool) : Run (Option Value) := do
  let s ← get
  let plain (text : Octets) : Run (Option Value) := return some { marks := marksOf text isQuoted }
  match name.toList with
  | ['@'] => return some (← listMarks e true isQuoted)
  | ['*'] => return some (← listMarks e false isQuoted)
  | ['#'] => plain (toString s.parameters.length)
  | ['?'] => plain (toString s.status)
  | ['$'] => plain (toString s.script)
  | ['-'] => plain (optionText s)
  | ['!'] =>
    match s.lastJob with
    | some process => plain (toString process)
    | none => return none
  | c :: cs =>
    if c.isDigit then
      let n := (Octets.readDigits 10 (cs.length + 1) 0 (c :: cs)).1
      if n = 0 then plain s.name
      else
        match s.parameters[n - 1]? with
        | some text => plain text
        | none => return none
    else
      match (← variableNamed name).value with
      | some text => plain text
      | none => return none
  | [] => return none

/-- A value without what a pattern matches at one of its ends. -/
def trimmed (use : ValueUse) (pattern : List Mark) (value : Value) : Value :=
  let globs := Pattern.compile (patternOf pattern)
  let row : Pattern.Row := value.marks.map fun m => m.char?.map Prod.fst
  match use with
  | .dropFront longest =>
    { value with marks := value.marks.drop (Pattern.frontSize globs longest row) }
  | .dropBack longest =>
    { value with marks := value.marks.take (Pattern.sizeBeforeEnd globs longest row) }
  | _ => value

/-- Stops because a parameter has no value. -/
def failUnset {α : Type} (name : Octets) (checksEmpty : Bool) (text : Option Octets) : Run α :=
  match text with
  | some text => fail s!"{name}: {text}"
  | none =>
    let ending := if checksEmpty then " or null" else ""
    fail s!"{name}: parameter not set{ending}"

/-- A value as a piece of a word. -/
def Value.piece (isQuoted : Bool) (v : Value) : FieldPiece where
  marks := v.marks
  parting := if !isQuoted then .blanks else if v.isList then .separators else .whole
  isLiteral := false

/-- Gives a parameter that is named in a word a value. -/
def assignNamed (name value : Octets) : Run Unit :=
  if isName name.toList then assign name value else fail s!"{name}: bad variable name"

/-! ## Home directories -/

/-- The directory of the one who runs the script, or of a user. -/
def home (name : Octets) : Run (Option Octets) := do
  if name = "" then return (← variableNamed "HOME").value else return Tool.homes.lookup name

/-- The end of a name of a home directory. -/
def endsHome (inAssignment : Bool) (p : Part) : Bool :=
  match p with
  | .char '/' false => true
  | .char ':' false => inAssignment
  | _ => false

/-- The pieces of a word with a home directory in the place of the name that it begins with. The
characters of the name have a piece each. -/
def atHome (inAssignment : Bool) (w : Word) (pieces : List FieldPiece) : Run (List FieldPiece) := do
  match w with
  | .char '~' false :: rest =>
    let name := rest.takeWhile fun p => !endsHome inAssignment p
    match Word.bare? name with
    | none => return pieces
    | some text =>
      match ← home text with
      | some dir => return { marks := marksOf dir true } :: pieces.drop (name.length + 1)
      | none => return pieces
  | _ => return pieces

/-! ## Words -/

mutual

/-- The piece that a part of a word stands for. -/
def expandPart (e : ExpandSetting) : Part → Run (List FieldPiece)
  | .char c isQuoted =>
    let parting := if e.isInner && !isQuoted then .blanks else .whole
    return [{ marks := [.char c isQuoted], parting }]
  | .quoteMark => return [{ marks := [.quote] }]
  | .output body isQuoted => do
    let text ← e.output body
    return [Value.piece isQuoted { marks := marksOf text isQuoted }]
  | .sum word isQuoted => do
    let pieces ← expandParts { e with isFull := false, isInner := false } word
    let text := textOf (pieces.flatMap FieldPiece.marks)
    let n ← sumValue text (Sum.ofText text)
    return [Value.piece isQuoted { marks := marksOf (toString n.toInt) isQuoted }]
  | .value name use checksEmpty word isQuoted => do
    let isJoined := use matches .length
    let value ← valueOf { e with isFull := e.isFull && !isJoined } name isQuoted
    let isThere := value.any fun v => !(checksEmpty && v.marks.isEmpty)
    let found : Run (List FieldPiece) := return (value.map (Value.piece isQuoted)).toList
    let checked : Run Unit := do
      if value.isNone && (← hasOption 'u') then failUnset name false none
    let inner : Run (List FieldPiece) := do
      atHome false word (← expandParts { e with isInner := true } word)
    let own : Run (List Mark) := do
      let pieces ← expandParts { e with isFull := false, isInner := false } word
      return (← atHome false word pieces).flatMap FieldPiece.marks
    match use with
    | .broken => fail "Bad substitution"
    | .plain => do
      checked
      return (← found) ++ (← expandParts e word)
    | .orElse => if isThere then found else inner
    | .instead => if isThere then inner else return []
    | .assign =>
      if isThere then found
      else
        assignNamed name (textOf (← own))
        return ((← valueOf e name isQuoted).map (Value.piece isQuoted)).toList
    | .require =>
      if isThere then found
      else
        let text := textOf (← own)
        failUnset name checksEmpty (if word.isEmpty then none else some text)
    | .length => do
      checked
      let count := (value.map fun v => v.marks.length).getD 0
      return [Value.piece isQuoted { marks := marksOf (toString count) isQuoted }]
    | use => do
      checked
      match value with
      | none => return []
      | some v => return [Value.piece isQuoted (trimmed use (← own) v)]

/-- The pieces that parts of a word stand for. A value that is to be checked for nothing ends the
word. -/
def expandParts (e : ExpandSetting) : List Part → Run (List FieldPiece)
  | [] => return []
  | .quoteMark :: .value "@" .plain checksEmpty word true :: .quoteMark :: rest => do
    let pieces ← expandPart e (.value "@" .plain checksEmpty word true)
    return pieces ++ (← expandParts e rest)
  | p :: rest => do
    let pieces ← expandPart e p
    if p matches .value _ .plain true _ _ then return pieces
    else return pieces ++ (← expandParts e rest)

end

/-- What is asked of words that become one field each. -/
def plainSetting (output : Option Command → Run Octets) : ExpandSetting :=
  { output, isFull := false }

/-- The marks of a word that becomes one field. -/
def expandMarks (output : Option Command → Run Octets) (w : Word) : Run (List Mark) := do
  let pieces ← expandParts (plainSetting output) w
  return (← atHome false w pieces).flatMap FieldPiece.marks

/-- The text of a word that becomes one field. -/
def expandText (output : Option Command → Run Octets) (w : Word) : Run Octets :=
  return textOf (← expandMarks output w)

/-- The text of a document, in which nothing stands for a home directory. -/
def expandDocument (output : Option Command → Run Octets) (w : Word) : Run Octets :=
  return textOf ((← expandParts (plainSetting output) w).flatMap FieldPiece.marks)

/-- The fields that a word becomes. -/
def expandWord (output : Option Command → Run Octets) (w : Word) : Run (List Octets) := do
  let pieces ← atHome false w (← expandParts { output, isFull := true } w)
  let fields := fieldsOf (← dividers) none pieces
  let s ← get
  if s.options.contains 'f' then return fields.map textOf
  else return fields.flatMap (namesFor s.world.tree)

/-- The parts of a value between colons. -/
def colonParts : Word → List Word
  | [] => [[]]
  | p :: rest =>
    match colonParts rest with
    | [] => [[p]]
    | first :: more =>
      match p with
      | .char ':' false => [] :: first :: more
      | p => (p :: first) :: more

/-- The text of an assignment: home directories may follow the equals sign and colons. -/
def expandAssignment (output : Option Command → Run Octets) (w : Word) : Run Octets := do
  let name := w.take ((Word.bareChars w).takeWhile (· != '=')).length
  let values ← (colonParts (w.drop (name.length + 1))).mapM fun part => do
    let pieces ← expandParts (plainSetting output) part
    return textOf ((← atHome true part pieces).flatMap FieldPiece.marks)
  return String.ofList (Word.bareChars name) ++ "=" ++ ":".intercalate values

end Run

end Gridface.Shell
