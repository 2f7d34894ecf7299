import Gridface.Tool.Condition
import Gridface.Tool.Integer

/-!
# Conditions by the number of words

The grammar of the tool that tests conditions on its own. The number of words decides how up to four
of them are read; more are read as alternatives of conjunctions.
-/

namespace Gridface.Tool.Counted

open Text

/-- What is wrong with a condition. -/
inductive ConditionFault
  | missingAfter (word : Octets)
  | excess (word : Octets)
  | notInteger (word : Octets)
  | unaryExpected (word : Octets)
  | binaryExpected (word : Octets)
  | closingExpected
  | closingExpectedAt (word : Octets)
  | noLengths (operator : Octets)
  deriving DecidableEq, Repr

/-- The complaint about a condition. -/
def ConditionFault.complaint : ConditionFault → Octets
  | missingAfter word => s!"missing argument after {cited word}"
  | excess word => s!"extra argument {cited word}"
  | notInteger word => s!"invalid integer {cited word}"
  | unaryExpected word => s!"{cited word}: unary operator expected"
  | binaryExpected word => s!"{cited word}: binary operator expected"
  | closingExpected => cited ")" ++ " expected"
  | closingExpectedAt word => cited ")" ++ s!" expected, found {cited word}"
  | noLengths operator => s!"{operator} does not accept -l"

/-- What a condition is read in. -/
structure Setting where
  tree : FileTree
  /-- The last word of the condition. -/
  last : Octets

/-- A step in reading a condition: it uses up words. -/
abbrev Read (α : Type) := ReaderT Setting (StateT (List Octets) (Except ConditionFault)) α

/-- Fails because there are no more words. -/
def beyond {α : Type} : Read α := do throw (.missingAfter (← read).last)

/-- The next word, which is used up. -/
def next : Read Octets := do
  match ← get with
  | [] => beyond
  | word :: rest => set rest; return word

/-- Uses up a word; there must be another one after it. -/
def pass : Read Unit := do
  discard next
  if (← get).isEmpty then beyond

/-- The answer to a one-word condition. -/
def oneWord : Read Bool := return (← next) != ""

/-- The question that a mark between two words asks. -/
def binary? (word : Octets) : Option BinaryTest :=
  if word = "==" then some .same else binaryMarks.lookup word

/-- The number that a word is. -/
def integer (word : Octets) : Read Int := do
  let r := readInteger (readNatural? 10) word
  if r.rest.length < word.length && r.rest.all Octets.isBlank then return r.value
  else throw (.notInteger word)

/-- Whether a word is a minus sign and one letter. -/
def looksUnary (word : Octets) : Bool :=
  match word.toList with
  | ['-', _] => true
  | _ => false

/-- The answer to a question about one word, of which the letter comes next. -/
def unaryTest : Read Bool := do
  let word ← next
  let letter := (word.toList.drop 1).headD ' '
  let test? := if letter = 'N' then some .isSpecial else unaryLetters.lookup letter
  match test? with
  | none => throw (.unaryExpected word)
  | some test =>
    let operand ← next
    match test with
    | .isEmpty => return operand == ""
    | .isNonempty => return operand != ""
    | .isTerminal =>
      discard (integer operand)
      return false
    | test => return test.ofFile (← read).tree operand

/-- The number on one side of a comparison: a word, or its length. -/
def side (isLength : Bool) (word : Octets) : Read Int :=
  if isLength then return word.length else integer word

/-- The answer to a question about two words, each perhaps after a mark that asks for its length. -/
def binaryTest (leftLength : Bool) : Read Bool := do
  if leftLength then discard next
  let words ← get
  let left := words.headD ""
  let mark := (words.drop 1).headD ""
  let rightLength := 4 ≤ words.length && (words.drop 2).headD "" == "-l"
  let shift := if rightLength then 1 else 0
  set (words.drop (3 + shift))
  let right := (words.drop (2 + shift)).headD ""
  match binary? mark with
  | none => throw (.binaryExpected mark)
  | some test =>
    if test.isNumeric then
      return test.ofNumbers (← side leftLength left) (← side rightLength right)
    else if mark.startsWith "-" then
      if test != .sameFile && (leftLength || rightLength) then throw (.noLengths mark)
      else if leftLength || rightLength then throw (.noLengths mark)
      else return test.ofWords true (← read).tree left right
    else
      let (left, right) :=
        if rightLength then (mark, right) else (left, right)
      return test.ofWords true (← read).tree left right

/-- How many words are between parentheses: up to four if the closing one comes that soon, else
all. -/
def enclosedCount (words : List Octets) : Nat :=
  match (words.drop 1).findIdx? (· == ")") with
  | some i => if i < 4 then i + 1 else words.length
  | none => words.length

/-- One term: a condition between parentheses, a question, or a word. -/
def term (condition : Nat → Read Bool) (isNegated : Bool) : Read Bool := do
  let words ← get
  let answer ←
    match words with
    | [] => beyond
    | "(" :: _ =>
      pass
      let answer ← condition (enclosedCount (← get))
      match ← get with
      | [] => throw .closingExpected
      | ")" :: rest => set rest
      | word :: _ => throw (.closingExpectedAt word)
      pure answer
    | first :: rest =>
      if 3 ≤ rest.length && first == "-l" && (binary? ((rest.drop 1).headD "")).isSome then
        binaryTest true
      else if 2 ≤ rest.length && (binary? (rest.headD "")).isSome then binaryTest false
      else if looksUnary first then unaryTest
      else oneWord
  return answer != isNegated

/-- A term after so many exclamation marks. -/
def negation (condition : Nat → Read Bool) : Nat → Bool → Read Bool
  | 0, isNegated => term condition isNegated
  | fuel + 1, isNegated => do
    if (← get).head? == some "!" then
      pass
      negation condition fuel !isNegated
    else term condition isNegated

/-- Terms between marks, put together by `join`. -/
def joined (mark : Octets) (join : Bool → Bool → Bool) (part : Read Bool) : Nat → Bool → Read Bool
  | 0, answer => return answer
  | fuel + 1, answer => do
    let answer := join answer (← part)
    match ← get with
    | word :: rest =>
      if word = mark then
        set rest
        joined mark join part fuel answer
      else return answer
    | [] => return answer

/-- A condition of any length: alternatives of conjunctions. Each part takes a word, so the number
of words bounds the parts. -/
def alternatives (condition : Nat → Read Bool) : Read Bool := do
  let size := (← get).length + 1
  if (← get).isEmpty then beyond
  else
    joined "-o" (· || ·)
      (joined "-a" (· && ·) (negation condition size false) size true) size false

/-- A condition of two words. -/
def twoWords : Read Bool := do
  let first := (← get).headD ""
  if first = "!" then
    discard next
    return !(← oneWord)
  else if looksUnary first then unaryTest
  else beyond

/-- A condition of three words. -/
def threeWords (condition : Nat → Read Bool) : Read Bool := do
  match ← get with
  | first :: second :: third :: _ =>
    if (binary? second).isSome then binaryTest false
    else if first = "!" then
      pass
      return !(← twoWords)
    else if first = "(" ∧ third = ")" then
      discard next
      let answer ← oneWord
      discard next
      return answer
    else if second = "-a" ∨ second = "-o" then alternatives condition
    else throw (.binaryExpected second)
  | _ => beyond

/-- A condition of the given number of words, with parentheses nested so deeply at most. -/
def condition : Nat → Nat → Read Bool
  | 0, _ => beyond
  | depth + 1, count => do
    let words ← get
    let inner := condition depth
    match count with
    | 1 => oneWord
    | 2 => twoWords
    | 3 => threeWords inner
    | 4 =>
      if words.head? = some "!" then
        pass
        return !(← threeWords inner)
      else if words.head? = some "(" ∧ words[3]? = some ")" then
        discard next
        let answer ← twoWords
        discard next
        return answer
      else alternatives inner
    | _ => alternatives inner

/-- The answer to a condition. Parentheses are words, so their number bounds the depth. -/
def answer (tree : FileTree) (words : List Octets) : Except ConditionFault Bool :=
  match words.getLast? with
  | none => .ok false
  | some last => do
    let (answer, rest) ←
      ((condition (words.length + 1) words.length).run { tree, last }).run words
    match rest with
    | [] => return answer
    | word :: _ => throw (.excess word)

end Counted

open Counted in
/-- Says by its status whether a condition holds. -/
def test : Tool := fun arguments s =>
  match answer s.tree arguments with
  | .ok true => .start s
  | .ok false => { ToolRun.start s with status := 1 }
  | .error fault =>
    { (ToolRun.start s).complain s!"{s.name}: {fault.complaint}" with status := 2 }

/-- Says by its status whether a condition holds that ends with a bracket. -/
def bracketedTest : Tool := fun arguments s =>
  if arguments.getLast? = some "]" then test arguments.dropLast s
  else { (ToolRun.start s).complain (s!"{s.name}: missing " ++ cited "]") with status := 2 }

end Gridface.Tool
