import Gridface.Tool.Condition
import Gridface.Tool.Integer

/-!
# Conditions by their leading words

The grammar of conditions that is built into a shell. What a word means is told from the words after
it.
-/

namespace Gridface.Tool.Leading

open Text

/-- What is wrong with a condition. -/
inductive ConditionFault
  | argumentExpected (operator : Octets)
  | closingExpected
  | unexpectedOperator (word : Octets)
  | illegalNumber (word : Octets)
  | missingBracket
  deriving DecidableEq, Repr

/-- The complaint about a condition. -/
def ConditionFault.complaint : ConditionFault → Octets
  | argumentExpected operator => s!"{operator}: argument expected"
  | closingExpected => "closing paren expected"
  | unexpectedOperator word =>
    if word = "" then "unexpected operator" else s!"{word}: unexpected operator"
  | illegalNumber word => s!"Illegal number: {word}"
  | missingBracket => "missing ]"

/-- What a word is to a condition. -/
inductive Lexeme
  /-- There is no word. -/
  | nothing
  | operand
  | unary (test : UnaryTest)
  | binary (test : BinaryTest)
  | negation
  | conjunction
  | alternative
  | opening
  | closing
  deriving DecidableEq, Repr

/-- What a word is if it is an operator. -/
def operator? (word : Octets) : Option Lexeme :=
  match word with
  | "!" => some .negation
  | "-a" => some .conjunction
  | "-o" => some .alternative
  | "(" => some .opening
  | ")" => some .closing
  | "<" => some (.binary .before)
  | ">" => some (.binary .after)
  | word =>
    match word.toList with
    | ['-', letter] => (unaryLetters.lookup letter).map .unary
    | _ => (binaryMarks.lookup word).map .binary

/-- Whether a word is an operator between two others. -/
def isBinary (word : Octets) : Bool := operator? word matches some (.binary _)

/-- What the first of some words is. An operator before nothing is an operand, and so is one for a
single word before an operator between two. -/
def lexeme : List Octets → Lexeme
  | [] => .nothing
  | word :: rest =>
    match operator? word, rest with
    | none, _ => .operand
    | some .opening, [] => .operand
    | some (.unary _), [] => .operand
    | some (.unary test), next :: _ :: _ => if isBinary next then .operand else .unary test
    | some lexeme, _ => lexeme

/-- A step in reading a condition: it moves along the words. -/
abbrev Read (α : Type) := ReaderT FileTree (StateT (List Octets) (Except ConditionFault)) α

/-- Moves along by so many words. -/
def move (count : Nat) : Read Unit := modify fun words => words.drop count

/-- The number that a word is. -/
def integer (word : Octets) : Read Int := do
  let r := (readInteger (readNatural? 10) word).signed
  if !r.isOutOfRange && r.rest.length < word.length && r.rest.all Octets.isBlank then return r.value
  else throw (.illegalNumber word)

/-- The answer to a question about two words, of which the first comes next. -/
def binaryTest (test : BinaryTest) : Read Bool := do
  let words ← get
  move 2
  match words with
  | left :: mark :: rest =>
    match rest with
    | [] => throw (.argumentExpected mark)
    | right :: _ =>
      if test.isNumeric then
        let a ← integer left
        let b ← integer right
        return test.ofNumbers a b
      else return test.ofWords false (← read) left right
  | _ => return false

/-- The answer to a question about the word after the next. -/
def unaryTest (test : UnaryTest) : Read Bool := do
  let words ← get
  move 1
  match words with
  | _ :: word :: _ =>
    match test with
    | .isEmpty => return word == ""
    | .isNonempty => return word != ""
    | .isTerminal =>
      discard (integer word)
      return false
    | test => return test.ofFile (← read) word
  | mark :: _ => throw (.argumentExpected mark)
  | [] => return false

/-- One term, told from what the next word is. -/
def primary (condition : Lexeme → Read Bool) (l : Lexeme) : Read Bool := do
  match l with
  | .nothing => return false
  | .opening =>
    move 1
    let inner := lexeme (← get)
    if inner = .closing then return false
    else
      let answer ← condition inner
      move 1
      if lexeme (← get) = .closing then return answer else throw .closingExpected
  | .unary test => unaryTest test
  | _ =>
    let words ← get
    match lexeme (words.drop 1) with
    | .binary test => binaryTest test
    | _ => return words.headD "" != ""

/-- A term after so many exclamation marks. -/
def negation (condition : Lexeme → Read Bool) : Nat → Lexeme → Read Bool
  | 0, l => primary condition l
  | fuel + 1, l => do
    if l = .negation then
      let next := lexeme ((← get).drop 1)
      if next ≠ .nothing then move 1
      return !(← negation condition fuel next)
    else primary condition l

/-- Terms between marks, put together by `join`. -/
def joined (mark : Lexeme) (join : Bool → Bool → Bool) (part : Lexeme → Read Bool) :
    Nat → Bool → Lexeme → Read Bool
  | 0, answer, _ => return answer
  | fuel + 1, answer, l => do
    let answer := join answer (← part l)
    if lexeme ((← get).drop 1) = mark then
      move 2
      joined mark join part fuel answer (lexeme (← get))
    else return answer

/-- Alternatives of conjunctions, with parentheses nested so deeply at most. -/
def condition : Nat → Lexeme → Read Bool
  | 0, _ => return false
  | depth + 1, l => do
    let size := (← get).length + 1
    joined .alternative (· || ·)
      (joined .conjunction (· && ·) (negation (condition depth) size) size true) size false l

/-- The words of a condition that is between parentheses or after an exclamation mark, and whether
its answer is turned round. -/
def unwrap : Nat → Bool → List Octets → Bool × List Octets
  | 0, isNegated, words => (isNegated, words)
  | fuel + 1, isNegated, words =>
    let count := words.length
    if count = 3 && isBinary ((words.drop 1).headD "") then (isNegated, words)
    else if count = 3 || count = 4 then
      if words.head? == some "(" && words.getLast? == some ")" then
        (isNegated, (words.drop 1).dropLast)
      else if words.head? == some "!" then unwrap fuel (!isNegated) (words.drop 1)
      else (isNegated, words)
    else (isNegated, words)

/-- The answer to a condition. Each step of unwrapping takes a word, and parentheses are words. -/
def answer (tree : FileTree) (words : List Octets) : Except ConditionFault Bool := do
  let (isNegated, words) := unwrap words.length false words
  if words.isEmpty then return isNegated
  else
    let l :=
      if words.length = 3 && isBinary ((words.drop 1).headD "") then .operand else lexeme words
    let (answer, rest) ← ((condition (words.length + 1) l).run tree).run words
    match rest with
    | word :: _ :: _ => throw (.unexpectedOperator word)
    | _ => return answer != isNegated

end Leading

open Text in
/-- Whether the last word closes a condition; only its first character is looked at. -/
def closes (words : List Octets) : Bool :=
  words.getLast?.any fun word => word.toList.head? == some ']'

open Leading in
/-- Says by its status whether a condition holds, in the grammar of a shell. Between brackets, the
last word closes the condition. -/
def builtInTest (isBracketed : Bool) : Tool := fun arguments s =>
  let result :=
    if isBracketed && !closes arguments then .error ConditionFault.missingBracket
    else answer s.tree (if isBracketed then arguments.dropLast else arguments)
  match result with
  | .ok true => .start s
  | .ok false => { ToolRun.start s with status := 1 }
  | .error fault =>
    { (ToolRun.start s).complain s!"{s.name}: {fault.complaint}" with status := 2 }

end Gridface.Tool
