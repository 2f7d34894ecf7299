import Gridface.Text.Octets

/-!
# Scripts

What a shell script says: commands, the words they are made of, and where they read and write.
-/

namespace Gridface.Shell

open Text

/-- What becomes of the value of a parameter. -/
inductive ValueUse
  | plain
  /-- Another word stands in for a value that is not there. -/
  | orElse
  /-- Another word stands in for a value that is there. -/
  | instead
  /-- Another word is assigned to a parameter that has no value. -/
  | assign
  /-- A parameter without a value stops the script. -/
  | require
  | length
  | dropFront (longest : Bool)
  | dropBack (longest : Bool)
  /-- Nothing that can be done with a value. -/
  | broken
  deriving DecidableEq, Repr

/-- How a file is opened for a command. -/
inductive OpenMode
  | read
  | write
  /-- A file that is there is overwritten, even if files are to be kept. -/
  | overwrite
  | append
  | readWrite
  deriving DecidableEq, Repr

mutual

/-- A part of a word. -/
inductive Part
  | char (c : Char) (isQuoted : Bool)
  /-- A double quote or an apostrophe; a word with one is there even if it is empty. -/
  | quoteMark
  /-- The value of a parameter. If `checksEmpty`, an empty value counts as none. -/
  | value (name : Octets) (use : ValueUse) (checksEmpty : Bool) (word : List Part)
    (isQuoted : Bool)
  /-- What a command writes. -/
  | output (body : Option Command) (isQuoted : Bool)
  /-- What a sum comes to. -/
  | sum (word : List Part) (isQuoted : Bool)

/-- Where a stream of a command goes. -/
inductive Redirect
  | file (stream : Nat) (mode : OpenMode) (name : List Part)
  /-- The stream goes where the one with the number that the word is goes. -/
  | duplicate (stream : Nat) (target : List Part)
  /-- The stream reads a document that stands in the script. -/
  | document (stream : Nat) (id : Nat)

/-- A command. Lines are those that it begins on. -/
inductive Command
  | simple (line : Nat) (assignments words : List (List Part)) (redirects : List Redirect)
  /-- Commands of which each reads what the one before it writes. -/
  | pipeline (inBackground : Bool) (stages : List Command)
  | redirected (line : Nat) (body : Command) (redirects : List Redirect)
  | background (line : Nat) (body : Command) (redirects : List Redirect)
  | subshell (line : Nat) (body : Command) (redirects : List Redirect)
  | sequence (first second : Command)
  | conjunction (first second : Command)
  | alternative (first second : Command)
  | negation (body : Command)
  | conditional (test yes : Command) (no : Option Command)
  | loop (isUntil : Bool) (test body : Command)
  | each (line : Nat) (name : Octets) (words : List (List Part)) (body : Command)
  | choice (line : Nat) (word : List Part) (cases : List (List (List Part) × Option Command))
  | function (line : Nat) (name : Octets) (body : Command)

end

/-- A word of a script. -/
abbrev Word := List Part

instance : Inhabited Command := ⟨.simple 0 [] [] []⟩

/-- The characters of a word that are not quoted, up to the first part that is no such character. -/
def Word.bareChars : Word → List Char
  | .char c false :: parts => c :: Word.bareChars parts
  | _ => []

/-- The text of a word that is nothing but characters that are not quoted. -/
def Word.bare? (w : Word) : Option Octets :=
  let cs := Word.bareChars w
  if cs.length = w.length then some (String.ofList cs) else none

/-- Whether a character may begin a name. -/
def startsName (c : Char) : Bool := c.isAlpha || c == '_'

/-- Whether a character may stand in a name. -/
def isInName (c : Char) : Bool := c.isAlphanum || c == '_'

/-- Whether a text is a name. -/
def isName (cs : List Char) : Bool := cs.head?.any startsName && cs.all isInName

/-- The name that some characters assign to, if they are an assignment, and what follows the equals
sign. -/
def assignedName? (cs : List Char) : Option (Octets × List Char) :=
  let name := cs.takeWhile isInName
  match cs.dropWhile isInName with
  | '=' :: value => if isName name then some (String.ofList name, value) else none
  | _ => none

/-- Whether a word is an assignment. -/
def Word.isAssignment (w : Word) : Bool := (assignedName? (Word.bareChars w)).isSome

/-- Parameters that are named by a mark. -/
def isSpecialName (c : Char) : Bool := "!#$*-?@".toList.contains c || c.isDigit

end Gridface.Shell
