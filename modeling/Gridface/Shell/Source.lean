import Gridface.Shell.Script

/-!
# Sources

The text of a script that is being read, and the tokens in it. A token can be put back, and is then
the next one again.
-/

namespace Gridface.Shell

open Text

/-- Words that are not read as names of commands. -/
def keywords : List String :=
  ["!", "case", "do", "done", "elif", "else", "esac", "fi", "for", "if", "in", "then", "until",
    "while", "\x7b", "\x7d"]

/-- What a redirection says before its word. -/
inductive RedirectMark
  | file (mode : OpenMode)
  | duplicate
  /-- A document follows, perhaps without the tabs that its lines begin with. -/
  | document (dropsTabs : Bool)
  deriving DecidableEq, Repr

/-- A token of a script. -/
inductive Token
  | word (word : Word)
  | keyword (text : String)
  /-- A mark between commands. -/
  | mark (text : String)
  | redirect (stream : Nat) (mark : RedirectMark)
  | newline
  | nothing

namespace Token

/-- What the token is called in complaints. -/
def name : Token → String
  | word _ => "word"
  | keyword text => s!"\"{text}\""
  | mark text => s!"\"{text}\""
  | redirect .. => "redirection"
  | newline => "newline"
  | nothing => "end of file"

/-- Whether the token is the given keyword. -/
def isKeyword (t : Token) (text : String) : Bool :=
  match t with
  | keyword k => k == text
  | _ => false

/-- Whether the token is the given mark. -/
def isMark (t : Token) (text : String) : Bool :=
  match t with
  | mark m => m == text
  | _ => false

/-- Whether a list of commands ends before the token. -/
def endsList (t : Token) : Bool :=
  match t with
  | nothing => true
  | mark m => [")", ";;"].contains m
  | keyword k => ["do", "done", "elif", "else", "esac", "fi", "then", "\x7d"].contains k
  | _ => false

end Token

/-- A document that is announced in a line and follows it. -/
structure PendingDocument where
  id : Nat
  /-- The line that ends the document. -/
  ending : Octets
  dropsTabs : Bool
  /-- The document stands for itself. -/
  isLiteral : Bool

/-- A replacement that is being read. -/
structure OpenAlias where
  name : Octets
  /-- How much of the source is left behind the replacement. -/
  behind : Nat
  /-- The word after the replacement may be replaced too. -/
  goesOn : Bool

/-- The text of a script that is being read. -/
structure Source where
  rest : List Char
  line : Nat := 1
  pushed : Option Token := none
  pending : List PendingDocument := []
  /-- Documents that have been read, by their numbers. -/
  documents : List (Nat × Word) := []
  documentCount : Nat := 0
  /-- Words that are replaced where a command is named. -/
  aliases : List (Octets × Octets) := []
  openAliases : List OpenAlias := []

/-- How much of the text has not been read, without what stands in for aliases. -/
def Source.left (s : Source) : Nat :=
  match s.openAliases.getLast? with
  | some outermost => min outermost.behind s.rest.length
  | none => s.rest.length

/-- What is wrong with a script, and on which line. -/
structure SyntaxFault where
  line : Nat
  text : Octets
  /-- How much of the text has not been read. -/
  left : Nat
  deriving DecidableEq, Repr

/-- A step in reading a script. -/
abbrev Read := StateT Source (Except SyntaxFault)

namespace Read

/-- Stops reading. -/
def fail {α : Type} (text : Octets) : Read α := do
  let s ← get
  throw { line := s.line, text := s!"Syntax error: {text}", left := s.left }

/-- Stops at a token that cannot stand where it does. -/
def unexpected {α : Type} (t : Token) : Read α := fail s!"{t.name} unexpected"

/-- Stops at a token where another one has to stand. -/
def expecting {α : Type} (t expected : Token) : Read α :=
  fail s!"{t.name} unexpected (expecting {expected.name})"

/-- Puts a token back. -/
def push (t : Token) : Read Unit := modify fun s => { s with pushed := some t }

/-- How often something can be done that takes a character or a token each time. -/
def size : Read Nat := return (← get).rest.length + 3

/-- Takes the next character. -/
def take : Read (Option Char) := do
  let s ← get
  match s.rest with
  | [] => return none
  | c :: rest =>
    set { s with rest, line := if c = '\n' then s.line + 1 else s.line }
    return some c

/-- Takes the next character where it is no part of a text; a line end is not counted. -/
def drop : Read Unit := modify fun s => { s with rest := s.rest.drop 1 }

/-- The rest of a text without the line ends after backslashes that it begins with, and their
number. -/
def joinLines : List Char → List Char × Nat
  | '\\' :: '\n' :: rest =>
    let (rest, count) := joinLines rest
    (rest, count + 1)
  | rest => (rest, 0)

/-- The next character; a line end after a backslash is passed over. -/
def peek : Read (Option Char) := do
  let s ← get
  let (rest, count) := joinLines s.rest
  set { s with rest, line := s.line + count }
  return rest.head?

/-- The next character, which is taken; a line end after a backslash is passed over. -/
def next : Read (Option Char) := do
  discard peek
  take

/-- Takes the next character if it is the given one. -/
def accept (c : Char) : Read Bool := do
  if (← peek) = some c then
    discard take
    return true
  else return false

/-- Takes characters as long as they pass, after those in reverse that have been taken. -/
def takeWhileFrom (p : Char → Bool) : Nat → List Char → Read (List Char)
  | 0, taken => return taken.reverse
  | fuel + 1, taken => do
    match ← peek with
    | some c =>
      if p c then
        discard take
        takeWhileFrom p fuel (c :: taken)
      else return taken.reverse
    | none => return taken.reverse

/-- Takes characters as long as they pass. -/
def takeWhile (p : Char → Bool) : Read (List Char) := do takeWhileFrom p (← size) []

end Read

end Gridface.Shell
