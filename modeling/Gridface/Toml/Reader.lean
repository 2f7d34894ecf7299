import Gridface.Toml.Moment
import Gridface.Toml.Tables

/-!
# Reading TOML: documents

A document is a list of statements, one a line: headers, and keys with their values. The statements
are read first and then carried out in order.
-/

namespace Gridface.Toml

/-! ## Values -/

/-- A date, a time or a number. -/
def readNumber (cs : List Char) : Option (Toml × List Char) :=
  match (skipMoment? cs).or (skipFractional? cs) with
  | some rest => some (other, rest)
  | none => (readInteger cs).map fun p => (integer p.1, p.2)

mutual

/-- A value below `depth` arrays and tables in braces. -/
def readValue (depth : Nat) : Nat → List Char → Option (Toml × List Char)
  | 0, _ => none
  | fuel + 1, cs =>
    match cs with
    | 't' :: 'r' :: 'u' :: 'e' :: rest => some (bool true, rest)
    | 'f' :: 'a' :: 'l' :: 's' :: 'e' :: rest => some (bool false, rest)
    | '[' :: rest =>
      if depth + 1 < depthLimit then
        (readElements (depth + 1) fuel (skipTrivia false rest)).map fun p => (array p.1, p.2)
      else none
    | '{' :: rest =>
      if depth + 1 < depthLimit then
        match skipBlank rest with
        | '}' :: rest => some (table .braces [], rest)
        | rest => (readPairs (depth + 1) fuel [] rest).map fun p => (table .braces p.1, p.2)
      else none
    | '"' :: _ => (readText cs).map fun p => (text p.1, p.2)
    | '\'' :: _ => (readText cs).map fun p => (text p.1, p.2)
    | cs => readNumber cs

/-- The elements of an array, with the closing bracket; a comma may follow the last. -/
def readElements (depth : Nat) : Nat → List Char → Option (List Toml × List Char)
  | 0, _ => none
  | _ + 1, ']' :: rest => some ([], rest)
  | fuel + 1, cs => do
    let (value, rest) ← readValue depth fuel cs
    match skipTrivia false rest with
    | ',' :: rest =>
      let (values, rest) ← readElements depth fuel (skipTrivia false rest)
      some (value :: values, rest)
    | ']' :: rest => some ([value], rest)
    | _ => none

/-- The pairs of a table in braces, added to those before, with the closing brace. -/
def readPairs (depth : Nat) : Nat → Entries → List Char → Option (Entries × List Char)
  | 0, _, _ => none
  | fuel + 1, es, cs => do
    let (path, rest) ← readPath cs
    let '=' :: rest := rest | none
    let (value, rest) ← readValue depth fuel (skipBlank rest)
    let es ← es.put (path.getLastD "") value path.dropLast
    match skipBlank rest with
    | ',' :: rest => readPairs depth fuel es rest
    | '}' :: rest => some (es, rest)
    | _ => none

end

/-! ## Statements -/

/-- A statement of a document. -/
inductive Statement
  /-- Opens the table at a path. -/
  | header (path : List String)
  /-- Opens one more table of the array of tables at a path. -/
  | element (path : List String)
  /-- Gives the key at a path, below the open table, a value. -/
  | assign (path : List String) (value : Toml)
  deriving Repr

/-- The path of a header up to its closing mark, and the rest of its line. -/
def readHeader (close : List Char) (cs : List Char) : Option (List String × List Char) := do
  let (path, rest) ← readPath cs
  if close.isPrefixOf rest then
    let rest ← endLine? (rest.drop close.length)
    some (path, rest)
  else none

/-- A statement with the rest of its line. -/
def readStatement (cs : List Char) : Option (Statement × List Char) :=
  match cs with
  | '[' :: '[' :: rest => (readHeader [']', ']'] rest).map fun p => (.element p.1, p.2)
  | '[' :: rest => (readHeader [']'] rest).map fun p => (.header p.1, p.2)
  | cs => do
    let (path, rest) ← readPath cs
    let '=' :: rest := rest | none
    let (value, rest) ← readValue 0 (2 * rest.length + 2) (skipBlank rest)
    let rest ← endLine? rest
    some (.assign path value, rest)

/-- The statements of a text; lines without one are skipped. -/
def readStatements : Nat → List Char → Option (List Statement)
  | 0, _ => none
  | fuel + 1, cs =>
    match skipTrivia false cs with
    | [] => some []
    | cs => do
      let (statement, rest) ← readStatement cs
      let statements ← readStatements fuel rest
      some (statement :: statements)

/-! ## Documents -/

/-- The state of a document: the path of the open table, and all entries. -/
structure Draft where
  opened : List String := []
  entries : Entries := []

/-- Carries out a statement. -/
def Draft.step (d : Draft) : Statement → Option Draft
  | .header path => do
    let entries ← d.entries.within (Entries.openTable (path.getLastD "")) path.dropLast
    some { opened := path, entries }
  | .element path => do
    let entries ← d.entries.within (Entries.openElement (path.getLastD "")) path.dropLast
    some { opened := path, entries }
  | .assign path value => do
    let entries ← d.entries.within (Entries.put (path.getLastD "") value path.dropLast) d.opened
    some { d with entries }

/-- A byte order mark may come first. -/
def skipMark : List Char → List Char
  | '\ufeff' :: rest => rest
  | cs => cs

/-- The root table of the document that a text is. Each statement takes a character, so the length
bounds their number. -/
def ofText? (text : String) : Option Toml := do
  let cs := skipMark text.toList
  let statements ← readStatements (cs.length + 1) cs
  let draft ← statements.foldlM Draft.step {}
  some (table .header draft.entries)

end Gridface.Toml
