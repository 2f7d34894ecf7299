import Gridface.Shell.Expansion
import Gridface.Shell.Signals
import Gridface.Tool.Condition.Leading
import Gridface.Tool.Printf

/-!
# Built-in commands

What all the commands that are part of a shell have in common: their options, and what they write.
-/

namespace Gridface.Shell

open Text

/-- A command that is part of a shell: given its arguments, it gives its status. -/
abbrev BuiltIn := List Octets → Run Nat

namespace Run

/-! ## Options -/

/-- The options among letters, and the arguments left after a value. -/
def optionLetters (letters valued rest : List Octets) :
    List Char → Run (List (Char × Octets) × List Octets)
  | [] => return ([], rest)
  | c :: more => do
    if valued.contains c.toString then
      match more, rest with
      | [], [] => fail s!"No arg for -{c} option"
      | [], value :: rest => return ([(c, value)], rest)
      | more, rest => return ([(c, String.ofList more)], rest)
    else if letters.contains c.toString then
      let (options, rest) ← optionLetters letters valued rest more
      return ((c, "") :: options, rest)
    else fail s!"Illegal option -{c}"

/-- The options that arguments begin with, and the arguments after them. -/
def optionsFrom (letters valued : List Octets) :
    Nat → List Octets → Run (List (Char × Octets) × List Octets)
  | 0, arguments => return ([], arguments)
  | fuel + 1, arguments => do
    match arguments with
    | [] => return ([], [])
    | argument :: rest =>
      match argument.toList with
      | ['-', '-'] => return ([], rest)
      | '-' :: c :: cs =>
        let (options, rest) ← optionLetters letters valued rest (c :: cs)
        let (more, rest) ← optionsFrom letters valued fuel rest
        return (options ++ more, rest)
      | _ => return ([], argument :: rest)

/-- The options that arguments begin with, and the arguments after them. Each step takes an
argument. -/
def readOptions (letters valued : String) (arguments : List Octets) :
    Run (List (Char × Octets) × List Octets) :=
  let each (text : String) := text.toList.map Char.toString
  optionsFrom (each letters) (each valued) arguments.length arguments

/-- The arguments after options, of which there are none but a mark for their end. -/
def withoutOptions (arguments : List Octets) : Run (List Octets) :=
  return (← readOptions "" "" arguments).2

/-! ## Output -/

/-- Writes to the output; success is that it can be written. -/
def answer (content : Content) : Run Nat := do
  match ← write 1 content with
  | none => return 0
  | some _ => do
    let name := (← get).commandName.getD ""
    complain s!"{name}: I/O error"
    return 1

/-- Writes a text to the output; success is that it can be written. -/
def say (text : Octets) : Run Nat := answer (.ofOctets text)

/-- Octets between apostrophes; apostrophes in them are between double quotes. -/
def quotedFrom : Nat → List Char → List Char
  | 0, _ => []
  | fuel + 1, cs =>
    let text := cs.takeWhile (· != '\'')
    let rest := cs.drop text.length
    let marks := rest.takeWhile (· == '\'')
    let after := rest.drop marks.length
    let quoted := '\'' :: text ++ ['\'']
    if marks.isEmpty then quoted
    else
      let all := quoted ++ '"' :: marks ++ ['"']
      if after.isEmpty then all else all ++ quotedFrom fuel after

/-- Octets as a shell reads them back. Each step takes an octet. -/
def quoted (text : Octets) : Octets := String.ofList (quotedFrom (text.length + 1) text.toList)

/-! ## Tools that are part of the shell -/

/-- What a tool of the shell starts from. -/
def toolStart (name : Octets) : Run ToolStart := return { name, tree := (← get).world.tree }

/-- Runs a tool as a part of the shell: its complaints begin as those of the script do. -/
def runOwnTool (tool : Tool) : BuiltIn := fun arguments => do
  let s ← get
  let run := tool arguments (← toolStart (s.commandName.getD ""))
  run.written.forM fun (stream, content) => do
    if stream = .complaints then
      print 2 s!"{s.name}: {s.line}: "
      discard (write 2 content)
  let status ← answer (run.content .output)
  return if run.status = 0 then status else run.status

end Run

end Gridface.Shell
