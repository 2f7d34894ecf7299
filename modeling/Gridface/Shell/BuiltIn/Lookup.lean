import Gridface.Shell.BuiltIn
import Gridface.Shell.Commands
import Gridface.Shell.Programs

/-!
# Commands for names of commands

The built-in commands that give words other meanings, and that say what a word is.
-/

namespace Gridface.Shell

open Text

namespace Run

/-! ## Aliases -/

/-- An alias as it is shown. -/
def aliasText (name value : Octets) : Octets := s!"{name}={quoted value}\n"

/-- Shows aliases, or gives words new ones. -/
def setAliases : BuiltIn := fun arguments => do
  if arguments.isEmpty then
    say (String.join ((← get).aliases.map fun (name, value) => aliasText name value))
  else
    arguments.foldlM (fun status text => do
      let name := text.toList.take 1 ++ (text.toList.drop 1).takeWhile (· != '=')
      let word := String.ofList name
      match text.toList.drop name.length with
      | _ :: value =>
        modify fun s =>
          let others := s.aliases.filter fun a => a.1 != word
          { s with aliases := (word, String.ofList value) :: others }
        return status
      | [] =>
        match (← get).aliases.lookup word with
        | some value =>
          discard (say (aliasText word value))
          return status
        | none =>
          print 2 s!"alias: {word} not found\n"
          return 1) 0

/-- Takes aliases away. -/
def dropAliases : BuiltIn := fun arguments => do
  let (options, names) ← readOptions "a" "" arguments
  if !options.isEmpty then
    modify fun s => { s with aliases := [] }
    return 0
  else
    names.foldlM (fun status name => do
      let s ← get
      if (s.aliases.lookup name).isSome then
        set { s with aliases := s.aliases.filter fun a => a.1 != name }
        return status
      else
        print 2 s!"unalias: {name} not found\n"
        return 1) 0

/-! ## What words are -/

/-- The names of the commands that are part of the shell, but for those that no function may have.
-/
def builtInNames : List String :=
  ["[", "alias", "bg", "cd", "chdir", "command", "echo", "false", "fg", "getopts", "hash", "jobs",
    "kill", "printf", "pwd", "read", "test", "true", "type", "ulimit", "umask", "unalias", "wait"]

/-- Whether a name is that of a command which is part of the shell or the script. -/
def isOwnCommand (s : Session) (name : Octets) : Bool :=
  Read.specialNames.contains name || builtInNames.contains name || (s.functions.lookup name).isSome

/-- How a word is described. -/
structure Description where
  /-- In words, and not as it can be used. -/
  inWords : Bool
  /-- Programs are looked for in the usual directories. -/
  isUsual : Bool := false

/-- The path to a program, and whether it was known. -/
def programPath? (d : Description) (name : Octets) : Run (Option (Octets × Bool)) := do
  let s ← get
  if d.isUsual then
    let found := findProgram s.world.tree .notFound (pathsOf usualPath name)
    return (found.toOption).map (·, false)
  else
    match s.tracked.find? (·.name == name) with
    | some t => return some (t.path, true)
    | none => return ((← lookUpProgram name).toOption).map (·, false)

/-- Says what a word is. -/
def describe (d : Description) (word : Octets) : Run Nat := do
  let s ← get
  let answer (text : Octets) : Run Nat :=
    if d.inWords then say s!"{word} is {text}\n" else say s!"{word}\n"
  let missing : Run Nat := do
    if d.inWords then discard (say s!"{word}: not found\n")
    return 127
  if keywords.contains word then answer "a shell keyword"
  else
    match s.aliases.lookup word with
    | some value =>
      if d.inWords then answer s!"an alias for {value}" else say ("alias " ++ aliasText word value)
    | none =>
      if word.toList.contains '/' then
        if isThere s.world.tree word then answer word else missing
      else if Read.specialNames.contains word then answer "a special shell builtin"
      else if (s.functions.lookup word).isSome then answer "a shell function"
      else if builtInNames.contains word then answer "a shell builtin"
      else
        match ← programPath? d word with
        | some (path, isKnown) =>
          if d.inWords then answer (if isKnown then s!"a tracked alias for {path}" else path)
          else say s!"{path}\n"
        | none => missing

/-- Says what words are. -/
def describeAll : BuiltIn := fun arguments => do
  arguments.foldlM (fun status word => return status ||| (← describe { inWords := true } word)) 0

/-- Looks a word up anew, and says so if there is no such command. -/
def lookUpAgain (status : Nat) (name : Octets) : Run Nat := do
  forgetProgram name
  if name.toList.contains '/' || isOwnCommand (← get) name then return status
  else
    match ← lookUpProgram name with
    | .ok _ => return status
    | .error problem =>
      complain s!"{name}: {wordingOfMissing problem}"
      return 1

/-- Looks words up, or shows the programs that have been. -/
def lookUp : BuiltIn := fun arguments => do
  let (options, names) ← readOptions "r" "" arguments
  if !options.isEmpty then
    modify fun s => { s with tracked := [] }
    return 0
  else if names.isEmpty then say (trackedText (← get))
  else names.foldlM lookUpAgain 0

/-- The commands of this kind, by name. -/
def lookupCommands : List (String × BuiltIn) :=
  [("alias", setAliases), ("unalias", dropAliases), ("type", describeAll), ("hash", lookUp)]

end Run

end Gridface.Shell
