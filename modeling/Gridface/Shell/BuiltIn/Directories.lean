import Gridface.Shell.BuiltIn
import Gridface.Shell.Programs

/-!
# Commands for directories

The built-in commands that change and show the working directory. Its path is known as it was
reached: a component that leads up takes the one before it away, whatever is there.
-/

namespace Gridface.Shell

open Text

/-- The slashes that a path from the root begins with: one, or two if there are just two. -/
def rootOf (path : List Char) : List Char :=
  match path with
  | ['/', '/'] => ['/', '/']
  | '/' :: '/' :: c :: _ => if c = '/' then ['/'] else ['/', '/']
  | _ => ['/']

/-- The components of a path after some others. -/
def follow (before : List (List Char)) (path : List Char) : List (List Char) :=
  (Text.splitAt '/' path).foldl (fun done component =>
    if component = ['.', '.'] then done.dropLast
    else if component.isEmpty || component == ['.'] then done
    else done ++ [component]) before

/-- The path that leads from a directory to where another path leads from there. -/
def directoryAfter (directory path : Octets) : Octets :=
  let isAbsolute := path.toList.head? == some '/'
  let root := rootOf (if isAbsolute then path.toList else directory.toList)
  let before := if isAbsolute then [] else follow [] directory.toList
  String.ofList (root ++ Text.joinWith '/' (follow before path.toList))

/-- The path of a place. -/
def pathOfPlace (place : Place) : Octets := .ofText ("/" ++ "/".intercalate place)

namespace Run

/-- Gives a parameter that commands are given a value. -/
def assignExported (name value : Octets) : Run Unit := do
  assign name value
  putVariable name (some { (← variableNamed name) with isExported := true })

/-- Goes to a directory; says whether that is possible. -/
def goTo (isPhysical : Bool) (path : Octets) : Run Bool := do
  let s ← get
  let path := if isPhysical then path else directoryAfter s.directory path
  match s.world.tree.locate path.toText with
  | .ok (.found place .directory _) =>
    set { s with world := { s.world with tree := { s.world.tree with workingDir := place } } }
    assignExported "OLDPWD" s.directory
    let directory := if isPhysical then pathOfPlace place else path
    modify fun s => { s with directory }
    assignExported "PWD" directory
    staleProgramPaths
    return true
  | _ => return false

/-- Whether a directory is looked for in those of `CDPATH`: it does not say where it is. -/
def isSoughtDirectory (name : Octets) : Bool :=
  match name.toList with
  | '/' :: _ => false
  | cs =>
    let first := String.ofList (cs.takeWhile (· != '/'))
    !(first == "." || first == "..")

/-- The first of some paths that leads to a directory. -/
def firstDirectory? (tree : FileTree) (paths : List Octets) : Option Octets :=
  paths.find? fun path => tree.isDirectory path.toText

/-- Changes the working directory. It is shown if it was named by a mark or found elsewhere. -/
def changeDirectory : BuiltIn := fun arguments => do
  let (options, names) ← readOptions "LP" "" arguments
  let isPhysical := (options.getLast?).any (·.1 == 'P')
  let isBack := names.head? == some "-"
  let name ←
    match names with
    | [] => pure ((← variableNamed "HOME").value.getD "")
    | name :: _ => if isBack then pure ((← variableNamed "OLDPWD").value.getD "") else pure name
  let sought := if name = "" then "." else name
  let path ←
    match (← variableNamed "CDPATH").value with
    | some directories =>
      if isSoughtDirectory name then
        pure (firstDirectory? (← get).world.tree (pathsOf directories sought))
      else pure none
    | none => pure none
  if !(← goTo isPhysical (path.getD sought)) then fail s!"can't cd to {sought}"
  else if isBack || path.any (· != sought) then say s!"{(← get).directory}\n"
  else return 0

/-- Shows the working directory. -/
def showDirectory : BuiltIn := fun arguments => do
  let (options, _) ← readOptions "LP" "" arguments
  let s ← get
  let isPhysical := (options.getLast?).any (·.1 == 'P')
  say s!"{if isPhysical then pathOfPlace s.world.tree.workingDir else s.directory}\n"

/-- The commands of this kind, by name. -/
def directoryCommands : List (String × BuiltIn) :=
  [("cd", changeDirectory), ("chdir", changeDirectory), ("pwd", showDirectory)]

end Run

end Gridface.Shell
