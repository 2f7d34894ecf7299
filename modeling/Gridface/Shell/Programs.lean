import Gridface.Shell.Session
import Gridface.Tool.Kit

/-!
# Programs

Where the programs are found that a script runs, and which of them have been looked up.
-/

namespace Gridface.Shell

open Text

/-- The directories that programs are looked for in unless something else is said. -/
def usualPath : Octets := "/usr/local/sbin:/usr/local/bin:/usr/sbin:/usr/bin:/sbin:/bin"

/-- The paths that a name may stand for where it is looked for in directories with colons between
them. An empty one is the working directory. -/
def pathsOf (directories name : Octets) : List Octets :=
  (Text.splitAt ':' directories.toList).map fun dir =>
    if dir.isEmpty then name else s!"{String.ofList dir}/{name}"

/-- The first of some paths that leads to a program, or why there is none. A directory and a file
that is no program are passed over, but they are the reason if there is no program. -/
def findProgram (tree : FileTree) (problem : FileProblem) : List Octets → Except FileProblem Octets
  | [] => .error problem
  | path :: paths =>
    if (tree.program? path.toText).isSome then .ok path
    else
      match Tool.pathProblem tree path.toText with
      | .notFound => findProgram tree problem paths
      | .notADirectory => findProgram tree problem paths
      | other => findProgram tree other paths

/-- The wording of why there is no program. -/
def wordingOfMissing : FileProblem → String
  | .notFound => "not found"
  | .notADirectory => "not found"
  | problem => Tool.wording problem

namespace Run

/-- The directories in which programs are looked for. -/
def programPath : Run Octets := return (← variableNamed "PATH").value.getD ""

/-- Forgets where a program was found. -/
def forgetProgram (name : Octets) : Run Unit :=
  modify fun s => { s with tracked := s.tracked.filter (·.name != name) }

/-- The path to a program by its name. Where it was found is remembered. -/
def lookUpProgram (name : Octets) : Run (Except FileProblem Octets) := do
  let s ← get
  let known := s.tracked.find? (·.name == name)
  match known.filter (!·.isStale) with
  | some t => return .ok t.path
  | none =>
    let found := findProgram s.world.tree .notFound (pathsOf (← programPath) name)
    match found with
    | .ok path =>
      let fresh : Tracked := { name, path }
      let renew (t : Tracked) : Tracked := if t.name = name then fresh else t
      let tracked := if known.isSome then s.tracked.map renew else s.tracked ++ [fresh]
      set { s with tracked }
    | .error _ => forgetProgram name
    return found

/-- Notes that programs may be elsewhere, because the working directory is another one. -/
def staleProgramPaths : Run Unit :=
  modify fun s => { s with tracked := s.tracked.map ({ · with isStale := true }) }

/-- The drawer in which a program that has been looked up is kept: those in one drawer are in the
order in which they were looked up. -/
def drawer (t : Tracked) : Nat :=
  let codes := t.name.toList.map Char.toNat
  (codes.foldl (· + ·) (16 * codes.headD 0)) % 32768 % 31

/-- The programs that have been looked up, as they are shown. -/
def trackedText (s : Session) : Octets :=
  let line (t : Tracked) : Octets := t.path ++ (if t.isStale then "*" else "") ++ "\n"
  String.join ((s.tracked.mergeSort fun a b => drawer a ≤ drawer b).map line)

end Run

end Gridface.Shell
