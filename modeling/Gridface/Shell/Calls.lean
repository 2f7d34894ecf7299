import Gridface.Shell.BuiltIn.Directories
import Gridface.Shell.BuiltIn.Parameters
import Gridface.Shell.Redirection

/-!
# Calling programs

How the programs are run that a script names: tools, and shells in shells.
-/

namespace Gridface.Shell

open Text

namespace Run

/-! ## Tools -/

/-- What a stream leads to. -/
def channelOf (s : Session) (stream : Nat) : Option Channel :=
  (s.streams.lookup stream).bind fun id => s.world.channels.lookup id

/-- The file that a stream leads to. -/
def fileOf (s : Session) (stream : Nat) : Option Place :=
  match channelOf s stream with
  | some (.file f) => some f.place
  | _ => none

/-- What there is to read on the input, or why nothing can be read. -/
def toolInput (s : Session) : Option (Except FileProblem Content) :=
  match channelOf s 0, (s.streams.lookup 0).bind s.world.unread? with
  | some .directory, _ => some (.error .isADirectory)
  | _, content => content.map .ok

/-- Writes what a tool has written, and gives what is in the way of its output. -/
def writeAll (written : List (ToolStream × Content)) : Run (Option WriteFault) :=
  written.foldlM (fun fault (stream, content) => do
    match stream with
    | .output => return fault <|> (← write 1 content)
    | .complaints =>
      discard (write 2 content)
      return fault) none

/-- Runs a tool, and gives its status. -/
def runTool (tool : Tool) (name : Octets) (arguments : List Octets) : Run Nat := do
  let s ← get
  let input := toolInput s
  let run := tool arguments
    { name
      tree := s.world.tree
      input
      hasInput := (s.streams.lookup 0).isSome
      inputFile := fileOf s 0
      outputFile := fileOf s 1
      hasOutput := (s.streams.lookup 1).isSome }
  set { s with world := { s.world with tree := run.tree } }
  if run.hasRead then skipInput 0 ((input.bind Except.toOption).getD []).size
  match ← writeAll run.written with
  | none => return run.status
  | some fault =>
    print 2 s!"{name}: write error: {fault.wording}\n"
    return 1

/-! ## Shells -/

/-- The parameters that commands are given where nothing else is said. -/
def givenBindings : List (Octets × Variable) :=
  let given (value : Octets) : Variable := { value := some value, isExported := true }
  [("HOME", given "/root"), ("LC_CTYPE", given "C.UTF-8"), ("PATH", given usualPath)]

/-- The parameters that a shell sets unless it is given them. -/
def firstBindings : List (Octets × Variable) :=
  [("PATH", { value := some usualPath }), ("PS1", { value := some "# " }),
    ("PS2", { value := some "> " }), ("PS4", { value := some "+ " })]

/-- The parameters that a shell sets whatever it is given. -/
def ownBindings (parent : Nat) : List (Octets × Octets) :=
  [("IFS", " \t\n"), ("OPTIND", "1"), ("PPID", toString parent)]

/-- The session of a shell that has just been started, with the parameters that it is given. -/
def firstSession (name : Octets) (world : World) (lineage : List Nat)
    (given : List (Octets × Variable)) : Session :=
  let place := world.tree.workingDir
  let isHere (path : Octets) : Bool :=
    path.toList.head? == some '/' && world.tree.placeOf? path.toText == some place
  let told := ((given.lookup "PWD").bind Variable.value).filter isHere
  let directory := told.getD (pathOfPlace place)
  let first := firstBindings.filter fun entry => (given.lookup entry.1).isNone
  let owned := (ownBindings (lineage.getD 1 0)).map fun (name, value) =>
    (name, { (given.lookup name).getD {} with value := some value })
  let here : Octets × Variable := ("PWD", { value := some directory, isExported := true })
  let others := (given ++ first).filter fun entry =>
    entry.1 != "PWD" && (owned.lookup entry.1).isNone
  { world, name, lineage, directory
    script := lineage.headD 0
    parameters := []
    bindings := here :: owned ++ others }

/-- Sets the options that the arguments of a shell begin with, and gives the arguments after them,
and whether the first of those is a script. -/
def callOptions : Nat → Bool → List Octets → Run (Bool × List Octets)
  | 0, isScript, arguments => return (isScript, arguments)
  | fuel + 1, isScript, arguments => do
    match arguments with
    | [] => return (isScript, [])
    | argument :: rest =>
      match argument.toList with
      | ['-'] => return (isScript, rest)
      | ['-', '-'] => return (isScript, rest)
      | sign :: cs =>
        if sign = '-' || sign = '+' then
          let letters := cs.filter fun c => c != 'c' && c != 'l'
          let rest ← setOptionLetters (sign == '-') letters rest
          callOptions fuel (isScript || cs.contains 'c') rest
        else return (isScript, argument :: rest)
      | [] => return (isScript, argument :: rest)

/-- Says what the script calls itself, and gives it its parameters. -/
def nameScript (name : Octets) (parameters : List Octets) : Run Unit :=
  modify fun s => { s with name, parameters }

/-- The text of the script in a file. -/
def scriptAt (path : Octets) : Run Octets := do
  match (← get).world.openPath false .read path.toText with
  | .error fault => fail s!"cannot open {path}: {fault.wording}"
  | .ok (world, .file f) =>
    let octets := Octets.ofBytes (world.fileContent f.place).knownBytes
    return String.ofList (octets.toList.filter (· != '\x00'))
  | .ok _ => return ""

/-- What there is to read, as a script. -/
def scriptInput : Run Octets := do
  let content := (← unread 0).getD []
  skipInput 0 content.size
  return Octets.ofBytes content.knownBytes

/-- Settles the options that the arguments of a shell ask for. One that is told to ask its user
controls jobs too. -/
def settleOptions : Run Unit := do
  if ← hasOption 'i' then setOption true 'm'
  dropJobControl

/-- Runs the script that the arguments of a shell name. -/
def runCall (eval : Evaluate) (arguments : List Octets) : Run Unit := do
  match ← callOptions (arguments.length + 1) false arguments with
  | (true, []) => fail "-c requires an argument"
  | (true, script :: rest) =>
    match rest with
    | name :: parameters => nameScript name parameters
    | [] => pure ()
    settleOptions
    discard (runText eval {} script)
  | (false, arguments) =>
    match arguments, ← hasOption 's' with
    | path :: parameters, false =>
      let script ← scriptAt path
      nameScript path parameters
      settleOptions
      discard (runLines eval {} script)
    | parameters, _ =>
      modify fun s => { s with parameters }
      settleOptions
      discard (runLines eval {} (← scriptInput))

/-- Runs a shell in a shell, perhaps in the place of that one. -/
def runShell (eval : Evaluate) (takesPlace : Bool) (name : Octets) (arguments : List Octets) :
    Run Ending := do
  let s ← get
  let lineage ← if takesPlace then pure s.lineage else (· :: s.lineage) <$> startProcess
  let given := s.bindings.filter fun entry => entry.2.isExported && entry.2.value.isSome
  let start := firstSession name (← get).world lineage given
  inSession eval
    { start with
      streams := s.streams
      traps := s.traps.filter (·.2 == "")
      mask := s.mask
      limits := s.limits }
    (runCall eval arguments)

/-! ## Programs -/

/-- What there is to be done about a command that is no part of the shell. -/
structure ProgramCall where
  name : Octets
  arguments : List Octets
  /-- The program is looked for in the usual directories. -/
  isUsual : Bool := false

/-- The path to the program of a call. -/
def ProgramCall.path (call : ProgramCall) : Run (Except FileProblem Octets) := do
  let tree := (← get).world.tree
  if call.name.toList.contains '/' then
    let path := call.name.toText
    return if (tree.program? path).isSome then .ok call.name
      else .error (Tool.pathProblem tree path)
  else if call.isUsual then return findProgram tree .notFound (pathsOf usualPath call.name)
  else lookUpProgram call.name

/-- Runs a program, perhaps in the place of the shell, and gives how it ended. -/
def runProgram (eval : Evaluate) (takesPlace : Bool) (call : ProgramCall) :
    Run (Except FileProblem Ending) := do
  match ← call.path with
  | .error problem => return .error problem
  | .ok path =>
    let program := ((← get).world.tree.program? path.toText).getD ""
    if Tool.shellNames.contains program then
      .ok <$> runShell eval takesPlace call.name call.arguments
    else
      match Tool.kit.lookup program with
      | some tool =>
        if !takesPlace then discard startProcess
        return .ok (.exited (← runTool tool call.name call.arguments))
      | none => return .error .permissionDenied

/-- Whether a program is missing for a reason, and not just no program. -/
def isMissing (problem : FileProblem) : Bool :=
  [FileProblem.notFound, .notADirectory, .nameTooLong].contains problem

/-- Complains that a program cannot be run, and gives the status of that. A program that was looked
for is missing whatever the reason. -/
def refuseProgram (name : Octets) (wasSought : Bool) (problem : FileProblem) : Run Nat := do
  complain s!"{name}: {wordingOfMissing problem}"
  return if wasSought || isMissing problem then 127 else 126

/-- Calls a program. It takes the place of the shell if nothing is left to be done; then the shell
ends as the program does. -/
def callProgram (eval : Evaluate) (c : Circumstance) (call : ProgramCall) : Run Nat := do
  let takesPlace := c.isLast && !(← hasTraps)
  match ← runProgram eval takesPlace call with
  | .error problem => refuseProgram call.name (!call.name.toList.contains '/') problem
  | .ok ending =>
    match ending with
    | .killed signal => if takesPlace then throw (.killed signal) else awaited ending
    | ending => awaited ending

/-- Lets a program take the place of the shell. -/
def become (eval : Evaluate) : BuiltIn := fun arguments => do
  match arguments with
  | [] => return 0
  | name :: arguments =>
    match ← runProgram eval true { name, arguments } with
    | .ok (.killed signal) => throw (.killed signal)
    | .ok (.exited status) =>
      modify fun s => { s with status, exitStatus := some status, traps := [] }
    | .error problem =>
      let status ← refuseProgram name false problem
      modify fun s => { s with status, exitStatus := some status }
    throw .ended

end Run

end Gridface.Shell
