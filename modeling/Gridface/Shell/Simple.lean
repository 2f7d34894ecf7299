import Gridface.Shell.BuiltIn.Control
import Gridface.Shell.BuiltIn.Lookup
import Gridface.Shell.BuiltIn.Surroundings
import Gridface.Shell.Calls

/-!
# Simple commands

How a command without commands in it is run: what its words stand for, and whether it is a function,
a part of the shell or a program.
-/

namespace Gridface.Shell

open Text

namespace Run

/-! ## Built-in commands that run commands -/

/-- Runs its arguments as a script. -/
def evaluateText (eval : Evaluate) (c : Circumstance) : BuiltIn := fun arguments =>
  runText eval { isTested := c.isTested } (" ".intercalate arguments)

/-- The path to a script that is to be run as a part of this one: a name without a slash is looked
for where programs are. -/
def scriptPath (name : Octets) : Run Octets := do
  if name.toList.contains '/' then return name
  else
    let tree := (← get).world.tree
    match (pathsOf (← programPath) name).find? fun path => tree.isFile path.toText with
    | some path => return path
    | none => fail s!"{name}: not found"

/-- Runs the script in a file as a part of this one. -/
def runScriptAt (eval : Evaluate) : BuiltIn := fun arguments => do
  match ← withoutOptions arguments with
  | [] => return 0
  | name :: _ =>
    let path ← scriptPath name
    let script ← scriptAt path
    modify fun s => { s with commandName := some path }
    let status ← runLines eval {} script
    modify fun s => if s.skip = some .function then { s with skip := none } else s
    return status

/-- Says what a word is, where a command is not run. -/
def describeCommand : BuiltIn := fun arguments => do
  let (options, words) ← readOptions "pvV" "" arguments
  let has (letter : Char) := options.any (·.1 == letter)
  match words with
  | word :: _ =>
    if has 'v' || has 'V' then describe { inWords := has 'V', isUsual := has 'p' } word
    else return 0
  | [] => return 0

/-- A tool that is part of the shell. -/
def ownTools : List (String × Tool) :=
  [("echo", Tool.echoEscaped), ("printf", Tool.printf .builtIn), ("test", Tool.builtInTest false),
    ("[", Tool.builtInTest true)]

/-- The commands for parameters, by name. -/
def parameterCommands : List (String × BuiltIn) :=
  let isExported (v : Variable) := v.isExported
  let isFixed (v : Variable) := v.isFixed
  [("set", changeSettings), ("shift", dropParameters), ("local", localParameters),
    ("unset", removeNamed), ("read", readFields),
    ("getopts", getOptions),
    ("export", exportParameters "export" isExported fun v => { v with isExported := true }),
    ("readonly", exportParameters "readonly" isFixed fun v => { v with isFixed := true })]

/-- The built-in command with a name. -/
def builtIn? (eval : Evaluate) (c : Circumstance) (name : Octets) : Option BuiltIn :=
  if name = "eval" then some (evaluateText eval c)
  else if name = "." then some (runScriptAt eval)
  else if name = "exec" then some (become eval)
  else if name = "command" then some describeCommand
  else
    controls.lookup name <|> directoryCommands.lookup name <|> lookupCommands.lookup name <|>
      surroundingCommands.lookup name <|> parameterCommands.lookup name <|>
      (ownTools.lookup name).map runOwnTool

/-- Runs a built-in command. What it cannot do ends the script only if it is a special one. -/
def runBuiltIn (command : BuiltIn) (isSpecial : Bool) (name : Octets) (arguments : List Octets) :
    Run Nat := do
  let before := (← get).commandName
  modify fun s => { s with commandName := some name }
  let result ← tryCatch (Except.ok <$> command arguments) fun stop => return .error stop
  modify fun s => { s with commandName := before }
  match result with
  | .ok status => return status
  | .error .fault => if isSpecial then throw .fault else return (← get).status
  | .error stop => throw stop

/-! ## Functions -/

/-- How many functions may be running at a time. -/
def functionLimit : Nat := 1000

/-- Runs a function. -/
def runFunction (eval : Evaluate) (c : Circumstance) (body : Command) (arguments : List Octets) :
    Run Nat := do
  let s ← get
  if functionLimit ≤ s.functionDepth then
    fail s!"Maximum function recursion depth ({functionLimit}) reached"
  else
    set { s with
      parameters := arguments
      optionIndex := some 0
      optionOffset := 0
      loopDepth := 0
      functionDepth := s.functionDepth + 1 }
    let restore : Run Unit := modify fun after =>
      { after with
        parameters := s.parameters
        optionIndex := s.optionIndex
        optionOffset := s.optionOffset
        loopDepth := s.loopDepth
        functionDepth := s.functionDepth
        skip := if after.skip = some .function then none else after.skip }
    discard <| tryCatch (eval { isTested := c.isTested } body) fun stop => do
      restore
      throw stop
    restore
    return (← get).status

/-! ## Simple commands -/

/-- How a simple command is run. -/
inductive Plan
  | nothing
  | function (body : Command) (arguments : List Octets)
  | builtIn (command : BuiltIn) (isSpecial : Bool) (name : Octets) (arguments : List Octets)
  | program (call : ProgramCall)

/-- What the arguments of the command that runs a command leave of themselves, and whether that is
looked for in the usual directories; nothing if no command is run. -/
def commandToRun? (isUsual : Bool) : List Octets → Option (Bool × List Octets)
  | [] => none
  | argument :: rest =>
    match argument.toList with
    | ['-', '-'] => if rest.isEmpty then none else some (isUsual, rest)
    | '-' :: c :: cs => if (c :: cs).all (· == 'p') then commandToRun? true rest else none
    | _ => some (isUsual, argument :: rest)

/-- How the command that some fields are is run. A command that another one runs is no function, and
not a special one. -/
def plan (eval : Evaluate) (c : Circumstance) (s : Session) (isUsual : Bool) :
    Nat → Bool → List Octets → Plan
  | 0, _, _ => .nothing
  | _ + 1, _, [] => .nothing
  | fuel + 1, isDirect, name :: arguments =>
    let isSpecial := Read.specialNames.contains name
    match (s.functions.lookup name).filter fun _ => isDirect, builtIn? eval c name with
    | some body, _ => .function body arguments
    | none, none => .program { name, arguments, isUsual }
    | none, some command =>
      match name == "command", commandToRun? false arguments with
      | true, some (isUsual, fields) => plan eval c s isUsual fuel false fields
      | _, _ => .builtIn command (isSpecial && isDirect) name arguments

/-- Whether the assignments before the command are for it alone. -/
def Plan.ownsAssignments : Plan → Bool
  | nothing => false
  | function .. => true
  | builtIn _ isSpecial _ _ => !isSpecial
  | program _ => true

/-- Whether the command lets another one take the place of the shell, or changes its streams. -/
def Plan.isReplacement : Plan → Bool
  | builtIn _ _ name _ => name == "exec"
  | _ => false

/-- Whether what the command cannot do ends the script. -/
def Plan.isSpecial : Plan → Bool
  | builtIn _ isSpecial _ _ => isSpecial
  | _ => false

/-- Whether the words after the first fields may be assignments. -/
def takesAssignments (s : Session) (fields : List Octets) : Bool :=
  match fields.dropWhile (["command", "-p", "--"].contains ·) with
  | name :: _ =>
    ["alias", "export", "local", "readonly"].contains name && (s.functions.lookup name).isNone
  | [] => false

/-- The fields that words become. -/
def expandWords (eval : Evaluate) (words : List Word) : Run (List Octets) :=
  words.foldlM (fun fields w => do
    if Word.isAssignment w && takesAssignments (← get) fields then
      return fields ++ [← expandAssignment (capture eval) w]
    else return fields ++ (← expandWord (capture eval) w)) []

/-- Makes the assignments before a command, and gives their texts. -/
def makeAssignments (eval : Evaluate) (plan : Plan) (assignments : List Word) : Run (List Octets) :=
  assignments.mapM fun w => do
    let text ← expandAssignment (capture eval) w
    let (name, value?) := splitAssignment text
    if plan.ownsAssignments then keepVariable name
    assign name (value?.getD "")
    if plan.ownsAssignments || plan.isReplacement then
      putVariable name (some { (← variableNamed name) with isExported := true })
    return text

/-- What a text stands for as a document; one that cannot be read or expanded stands for itself. -/
def expandMark (eval : Evaluate) (text : Octets) : Run Octets := do
  let s ← get
  let source : Source := { rest := text.toList, documentCount := s.documentCount }
  let step : Run Octets := do
    match Read.wholeDocument.run source with
    | .error fault =>
      modify fun s => { s with line := fault.line }
      fail fault.text
    | .ok (word, source) =>
      modify fun s =>
        { s with
          documents := source.documents ++ s.documents
          documentCount := source.documentCount }
      expandDocument (capture eval) word
  let result ← tryCatch step fun
    | .fault => return text
    | stop => throw stop
  modify fun after => { after with line := s.line, status := s.status }
  return result

/-- Shows a command before it is run, if that is asked for. -/
def trace (eval : Evaluate) (channel : Option Nat) (texts : List Octets) : Run Unit := do
  if (← hasOption 'x') && !(← get).isMarking then
    modify fun s => { s with isMarking := true }
    let mark ← expandMark eval ((← variableNamed "PS4").value.getD "")
    modify fun s =>
      let text := " ".intercalate texts
      let content := Content.ofOctets s!"{mark}{text}\n"
      match channel.map fun id => s.world.write id content with
      | some (.ok world) => { s with world, isMarking := false }
      | _ => { s with isMarking := false }

/-- Runs a command as planned. -/
def runPlan (eval : Evaluate) (c : Circumstance) : Plan → Run Nat
  | .nothing => return (← get).wordStatus
  | .function body arguments => runFunction eval c body arguments
  | .builtIn command isSpecial name arguments => runBuiltIn command isSpecial name arguments
  | .program call => callProgram eval c call

/-- Runs a simple command. -/
def runSimple (eval : Evaluate) (c : Circumstance) (assignments words : List Word)
    (redirects : List Redirect) : Run Nat := do
  modify fun s => { s with wordStatus := 0 }
  let fields ← expandWords eval words
  let s ← get
  let plan := plan eval c s false (fields.length + 1) true fields
  let complaints := s.streams.lookup 2
  let refused : Run Nat := do
    modify fun s => { s with status := 2 }
    if plan.isSpecial then throw .fault else return 2
  let step : Run Nat := withRedirects eval redirects plan.isReplacement refused do
    let texts ← makeAssignments eval plan assignments
    trace eval complaints (texts ++ fields)
    runPlan eval c plan
  if plan.ownsAssignments then inFrame step else step

end Run

end Gridface.Shell
