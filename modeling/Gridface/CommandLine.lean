import Gridface.Project

/-!
# The command line

The program takes the path of a plan and a few options, and builds the font of the plan.
-/

namespace Gridface

/-- What the program is asked to do. -/
structure Options where
  /-- The path of the plan. -/
  plan : String
  /-- The directory for the font, instead of the one that the plan names. -/
  outputDir : Option String := none
  /-- A reference to an unknown glyph stops the build. -/
  strict : Bool := false
  /-- The plan's command is not run. -/
  skipCommand : Bool := false
  deriving DecidableEq, Repr

namespace Options

/-- What a list of arguments asks for. -/
inductive Request
  | build (options : Options)
  /-- To be told about the program. -/
  | inform
  /-- Nothing that the program can do. -/
  | misused
  deriving DecidableEq, Repr

/-- Options of which the plan may not have been read yet. -/
structure Draft where
  plan : Option String := none
  outputDir : Option String := none
  strict : Bool := false
  skipCommand : Bool := false

/-- What the draft asks for when all arguments have been read. -/
def Draft.finish (d : Draft) : Request :=
  match d.plan with
  | none => .misused
  | some plan =>
    .build { plan, outputDir := d.outputDir, strict := d.strict, skipCommand := d.skipCommand }

/-- The draft with the path of the plan, which may be given once and may not be empty. -/
def Draft.withPlan? (d : Draft) (path : String) : Option Draft :=
  if d.plan.isSome || path == "" then none else some { d with plan := some path }

/-- The draft with an output directory, which may be given once and may not be empty. -/
def Draft.withOutputDir? (d : Draft) (path : String) : Option Draft :=
  if d.outputDir.isSome || path == "" then none else some { d with outputDir := some path }

/-- What the arguments ask for after which no options follow. -/
def readPaths (d : Draft) : List String → Request
  | [] => d.finish
  | path :: rest =>
    match d.withPlan? path with
    | some d => readPaths d rest
    | none => .misused

/-- Whether an argument looks like an option. -/
def looksLikeOption (argument : String) : Bool :=
  argument.toList.head? == some '-' && argument != "-"

/-- The value that is attached to the short option for the output directory. -/
def attachedValue (letters : List Char) : String :=
  match letters with
  | '=' :: value => String.ofList value
  | value => String.ofList value

/-- What the arguments ask for. -/
def read (d : Draft) : List String → Request
  | [] => d.finish
  | "--" :: rest => readPaths d rest
  | "--help" :: _ => .inform
  | "--version" :: _ => .inform
  | "--strict" :: rest => if d.strict then .misused else read { d with strict := true } rest
  | "--no-postprocess" :: rest =>
    if d.skipCommand then .misused else read { d with skipCommand := true } rest
  | "--output-dir" :: value :: rest => readValue d value rest
  | "-o" :: value :: rest => readValue d value rest
  | argument :: rest =>
    match argument.toList with
    | '-' :: 'o' :: letters => readAttached d (attachedValue letters) rest
    | '-' :: 'h' :: _ => .inform
    | '-' :: 'V' :: _ => .inform
    | cs =>
      if "--output-dir=".toList.isPrefixOf cs then
        readAttached d (String.ofList (cs.drop "--output-dir=".length)) rest
      else if looksLikeOption argument then .misused
      else
        match d.withPlan? argument with
        | some d => read d rest
        | none => .misused
where
  /-- What the arguments ask for that follow the option for the output directory. -/
  readValue (d : Draft) (value : String) (rest : List String) : Request :=
    if looksLikeOption value then .misused else readAttached d value rest
  /-- What the arguments ask for after the output directory. -/
  readAttached (d : Draft) (value : String) (rest : List String) : Request :=
    match d.withOutputDir? value with
    | some d => read d rest
    | none => .misused

/-- What the arguments of the program ask for. -/
def ofArguments (arguments : List String) : Request := read {} arguments

end Options

/-! ## Running -/

/-- How the program ended, and what it says about it. -/
inductive Verdict
  | built (path : String)
  | informed
  | misused
  | failed (fault : Fault)
  deriving DecidableEq, Repr

/-- How the program is called. -/
def usage : String :=
  "Usage: gridface [-o DIR | --output-dir DIR] [--strict] [--no-postprocess] PLAN\n\n" ++
    "Builds the font of a plan.\n"

/-- What the program says about how it ended. -/
def Verdict.report : Verdict → String
  | built _ => ""
  | informed => usage
  | misused => usage
  | failed fault => fault.message ++ "\n"

/-- The exit status of the program. -/
def Verdict.status : Verdict → Nat
  | built _ => 0
  | informed => 0
  | misused => 2
  | failed fault => if fault.isOverflow then 101 else 1

/-- The plan with the changes that the options ask for. -/
def Options.adjust (o : Options) (p : Plan) : Plan :=
  { p with
    outputDir := o.outputDir.getD p.outputDir
    policy := if o.strict then .refuse else p.policy }

variable {m : Type → Type} [Monad m] (host : Host m)

/-- Builds the font that the options ask for. -/
def Options.build (o : Options) (library : FontLibrary := .standard) :
    m (List Notice × Except Fault String) := do
  match ← Plan.load host o.plan with
  | .error e => return ([], .error e)
  | .ok plan =>
    match ← Project.ofPlan host (o.adjust plan) with
    | .error e => return ([], .error e)
    | .ok project =>
      let (report, _) ← project.build host (!o.skipCommand) library
      return (report.notices, report.outcome)

/-- Does what the arguments ask for. -/
def runProgram (arguments : List String) (library : FontLibrary := .standard) :
    m (List Notice × Verdict) := do
  match Options.ofArguments arguments with
  | .misused => return ([], .misused)
  | .inform => return ([], .informed)
  | .build options =>
    let (notices, outcome) ← options.build host library
    match outcome with
    | .ok path => return (notices, .built path)
    | .error e => return (notices, .failed e)

end Gridface
