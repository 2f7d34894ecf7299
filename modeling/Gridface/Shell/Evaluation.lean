import Gridface.Shell.Simple

/-!
# Running commands

How commands with commands in them are run, and how a shell is run as a tool. Commands within
commands are run by a step that is given.
-/

namespace Gridface.Shell

open Text

namespace Run

/-! ## Compound commands -/

/-- What follows a round of a loop. -/
inductive RoundEnd
  | goOn
  | leave
  | leaveFunction
  deriving DecidableEq, Repr

/-- What follows a round of a loop, by what is to be skipped. -/
def endRound : Run (RoundEnd × Bool) := do
  let s ← get
  match s.skip with
  | none => return (.goOn, false)
  | some .function => return (.leaveFunction, true)
  | some (.loops count goesOn) =>
    if count ≤ 1 then
      set { s with skip := none }
      return (if goesOn then .goOn else .leave, true)
    else
      set { s with skip := some (.loops (count - 1) goesOn) }
      return (.leave, true)

/-- Runs a loop; the status is that of the last round. -/
def runLoop (eval : Evaluate) (c : Circumstance) (isUntil : Bool) (test body : Command) :
    Nat → Nat → Run Nat
  | 0, status => return status
  | fuel + 1, status => do
    let answer ← eval { isTested := true } test
    match ← endRound with
    | (.leaveFunction, _) => return answer
    | (.leave, _) => return status
    | (.goOn, true) => runLoop eval c isUntil test body fuel status
    | (.goOn, false) =>
      if (answer = 0) = isUntil then return status
      else
        let status ← eval c body
        match ← endRound with
        | (.goOn, _) => runLoop eval c isUntil test body fuel status
        | _ => return status

/-- Runs a command for each of some texts. -/
def runEach (eval : Evaluate) (c : Circumstance) (name : Octets) (body : Command) :
    Nat → List Octets → Run Nat
  | status, [] => return status
  | _, text :: texts => do
    assign name text
    let status ← eval c body
    match ← endRound with
    | (.goOn, _) => runEach eval c name body status texts
    | _ => return status

/-- Does something as a loop. -/
def asLoop (step : Run Nat) : Run Nat := do
  modify fun s => { s with loopDepth := s.loopDepth + 1 }
  let status ← step
  modify fun s => { s with loopDepth := s.loopDepth - 1 }
  return status

/-- Whether a text matches one of the patterns that words are. -/
def matchesAny (eval : Evaluate) (text : Octets) : List Word → Run Bool
  | [] => return false
  | w :: words => do
    let marks ← expandMarks (capture eval) w
    if Pattern.fits (Pattern.compile (patternOf marks)) text.toList then return true
    else matchesAny eval text words

/-- Runs the first case of which a pattern matches. -/
def runCases (eval : Evaluate) (c : Circumstance) (text : Octets) :
    List (List Word × Option Command) → Run Nat
  | [] => return 0
  | (patterns, body) :: cases => do
    if ← matchesAny eval text patterns then (body.map (eval c)).getD (pure 0)
    else runCases eval c text cases

/-- Runs the stages of a pipeline, each with what the one before it wrote, and gives how they ended,
the last one first. -/
def runStages (eval : Evaluate) (c : Circumstance) (input : Option Nat) (endings : List Ending) :
    List Command → Run (List Ending)
  | [] => return endings
  | stage :: stages => do
    let output ← if stages.isEmpty then pure none else some <$> addChannel (.buffer [] false)
    let ending ← apart eval do
      input.forM fun id => connect 0 (some id)
      output.forM fun id => connect 1 (some id)
      discard (eval { c with isLast := true } stage)
    output.forM fillBuffer
    runStages eval c output (ending :: endings) stages

/-- Runs a pipeline; the status is that of the last stage. -/
def runPipeline (eval : Evaluate) (c : Circumstance) (stages : List Command) : Run Nat := do
  match ← runStages eval c none [] stages with
  | [] => return 0
  | last :: others =>
    discard takeSlot
    endJobs
    noteEnded
    others.reverse.forM fun ending => discard (describeEnding ending)
    describeEnding last

/-- Runs a command that is not waited for, in so many processes. Nobody can tell that it has ended
before anything else is done. -/
def runBackground (eval : Evaluate) (size : Nat) (step : Run Unit) : Run Nat := do
  let slot ← takeSlot
  let input ← addChannel (.device .null true false)
  let ending ← apart eval do
    connect 0 (some input)
    step
  receiveSignals
  modify fun s =>
    let process := s.world.lastProcess
    { s with jobs := { slot, process, size, ending } :: s.jobs, lastJob := some process }
  return 0

/-- Notes the line that a command begins on. -/
def atLine (line : Nat) : Run Unit := modify fun s => { s with line }

/-- Runs a command with redirections, after which nothing is left to be done. -/
def runRedirected (eval : Evaluate) (c : Circumstance) (body : Command)
    (redirects : List ReadyRedirect) : Run Unit := do
  redirects.forM (redirect eval)
  discard (eval { c with isLast := true } body)

/-- Ends the shell because a command has failed. -/
def endFailed (status : Nat) : Run Nat := do
  modify fun s => { s with status, exitStatus := some status }
  throw .ended

/-- Runs a command; nothing is the status if that of the last command stays. -/
def perform (eval : Evaluate) (fuel : Nat) (c : Circumstance) : Command → Run (Option Nat)
  | .simple line assignments words redirects => do
    atLine line
    some <$> runSimple eval c assignments words redirects
  | .pipeline inBackground stages => do
    if inBackground then
      some <$> runBackground eval stages.length do
        let status ← runPipeline eval {} stages
        modify fun s => { s with status }
    else some <$> runPipeline eval c stages
  | .redirected line body redirects => do
    atLine line
    let refused : Run Nat := do
      if !c.isTested && (← hasOption 'e') then endFailed 2 else return 2
    some <$> withRedirects eval redirects false refused (eval { isTested := c.isTested } body)
  | .background line body redirects => do
    atLine line
    let rs ← redirects.mapM (ready eval)
    some <$> runBackground eval 1 (runRedirected eval {} body rs)
  | .subshell line body redirects => do
    atLine line
    let rs ← redirects.mapM (ready eval)
    let ending ← apart eval (runRedirected eval c body rs)
    match ending with
    | .killed signal =>
      if c.isLast && !(← hasTraps) then throw (.killed signal) else some <$> awaited ending
    | ending => some <$> awaited ending
  | .sequence first second => do
    discard (eval { isTested := c.isTested } first)
    if (← get).skip.isSome then return none else some <$> eval c second
  | .conjunction first second => do
    let status ← eval { isTested := true } first
    if status != 0 || (← get).skip.isSome then return none else some <$> eval c second
  | .alternative first second => do
    let status ← eval { isTested := true } first
    if status == 0 || (← get).skip.isSome then return none else some <$> eval c second
  | .negation body => do
    let status ← eval { isTested := true } body
    if (← get).skip.isSome then return some status
    else return some (if status = 0 then 1 else 0)
  | .conditional test yes no => do
    let status ← eval { isTested := true } test
    if (← get).skip.isSome then return none
    else if status = 0 then some <$> eval c yes
    else some <$> (no.map (eval c)).getD (pure 0)
  | .loop isUntil test body =>
    some <$> asLoop (runLoop eval { isTested := c.isTested } isUntil test body fuel 0)
  | .each line name words body => do
    atLine line
    let texts ← words.foldlM (fun texts w => return texts ++ (← expandWord (capture eval) w)) []
    some <$> asLoop (runEach eval { isTested := c.isTested } name body 0 texts)
  | .choice line word cases => do
    atLine line
    let text ← expandText (capture eval) word
    some <$> runCases eval c text cases
  | .function _ name body => do
    modify fun s =>
      { s with functions := (name, body) :: s.functions.filter fun f => f.1 != name }
    return some 0

/-- Whether a script may end because a command of this kind fails. -/
def isDecisive : Command → Bool
  | .simple .. => true
  | .pipeline inBackground _ => !inBackground
  | .subshell .. => true
  | _ => false

/-- Runs a command, with commands nested and loops going round so often at most; the status is the
result. -/
def evaluate : Nat → Evaluate
  | 0, _, _ => throw .ended
  | fuel + 1, c, command => do
    let eval := evaluate fuel
    if ← hasOption 'n' then return (← get).status
    else
      runTraps eval
      (← perform eval fuel c command).forM fun status => modify fun s => { s with status }
      runTraps eval
      let status := (← get).status
      if status != 0 && isDecisive command && !c.isTested && (← hasOption 'e') then
        endFailed status
      else return status

/-- More steps than a script ever takes. -/
def stepLimit : Nat := 1 <<< 60

end Run

/-- Runs a shell, and gives how it ended. -/
def run (arguments : List Octets) (s : ToolStart) : ToolRun × Ending :=
  let world : World := { tree := s.tree }
  let eval := Run.evaluate Run.stepLimit
  let step : Run Ending := do
    let stop ← tryCatch (Run.runCall eval arguments *> pure none) fun stop => return some stop
    Run.leave eval stop
  let parent := world.lastProcess - 1
  let first := Run.firstSession s.name world [world.lastProcess, parent] Run.givenBindings
  match (step.run.run first : _ × Session) with
  | (result, session) =>
    let tree := { session.world.tree with workingDir := s.tree.workingDir }
    ({ written := session.world.written.reverse, tree }, result.toOption.getD (.exited 2))

end Gridface.Shell
