import Gridface.Shell.BuiltIn.Jobs

/-!
# Commands for control

The built-in commands that end what is being done, and those that send signals or say what is done
when they come.
-/

namespace Gridface.Shell

open Text

namespace Run

/-- Does nothing, with a status. -/
def settled (status : Nat) : BuiltIn := fun _ => return status

/-! ## Endings -/

/-- Ends the shell. -/
def endShell : BuiltIn := fun arguments => do
  let status ←
    match arguments with
    | word :: _ => number word
    | [] => pure ((← get).trapStatus.getD (← get).status)
  modify fun s => { s with status, exitStatus := some status }
  throw .ended

/-- Ends the function. -/
def leaveFunction : BuiltIn := fun arguments => do
  let status ←
    match arguments with
    | word :: _ => number word
    | [] => pure (← get).status
  modify fun s => { s with skip := some .function }
  return status

/-- Ends so many loops, or goes on with the next round of the last of them. -/
def leaveLoops (goesOn : Bool) : BuiltIn := fun arguments => do
  let count ← (arguments.head?.map number).getD (pure 1)
  if count = 0 then failNumber (arguments.headD "")
  else
    let count := min count (← get).loopDepth
    if 0 < count then modify fun s => { s with skip := some (.loops count goesOn) }
    return 0

/-! ## Signals -/

/-- The usage of the command that sends signals. -/
def killUsage : Octets :=
  "Usage: kill [-s sigspec | -signum | -sigspec] [pid | job]... or\nkill -l [exitstatus]"

/-- Sends a signal to a process. One that has ended can be sent signals until that comes to light.
No job is a group of processes. -/
def sendTo (signal : Nat) (target : Octets) : Run Nat := do
  let missing : Run Nat := do
    complain "No such process\n"
    return 1
  match target.toList with
  | '%' :: _ => do
    discard (jobNamed target)
    missing
  | '-' :: digits => do
    discard (number (String.ofList digits))
    missing
  | _ => do
    let process ← number target
    let s ← get
    if s.lineage.contains process then
      sendSignal process signal
      return 0
    else if s.jobs.any fun j => j.process == process && !j.isOver then return 0
    else if process ≤ 1 && signal = 0 then return 0
    else missing

/-- Shows the names of signals. -/
def listSignals : List Octets → Run Nat
  | [] =>
    let names := (List.range (Signal.limit - 1)).map fun n => Signal.name (n + 1)
    say ("0\n" ++ String.join (names.map fun name => s!"{name}\n"))
  | word :: _ => do
    let n ← number word
    let signal := if 128 < n then n - 128 else n
    if 0 < signal && signal < Signal.limit then say s!"{Signal.name signal}\n"
    else fail s!"invalid signal number or exit status: {word}"

/-- The signal that options ask for, and whether the names of signals are to be shown. -/
def signalOptions (options : List (Char × Octets)) : Run (Option Nat × Bool) := do
  let mut signal := none
  for (letter, value) in options do
    if letter = 's' then
      match Signal.ofWord? 0 value with
      | some n => signal := some n
      | none => fail s!"invalid signal number or name: {value}"
  return (signal, options.any (·.1 == 'l'))

/-- Sends signals. -/
def sendSignals : BuiltIn := fun arguments => do
  match arguments with
  | [] => fail killUsage
  | first :: rest =>
    let isOption := first.toList.head? == some '-'
    let direct := if isOption then Signal.ofWord? 0 (String.ofList (first.toList.drop 1)) else none
    let (signal, isList, targets) ←
      match direct with
      | some n => pure (some n, false, rest)
      | none =>
        if isOption then
          let (options, targets) ← readOptions "l" "s" arguments
          let (signal, isList) ← signalOptions options
          pure (signal, isList, targets)
        else pure (none, false, arguments)
    if isList then if signal.isSome then fail killUsage else listSignals targets
    else if targets.isEmpty then fail killUsage
    else
      targets.foldlM (fun status target => return max status (← sendTo (signal.getD 15) target)) 0

/-- Shows what is done when signals come. -/
def showTraps : Run Nat := do
  let traps := (← get).traps.mergeSort fun a b => a.1 ≤ b.1
  let line (signal : Nat) (action : Octets) := s!"trap -- {quoted action} {Signal.name signal}\n"
  say (String.join (traps.map fun (signal, action) => line signal action))

/-- Says what is to be done when signals come. -/
def setTraps (action : Option Octets) : List Octets → Run Nat
  | [] => return 0
  | word :: words => do
    match Signal.ofWord? 0 word with
    | none =>
      print 2 s!"trap: {word}: bad trap\n"
      return 1
    | some signal =>
      let action := action.filter (· != "-")
      modify fun s =>
        let others := s.traps.filter fun trap => trap.1 != signal
        { s with traps := (action.map fun action => (signal, action)).toList ++ others }
      setTraps action words

/-- Says what is to be done when signals come, or shows it. -/
def setOrShowTraps : BuiltIn := fun arguments => do
  match ← withoutOptions arguments with
  | [] => showTraps
  | [word] => setTraps none [word]
  | first :: rest =>
    let isNumber := first.toList.all Char.isDigit && (Signal.ofWord? 0 first).isSome
    if isNumber then setTraps none (first :: rest) else setTraps (some first) rest

/-- The commands of this kind, by name. -/
def controls : List (String × BuiltIn) :=
  [(":", settled 0), ("true", settled 0), ("false", settled 1), ("exit", endShell),
    ("return", leaveFunction), ("break", leaveLoops false), ("continue", leaveLoops true),
    ("kill", sendSignals), ("trap", setOrShowTraps), ("wait", awaitJobs), ("jobs", showJobs),
    ("fg", moveJob), ("bg", moveJob)]

end Run

end Gridface.Shell
