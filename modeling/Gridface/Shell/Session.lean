import Gridface.Command
import Gridface.Shell.Source
import Gridface.Shell.Streams

/-!
# Sessions

What a shell knows while it runs a script: its parameters and functions, the streams that are open,
and how far what it does is to be skipped.
-/

namespace Gridface.Shell

open Text

/-- A parameter that has a name. -/
structure Variable where
  value : Option Octets := none
  /-- Commands are given the parameter. -/
  isExported : Bool := false
  /-- The value may not change. -/
  isFixed : Bool := false
  deriving Inhabited

/-- What is skipped of what is still to be done. -/
inductive Skip
  /-- The rest of so many loops; the last of them goes on with its next round if `goesOn`. -/
  | loops (count : Nat) (goesOn : Bool)
  /-- The rest of a function. -/
  | function
  deriving DecidableEq, Repr

/-- A command that was not waited for. It ends as soon as it is started, which comes to light later.
-/
structure Job where
  /-- The number by which the shell knows the command. -/
  slot : Nat
  /-- The number of the last process. -/
  process : Nat
  /-- How many processes there are. -/
  size : Nat
  ending : Ending
  /-- The shell has seen that the command has ended. -/
  isOver : Bool := false
  /-- The command has been waited for. -/
  isAwaited : Bool := false

/-- A program that has been looked up. -/
structure Tracked where
  name : Octets
  path : Octets
  /-- The path may lead elsewhere by now, so that the program is looked up again. -/
  isStale : Bool := false

/-- What a shell knows. -/
structure Session where
  world : World
  /-- What the script calls itself, and what its complaints begin with. -/
  name : Octets
  parameters : List Octets
  bindings : List (Octets × Variable)
  /-- For each function that is running, and each command that has parameters of its own, the
  parameters as they are to be afterwards. -/
  frames : List (List (Octets × Option Variable)) := []
  functions : List (Octets × Command) := []
  aliases : List (Octets × Octets) := []
  /-- The letters of options that are set. -/
  options : List Char := []
  /-- The status of the last command. -/
  status : Nat := 0
  /-- The status of the last command in a word. -/
  wordStatus : Nat := 0
  skip : Option Skip := none
  loopDepth : Nat := 0
  functionDepth : Nat := 0
  /-- The line of the command that is being run. -/
  line : Nat := 0
  /-- The line up to which the script has been read. -/
  lastLine : Nat := 0
  /-- The command that complaints are about. -/
  commandName : Option Octets := none
  /-- What is done when a signal comes; the number zero stands for the end. -/
  traps : List (Nat × Octets) := []
  /-- The status from before a trap that is being run. -/
  trapStatus : Option Nat := none
  /-- The status that the shell is to end with, if that has been said. -/
  exitStatus : Option Nat := none
  /-- The programs that have been looked up, those that were looked up last at the end. -/
  tracked : List Tracked := []
  /-- Permissions that new files do not get, as bits. -/
  mask : Nat := 0o22
  /-- The limits that have been set, by their letters, the last one first: the one that holds, and
  the greatest that may be set. -/
  limits : List (Char × Option Nat × Option Nat) := []
  /-- The path of the working directory, as it was reached. -/
  directory : Octets
  /-- The channels that streams lead to. -/
  streams : List (Nat × Nat) := [(0, 0), (1, 1), (2, 2)]
  /-- The documents of the script, by their numbers. -/
  documents : List (Nat × Word) := []
  documentCount : Nat := 0
  /-- The process of the session, those that have started it, and so on. -/
  lineage : List Nat
  /-- The number by which the script knows itself. -/
  script : Nat
  /-- The commands that were not waited for, the last one first. -/
  jobs : List Job := []
  /-- The process of the last of such commands, whether it is still known or not. -/
  lastJob : Option Nat := none
  /-- The mark before commands that are shown is being worked out. -/
  isMarking : Bool := false
  /-- How many parameters have been looked through for options, unless the last search was broken
  off. -/
  optionIndex : Option Nat := some 0
  /-- How many letters of the last of them have been looked at. -/
  optionOffset : Nat := 0

/-- Why what a shell does comes to a stop. -/
inductive Stop
  /-- The shell ends. -/
  | ended
  /-- Something cannot be done. -/
  | fault
  /-- The shell is killed by a signal. -/
  | killed (signal : Nat)
  deriving DecidableEq, Repr

/-- Something that a shell does. -/
abbrev Run := ExceptT Stop (StateM Session)

namespace Run

/-! ## Streams -/

/-- The process of the session. -/
def process : Run Nat := return (← get).lineage.headD 0

/-- Writes to a stream; the result is what is in the way of it, if anything is. -/
def write (stream : Nat) (content : Content) : Run (Option WriteFault) := do
  let s ← get
  if content.isEmpty then return none
  else
    match s.streams.lookup stream with
    | none => return some .closed
    | some id =>
      match s.world.write id content with
      | .ok world =>
        set { s with world }
        return none
      | .error fault => return some fault

/-- Writes octets to a stream. -/
def print (stream : Nat) (text : Octets) : Run Unit := discard (write stream (.ofOctets text))

/-- Complains, with the name of the script and the line, and the command that is at fault. -/
def complain (text : Octets) : Run Unit := do
  let s ← get
  let command := (s.commandName.map fun name => s!"{name}: ").getD ""
  print 2 s!"{s.name}: {s.line}: {command}{text}\n"

/-- Stops with a complaint. -/
def fail {α : Type} (text : Octets) : Run α := do
  complain text
  modify fun s => { s with status := 2 }
  throw .fault

/-- What there is to read on a stream. -/
def unread (stream : Nat) : Run (Option Content) := do
  let s ← get
  return (s.streams.lookup stream).bind s.world.unread?

/-- Passes over what has been read on a stream. -/
def skipInput (stream count : Nat) : Run Unit :=
  modify fun s =>
    match s.streams.lookup stream with
    | some id => { s with world := s.world.skip id count }
    | none => s

/-- Lets a stream lead to a channel, or nowhere. -/
def connect (stream : Nat) (channel : Option Nat) : Run Unit :=
  modify fun s =>
    let others := s.streams.filter fun entry => entry.1 != stream
    { s with streams := (channel.map fun id => (stream, id)).toList ++ others }

/-- Adds a channel. -/
def addChannel (c : Channel) : Run Nat := do
  let s ← get
  let (world, id) := s.world.add c
  set { s with world }
  return id

/-- Notes that all has been written to a buffer. -/
def fillBuffer (id : Nat) : Run Unit := modify fun s => { s with world := s.world.fill id }

/-- Does something, and lets the given streams lead where they led before; channels to which nothing
leads any more are closed. -/
def keepingStreams {α : Type} (which : List Nat) (step : Run α) : Run α := do
  let before ← get
  let restore : Run Unit := modify fun s =>
    let kept := before.streams.filter fun entry => which.contains entry.1
    let streams := kept ++ s.streams.filter fun entry => !which.contains entry.1
    { s with streams, world := s.world.close before.world.nextChannel streams }
  let result ← tryCatch step fun stop => do
    restore
    throw stop
  restore
  return result

/-! ## Numbers -/

/-- Complains that a word is no number. -/
def failNumber {α : Type} (word : Octets) : Run α := fail s!"Illegal number: {word}"

/-- The number that octets are, with a sign and blanks allowed, if they are one. -/
def number? (word : Octets) : Option Int :=
  let cs := word.toList.dropWhile Octets.isBlank
  let (isNegative, cs) :=
    match cs with
    | '-' :: cs => (true, cs)
    | '+' :: cs => (false, cs)
    | cs => (false, cs)
  let digits := cs.takeWhile Char.isDigit
  if digits.isEmpty || !(cs.drop digits.length).all Octets.isBlank then none
  else
    let n : Int := (Octets.readDigits 10 digits.length 0 digits).1
    some (if isNegative then -n else n)

/-- The greatest number that commands are given. -/
def greatestNumber : Int := 2147483647

/-- The number that a word is. -/
def number (word : Octets) : Run Nat := do
  match number? word with
  | some n => if 0 ≤ n ∧ n ≤ greatestNumber then return n.toNat else failNumber word
  | none => failNumber word

/-! ## Parameters with names -/

/-- The parameter with a name. -/
def variableNamed (name : Octets) : Run Variable :=
  return ((← get).bindings.lookup name).getD {}

/-- Replaces the parameter with a name, or removes it. -/
def putVariable (name : Octets) (v : Option Variable) : Run Unit :=
  modify fun s =>
    let others := s.bindings.filter fun entry => entry.1 != name
    { s with bindings := (v.map fun v => (name, v)).toList ++ others }

/-- Complains that a parameter is fixed. -/
def failFixed {α : Type} (name : Octets) : Run α := fail s!"{name}: is read only"

/-- Does what a parameter asks for before it takes a value; one that is taken away is empty. Options
are looked for anew from the argument that `OPTIND` names, and programs where `PATH` says. -/
def prepare (name value : Octets) : Run Unit := do
  if name = "OPTIND" then
    let n ← number value
    modify fun s => { s with optionIndex := some (n - 1), optionOffset := 0 }
  if name = "PATH" then modify fun s => { s with tracked := [] }

/-- Gives a parameter a value, and does nothing else. -/
def note (name value : Octets) : Run Unit := do
  let v ← variableNamed name
  if v.isFixed then failFixed name
  else
    let isExported := v.isExported || (← get).options.contains 'a'
    putVariable name (some { v with value := some value, isExported })

/-- Gives a parameter a value. -/
def assign (name value : Octets) : Run Unit := do
  if !(← variableNamed name).isFixed then prepare name value
  note name value

/-- Takes a parameter away. -/
def dropVariable (name : Octets) : Run Unit := do
  if (← variableNamed name).isFixed then failFixed name
  else
    prepare name ""
    putVariable name none

/-- Notes a parameter, which is then as before when the innermost frame ends. -/
def keepVariable (name : Octets) : Run Unit :=
  modify fun s =>
    match s.frames with
    | frame :: frames =>
      if frame.any (·.1 == name) then s
      else { s with frames := ((name, s.bindings.lookup name) :: frame) :: frames }
    | [] => s

/-- The name under which frames hold the options. -/
def optionsName : Octets := "-"

/-- Notes the options, which are then as before when the innermost frame ends. -/
def keepOptions : Run Unit :=
  modify fun s =>
    match s.frames with
    | frame :: frames =>
      let kept : Variable := { value := some (String.ofList s.options) }
      { s with frames := ((optionsName, some kept) :: frame) :: frames }
    | [] => s

/-- Puts back what a frame holds. What has no name cannot be taken away. -/
def restoreFrom (entry : Octets × Option Variable) : Run Unit := do
  if entry.1 = optionsName then
    modify fun s => { s with options := ((entry.2.bind Variable.value).getD "").toList }
  else if entry.2.isNone && !isName entry.1.toList then fail s!"{entry.1}: bad variable name"
  else
    prepare entry.1 ((entry.2.bind Variable.value).getD "")
    putVariable entry.1 entry.2

/-- Does something in a frame of its own. -/
def inFrame {α : Type} (step : Run α) : Run α := do
  modify fun s => { s with frames := [] :: s.frames }
  let restore : Run Unit := do
    match (← get).frames with
    | frame :: frames =>
      modify fun s => { s with frames }
      frame.forM restoreFrom
    | [] => return
  let result ← tryCatch step fun stop => do
    restore
    throw stop
  restore
  return result

/-- Whether an option is set. -/
def hasOption (letter : Char) : Run Bool := return (← get).options.contains letter

end Run

end Gridface.Shell
