import Gridface.Shell.BuiltIn.Jobs
import Gridface.Shell.Commands

/-!
# Running scripts

How scripts are run line by line, and how sessions of their own begin and end. Commands are run by a
step that is given.
-/

namespace Gridface.Shell

open Text

/-- What is known where a command is run. -/
structure Circumstance where
  /-- Something hangs on the status, so that no failure ends the script. -/
  isTested : Bool := false
  /-- Nothing is left to be done after the command. -/
  isLast : Bool := false

/-- How a command is run; its status is the result. -/
abbrev Evaluate := Circumstance → Command → Run Nat

namespace Run

/-! ## Scripts -/

/-- The lines that have been begun when so many characters of a text have been taken. -/
def begunLines (text : List Char) (count : Nat) : List Char :=
  let taken := text.take count
  if taken.isEmpty || taken.getLast? == some '\n' then taken
  else
    let rest := text.drop count
    let line := rest.takeWhile (· != '\n')
    taken ++ line ++ (rest.drop line.length).take 1

/-- Shows what has been read of a source, up to the place where so many characters are left, if that
is asked for. -/
def showRead (source : Source) (left : Nat) : Run Unit := do
  if ← hasOption 'v' then
    let text := source.rest.drop (source.rest.length - source.left)
    print 2 (String.ofList (begunLines text (source.left - left)))

/-- Runs the commands that a source still has, one line of them after another; `status` is that of
the last. If the source `isShown`, so are the lines that are read, if that is asked for. -/
def runSource (eval : Evaluate) (c : Circumstance) (isShown : Bool) :
    Nat → Nat → Source → Run Nat
  | 0, status, _ => return status
  | fuel + 1, status, source => do
    let s ← get
    let fresh : Source :=
      { source with aliases := s.aliases, documents := [], documentCount := s.documentCount }
    match Read.nextLine.run fresh with
    | .error fault =>
      if isShown then showRead source fault.left
      modify fun s => { s with line := fault.line }
      fail fault.text
    | .ok (line, next) =>
      if isShown then showRead source next.left
      modify fun s =>
        { s with
          documents := next.documents ++ s.documents
          documentCount := next.documentCount
          lastLine := next.line }
      match line with
      | .ended => return status
      | .command none => runSource eval c isShown fuel status next
      | .command (some command) =>
        let isLast := c.isLast && next.pushed matches some .nothing
        let status ← eval { c with isLast } command
        if (← get).skip.isSome then return status else runSource eval c isShown fuel status next

/-- Runs a whole script; afterwards the one that it is a part of is read on. Each line takes a
character, so the length bounds their number. -/
def runWhole (eval : Evaluate) (c : Circumstance) (isShown : Bool) (text : Octets) : Run Nat := do
  let line := (← get).lastLine
  let goBack : Run Unit := modify fun s => { s with lastLine := line }
  let step := runSource eval c isShown (text.length + 2) 0 { rest := text.toList }
  let status ← tryCatch step fun stop => do
    goBack
    throw stop
  goBack
  return status

/-- Runs a script that stands in no file. -/
def runText (eval : Evaluate) (c : Circumstance) (text : Octets) : Run Nat :=
  runWhole eval c false text

/-- Runs a script that is read from a file. -/
def runLines (eval : Evaluate) (c : Circumstance) (text : Octets) : Run Nat :=
  runWhole eval c true text

/-- Notes whether the signals that have been sent to the session have just come. -/
def markSignals (isFresh : Bool) : Run Unit := do
  let self ← process
  let mark (sent : Sent) : Sent := if sent.target = self then { sent with isFresh } else sent
  modify fun s => { s with world := { s.world with signals := s.world.signals.map mark } }

/-- Takes a signal that has been sent to the session from among the others; says whether it was
there. -/
def takeSignal (signal : Nat) : Run Bool := do
  let s ← get
  let self ← process
  let isMeant (sent : Sent) : Bool := sent.target == self && sent.signal == signal
  set { s with world := { s.world with signals := s.world.signals.filter (!isMeant ·) } }
  return s.world.signals.any isMeant

/-- Does what is to be done about the signals that have come, by their numbers. Signals wait while
the rest of a loop or a function is to be skipped. -/
def runTraps (eval : Evaluate) : Run Unit := do
  let s ← get
  let self ← process
  if s.skip.isNone && s.world.signals.any (fun sent => sent.target == self && sent.isFresh) then
    let status := s.trapStatus.getD s.status
    set { s with trapStatus := some status }
    markSignals false
    (List.range Signal.limit).forM fun signal => do
      if (← get).skip.isNone then
        let isSent ← takeSignal signal
        if isSent then
          ((← get).traps.lookup signal).forM fun action => do
            discard (runText eval {} action)
            modify fun s => if s.skip = some .function then s else { s with status }
    if (← get).skip.isSome then markSignals true
    modify fun after => { after with trapStatus := s.trapStatus }

/-! ## Sessions of their own -/

/-- Ends a shell: does what is to be done at its end, and gives how it ends. -/
def leave (eval : Evaluate) (stop : Option Stop) : Run Ending := do
  match stop with
  | some (.killed signal) => return .killed signal
  | stop =>
    let s ← get
    let status := if stop = some .ended then s.exitStatus.getD s.status else s.status
    match s.traps.lookup 0 with
    | none => return .exited (status % 256)
    | some action =>
      set { s with
        traps := s.traps.filter (·.1 != 0)
        exitStatus := none
        trapStatus := some status
        skip := none }
      let stop ← tryCatch (discard (runText eval {} action) *> pure none) fun stop =>
        return some stop
      match stop with
      | some (.killed signal) => return .killed signal
      | some .fault => return .exited ((← get).status % 256)
      | _ => return .exited (((← get).exitStatus.getD status) % 256)

/-- Does something in a session that starts from a given one, and goes on in the one before with
what all commands share. -/
def inSession (eval : Evaluate) (start : Session) (step : Run Unit) : Run Ending := do
  let outer ← get
  set start
  let stop ← tryCatch (step *> pure none) fun stop => return some stop
  let ending ← leave eval stop
  let inner ← get
  let tree := { inner.world.tree with workingDir := outer.world.tree.workingDir }
  let world := { inner.world with tree }.close outer.world.nextChannel outer.streams
  set { outer with world }
  return ending

/-- Starts a process. -/
def startProcess : Run Nat := do
  let s ← get
  let process := s.world.lastProcess + 1
  set { s with world := { s.world with lastProcess := process } }
  return process

/-- Does something in a copy of the session. -/
def apart (eval : Evaluate) (step : Run Unit) : Run Ending := do
  let process ← startProcess
  let s ← get
  let copy : Session :=
    { s with
      lineage := process :: s.lineage
      skip := none
      trapStatus := none
      exitStatus := none
      traps := s.traps.filter (·.2 == "")
      jobs := [] }
  inSession eval copy step

/-- Waits for a command of its own; the status is that by how it ended, and what killed it is said.
Then all commands that were not waited for have been seen to end. -/
def awaited (ending : Ending) : Run Nat := do
  discard takeSlot
  endJobs
  noteEnded
  describeEnding ending

/-- Whether something is to be done when a signal comes. -/
def hasTraps : Run Bool := return (← get).traps.any (·.2 != "")

/-- Octets without the line ends that they end with. -/
def withoutLineEnds (cs : List Char) : List Char := (cs.reverse.dropWhile (· == '\n')).reverse

/-- What a command in a word writes. -/
def capture (eval : Evaluate) (body : Option Command) : Run Octets := do
  let id ← addChannel (.buffer [] false)
  let ending ← apart eval do
    connect 1 (some id)
    body.forM fun c => discard (eval { isLast := true } c)
  fillBuffer id
  let content := ((← get).world.unread? id).getD []
  let status ← awaited ending
  modify fun s => { s with wordStatus := status }
  let octets := (Octets.ofBytes content.knownBytes).toList.filter (· != '\x00')
  return String.ofList (withoutLineEnds octets)

end Run

end Gridface.Shell
