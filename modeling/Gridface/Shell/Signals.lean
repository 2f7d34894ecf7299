import Gridface.Command
import Gridface.Shell.Session

/-!
# Signals

The names of signals, and what becomes of a script that is sent one.
-/

namespace Gridface.Shell

open Text

namespace Signal

/-- The number after that of the last signal. -/
def limit : Nat := 65

/-- The first and the last of the signals that have numbers of their own only. -/
def ofOwnNumber : Nat × Nat := (34, 64)

/-- The name of a signal, or its number if it has none; zero stands for the end of the script. -/
def name (signal : Nat) : Octets :=
  let (first, last) := ofOwnNumber
  if signal = 0 then "EXIT"
  else if signal = 16 then "16"
  else
    match Ending.signalName? signal with
    | some name => (name.drop 3).toString
    | none =>
      if signal < first then toString signal
      else if signal = first then "RTMIN"
      else if signal = last then "RTMAX"
      else if signal ≤ (first + last) / 2 then s!"RTMIN+{signal - first}"
      else s!"RTMAX-{last - signal}"

/-- The signal that a word names, which is at least `least`. -/
def ofWord? (least : Nat) (word : Octets) : Option Nat :=
  if !word.toList.isEmpty && word.toList.all Char.isDigit then
    (word.toNat?).filter fun n => least ≤ n && n < limit
  else
    let upper := String.ofList (word.toList.map Char.toUpper)
    (List.range limit).find? fun n => least ≤ n && name n == upper

/-- Signals that do nothing unless something is to be done. -/
def ignored : List Nat := [17, 18, 19, 20, 21, 22, 23, 28]

/-- The signal that nothing can be done about. -/
def kill : Nat := 9

/-- The signal that is sent when a process ends that the session has started. -/
def ended : Nat := 17

/-- The descriptions of signals. -/
def descriptions : List (Nat × String) :=
  [(1, "Hangup"), (2, "Interrupt"), (3, "Quit"), (4, "Illegal instruction"),
    (5, "Trace/breakpoint trap"), (6, "Aborted"), (7, "Bus error"), (8, "Floating point exception"),
    (9, "Killed"), (10, "User defined signal 1"), (11, "Segmentation fault"),
    (12, "User defined signal 2"), (13, "Broken pipe"), (14, "Alarm clock"), (15, "Terminated"),
    (16, "Stack fault"), (24, "CPU time limit exceeded"), (25, "File size limit exceeded"),
    (26, "Virtual timer expired"), (27, "Profiling timer expired"), (29, "I/O possible"),
    (30, "Power failure"), (31, "Bad system call")]

/-- The description of a signal. -/
def description (signal : Nat) : String :=
  (descriptions.lookup signal).getD <|
    if ofOwnNumber.1 ≤ signal then s!"Real-time signal {signal - ofOwnNumber.1}"
    else s!"Unknown signal {signal}"

/-- Signals of which nothing is said when they have killed a command. -/
def silent : List Nat := [2, 13]

end Signal

namespace Run

/-- Lets the signals that have been sent to the session do what they do at once. Those for which
something is to be done wait. -/
def receiveSignals : Run Unit := do
  let s ← get
  let self ← process
  let isDeadly (n : Nat) : Bool :=
    n = Signal.kill || ((s.traps.lookup n).isNone && !Signal.ignored.contains n)
  match s.world.signals.find? fun sent => sent.target == self && isDeadly sent.signal with
  | some sent => throw (.killed sent.signal)
  | none =>
    let waiting := s.world.signals.filter fun sent =>
      sent.target != self || (s.traps.lookup sent.signal).any (· != "")
    set { s with world := { s.world with signals := waiting } }

/-- Sends a signal to a process. -/
def sendSignal (target signal : Nat) : Run Unit := do
  if signal != 0 then
    modify fun s =>
      { s with world := { s.world with signals := s.world.signals ++ [{ target, signal }] } }
    receiveSignals

/-- Notes that a process has ended that the session has started. -/
def noteEnded : Run Unit := do sendSignal (← process) Signal.ended

/-- The status that a command of its own has by how it ended. -/
def statusOf : Ending → Nat
  | .exited status => status
  | .killed signal => 128 + signal

/-- The status that a command of its own has by how it ended; what killed it is said. -/
def describeEnding (ending : Ending) : Run Nat := do
  match ending with
  | .killed signal =>
    if !Signal.silent.contains signal then print 2 s!"{Signal.description signal}\n"
  | .exited _ => pure ()
  return statusOf ending

end Run

end Gridface.Shell
