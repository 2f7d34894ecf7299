import Gridface.FileProblem
import Gridface.Notice
import Gridface.Text.Utf8

/-!
# Commands

An outside command that is run over a font, and what is reported of it.
-/

namespace Gridface

/-- An outside command; the path of the font is its last argument. -/
structure Command where
  program : String
  arguments : List String := []
  deriving DecidableEq, Repr

/-- How a command ended. -/
inductive Ending
  | exited (status : Nat)
  | killed (signal : Nat)
  deriving DecidableEq, Repr

namespace Ending

/-- The names of the signals from 1 on. -/
def signalNames : List String :=
  ["SIGHUP", "SIGINT", "SIGQUIT", "SIGILL", "SIGTRAP", "SIGABRT", "SIGBUS", "SIGFPE", "SIGKILL",
    "SIGUSR1", "SIGSEGV", "SIGUSR2", "SIGPIPE", "SIGALRM", "SIGTERM", "SIGSTKFLT", "SIGCHLD",
    "SIGCONT", "SIGSTOP", "SIGTSTP", "SIGTTIN", "SIGTTOU", "SIGURG", "SIGXCPU", "SIGXFSZ",
    "SIGVTALRM", "SIGPROF", "SIGWINCH", "SIGIO", "SIGPWR", "SIGSYS"]

/-- The name of a signal, if it has one. -/
def signalName? (signal : Nat) : Option String :=
  match signal with
  | 0 => none
  | n + 1 => signalNames[n]?

/-- The sentence that describes the ending. -/
def text : Ending → String
  | exited status => s!"exit status: {status}"
  | killed signal =>
    match signalName? signal with
    | some name => s!"signal: {signal} ({name})"
    | none => s!"signal: {signal}"

end Ending

/-- What became of a command. -/
inductive Completion
  | notStarted (problem : FileProblem)
  | ended (output complaints : List UInt8) (ending : Ending)
  deriving DecidableEq, Repr

/-- Why a command did not do its work. -/
inductive CommandFault
  | notStarted (program : String) (problem : FileProblem)
  | failed (program artifact : String) (ending : Ending)
  deriving DecidableEq, Repr

/-- The sentence that reports the fault. -/
def CommandFault.message : CommandFault → String
  | notStarted program problem => s!"failed to run '{program}': {problem.message}"
  | failed program artifact ending =>
    s!"'{program}' exited with {ending.text} while processing '{artifact}'"

/-! ## What a command wrote -/

/-- A line without the carriage return before its end. -/
def withoutReturn (line : List Char) : List Char :=
  if line.getLast? == some '\x0d' then line.dropLast else line

/-- The lines of a text, given the line that has been begun, last character first. A line ends with
a line feed, perhaps after a carriage return; the last line need not end. -/
def linesFrom (begun : List Char) : List Char → List (List Char)
  | [] => if begun.isEmpty then [] else [begun.reverse]
  | '\n' :: cs => withoutReturn begun.reverse :: linesFrom [] cs
  | c :: cs => linesFrom (c :: begun) cs

/-- The lines that some bytes are, as text. -/
def linesOf (data : List UInt8) : List String :=
  (linesFrom [] (Text.ofUtf8Lossy data).toList).map String.ofList

namespace Completion

/-- What is reported of the command, and whether it did its work. -/
def review (c : Command) (artifact : String) : Completion → List Notice × Except CommandFault Unit
  | notStarted problem =>
    ([.runningCommand artifact c.program], .error (.notStarted c.program problem))
  | ended output complaints ending =>
    (.runningCommand artifact c.program ::
      ((linesOf output).map (.commandOutput c.program) ++
        (linesOf complaints).map (.commandComplaint c.program)),
      if ending = .exited 0 then .ok () else .error (.failed c.program artifact ending))

end Completion

end Gridface
