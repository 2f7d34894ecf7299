import Gridface.CommandLine
import Gridface.Font.File

/-!
# The program

The command line over the files of the machine. Outside commands cannot be started.
-/

namespace Gridface

/-- The file problem that a failure is. -/
def FileProblem.ofFailure : IO.Error → FileProblem
  | .noFileOrDirectory .. => .notFound
  | .alreadyExists .. => .alreadyExists
  | .inappropriateType _ code _ => if code = 21 then .isADirectory else .notADirectory
  | .invalidArgument _ code _ => if code = 36 then .nameTooLong else .nulInPath
  | _ => .permissionDenied

/-- What an action gives, or the file problem that it fails with. -/
def orProblem {α : Type} (action : IO α) : IO (Except FileProblem α) := do
  try
    return .ok (← action)
  catch failure => return .error (.ofFailure failure)

/-- The machine as the surroundings of a build. -/
def machine : Host IO where
  readText path := do
    let data ← orProblem (IO.FS.readBinFile path)
    return data.bind fun bytes =>
      match Text.ofUtf8? bytes.toList with
      | some text => .ok text
      | none => .error .notText
  createDirs path := orProblem (if path = "" then pure () else IO.FS.createDirAll path)
  writeFont path font := orProblem (IO.FS.writeBinFile path (ByteArray.mk font.toBytes.toArray))
  run _ _ := return .notStarted .permissionDenied

/-- How a notice is announced. -/
def Notice.announcement (n : Notice) : String :=
  let severity :=
    match n.severity with
    | .info => "info"
    | .warning => "warning"
    | .error => "error"
  s!"{severity}: {n.text}"

end Gridface

/-- Does what the arguments ask for; the exit status says how it ended. -/
def main (arguments : List String) : IO UInt32 := do
  let (notices, verdict) ← Gridface.runProgram Gridface.machine arguments
  for notice in notices do
    IO.eprintln notice.announcement
  if verdict = .informed then IO.print verdict.report else IO.eprint verdict.report
  return verdict.status.toUInt32
