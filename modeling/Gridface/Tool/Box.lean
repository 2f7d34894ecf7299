import Gridface.FileTree.Host
import Gridface.Shell.Evaluation

/-!
# The tool box

The commands that there are over a file tree, by which a build can be given its surroundings.
-/

namespace Gridface.Tool

open Text

/-- Why a program that is no tool cannot be started. -/
def startProblem (tree : FileTree) (program : String) : FileProblem :=
  if program = "." ∨ program = ".." then .permissionDenied
  else if program.toList.contains '/' then pathProblem tree program
  else if FileTree.longestName < program.utf8ByteSize then .nameTooLong
  else .notFound

/-- The completion of a command that has been run. -/
def ToolRun.completion (run : ToolRun) (ending : Ending) : Completion :=
  .ended (run.content .output).knownBytes (run.content .complaints).knownBytes ending

/-- The name of the tool that a program is: the one at a path, or the one with a name. -/
def nameOf (tree : FileTree) (program : String) : String :=
  if program.toList.contains '/' then (tree.program? program).getD "" else program

/-- Runs a command over a file, with a tool of the box. -/
def runCommand (c : Command) (artifact : String) (tree : FileTree) : Completion × FileTree :=
  let words := c.arguments ++ [artifact]
  let name := nameOf tree c.program
  let start : ToolStart := { name := .ofText c.program, tree }
  let arguments := words.map .ofText
  if (c.program :: words).any fun a => a.toList.contains '\x00' then
    (.notStarted .nulInCommand, tree)
  else if shellNames.contains name then
    let (run, ending) := Shell.run arguments start
    (ToolRun.completion run ending, run.tree)
  else
    match kit.lookup name with
    | some tool =>
      let run := tool arguments start
      (ToolRun.completion run (.exited run.status), run.tree)
    | none => (.notStarted (startProblem tree c.program), tree)

end Gridface.Tool
