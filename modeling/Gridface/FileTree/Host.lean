import Gridface.Project

/-!
# File trees as surroundings

A build over a file tree reads and writes in it; outside commands take a tree to a tree.
-/

namespace Gridface.FileTree

/-- An operation that gives the tree after it, as a step over a tree. -/
def change (operation : FileTree → Except FileProblem FileTree) :
    StateM FileTree (Except FileProblem Unit) := fun t =>
  match operation t with
  | .ok t => (.ok (), t)
  | .error problem => (.error problem, t)

/-- A file tree as the surroundings of a build, with `run` for outside commands. -/
def host (run : Command → String → FileTree → Completion × FileTree) : Host (StateM FileTree) where
  readText path t := (t.readText path, t)
  createDirs path t := t.createDirs path
  writeFont path font := change (·.write path (Content.ofFont font))
  run command artifact t := run command artifact t

end Gridface.FileTree
