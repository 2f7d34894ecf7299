import Gridface.Tool.Cat
import Gridface.Tool.Condition.Counted
import Gridface.Tool.Files
import Gridface.Tool.Printf

/-!
# The tools that there are

The tools by their names, and why a path that leads to none cannot be started.
-/

namespace Gridface.Tool

open Text

/-- The tools, by name. -/
def kit : List (String × Tool) :=
  [("true", withExplanation succeed), ("false", withExplanation refuse),
    ("echo", withExplanation echo), ("cat", cat), ("printf", withExplanation (printf .standalone)),
    ("test", test), ("[", withExplanation bracketedTest), ("touch", touch),
    ("mkdir", makeDirectory), ("rm", remove), ("cp", transfer false), ("mv", transfer true),
    ("sleep", succeed)]

/-- Why a path that leads to no program cannot be started. No other file may be run. -/
def pathProblem (tree : FileTree) (path : String) : FileProblem :=
  match tree.locate path with
  | .ok (.found _ (.file _) true) => .notADirectory
  | .ok (.found ..) => .permissionDenied
  | .ok (.fresh ..) => .notFound
  | .error problem => problem

end Gridface.Tool
