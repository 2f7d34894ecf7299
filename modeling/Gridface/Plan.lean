import Gridface.Command
import Gridface.Font.Naming
import Gridface.Path
import Gridface.Repertoire.Merge
import Gridface.Roster

/-!
# Plans

What to build and where to put it.
-/

namespace Gridface

/-- A sheet and how its layers are merged. -/
structure SheetSource where
  path : String
  options : MergeOptions
  deriving DecidableEq, Repr

/-- What to build and where to put it. -/
structure Plan where
  naming : Naming
  /-- Where the annotations are. -/
  annotations : Option String := none
  /-- The directory that the font is written to. -/
  outputDir : String := "dist"
  metrics : Metrics := {}
  /-- The sheets, in the order of merging. -/
  sheets : List SheetSource := []
  style : CartoucheStyle := {}
  policy : UnknownKeyPolicy := .warn
  /-- The command that is run over the font. -/
  command : Option Command := none
  deriving DecidableEq, Repr

namespace Plan

/-- The plan with its paths as seen from `base`. -/
def resolved (base : String) (p : Plan) : Plan :=
  { p with
    annotations := p.annotations.map (Path.join base)
    outputDir := Path.join base p.outputDir
    sheets := p.sheets.map fun s => { s with path := Path.join base s.path } }

/-- The name of the font's file. -/
def fileName (p : Plan) : String := p.naming.family ++ ".ttf"

/-- The path that the font is written to. -/
def artifactPath (p : Plan) : String := Path.join p.outputDir p.fileName

/-- How the roster of the font is made. -/
def rosterOptions (p : Plan) : RosterOptions where
  metrics := p.metrics
  policy := p.policy
  style := p.style

end Plan

end Gridface
