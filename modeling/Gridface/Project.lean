import Gridface.Annotations.Reader
import Gridface.Cartouche.Synthesis
import Gridface.FileTree
import Gridface.Font.Assembly
import Gridface.Plan.Reader
import Gridface.Sheet.Reader

/-!
# Projects

A project is a plan with the inputs it names. Its font is compiled once; it is written only after it
has been compiled, and an outside command is run only after it has been written.
-/

namespace Gridface

/-- What a build asks of its surroundings. -/
structure Host (m : Type → Type) where
  /-- The text of the file at a path. -/
  readText : String → m (Except FileProblem String)
  /-- Creates the directory at a path and those on the way to it. -/
  createDirs : String → m (Except FileProblem Unit)
  /-- Writes a font to the file at a path. -/
  writeFont : String → Font → m (Except FileProblem Unit)
  /-- Runs a command over the file at a path. -/
  run : Command → String → m Completion

/-- The result of a file operation at a path, with the path to blame. -/
def atPath {α : Type} (path : String) : Except FileProblem α → Except Fault α
  | .ok a => .ok a
  | .error problem => .error (.file path problem)

/-- A font with the roster it was made from. -/
structure Compiled where
  roster : Roster Float
  font : Font

/-- A plan, the inputs it names, and the font if it has been compiled. -/
structure Project where
  plan : Plan
  annotations : Annotations
  sheets : List (Sheet × MergeOptions)
  compiled : Option Compiled := none

namespace Plan

variable {m : Type → Type} [Monad m] (host : Host m)

/-- The plan at a path. -/
def load (path : String) : m (Except Fault Plan) := do
  let text ← host.readText path
  return atPath path text >>= Plan.ofText path

/-- The annotations that the plan names. -/
def loadAnnotations (p : Plan) : m (Except Fault Annotations) := do
  match p.annotations with
  | none => return .ok .empty
  | some path =>
    let text ← host.readText path
    return atPath path text >>= Annotations.ofText path

/-- The sheets from the given sources, in order. -/
def loadSheets : List SheetSource → m (Except Fault (List (Sheet × MergeOptions)))
  | [] => return .ok []
  | source :: sources => do
    let text ← host.readText source.path
    match atPath source.path text >>= Sheet.ofText source.path with
    | .error e => return .error e
    | .ok sheet =>
      let rest ← loadSheets sources
      return rest.map fun sheets => (sheet, source.options) :: sheets

end Plan

namespace Project

/-! ## Compiling -/

/-- The annotated glyphs, with the layers of the sheets merged. -/
def drawn (p : Project) : Except Fault Repertoire := do
  let r ← Repertoire.ofAnnotations p.annotations
  p.sheets.foldlM (fun r s => return r.merge s.2 (← s.1.layers)) r

/-- The glyphs of the font, with the cartouche forms. -/
def repertoire (p : Project) : Report Repertoire := do
  let r ← p.drawn
  r.synthesize p.plan.style

/-- The roster of the font. -/
def roster (p : Project) : Report (Roster Float) := do
  let r ← p.repertoire
  p.plan.rosterOptions.compile r

/-- The font, compiled from the inputs. -/
def compileAfresh (p : Project) (library : FontLibrary := .standard) : Report Compiled := do
  let roster ← p.roster
  if !roster.unresolved.isEmpty then Report.note (.unknownReferences roster.unresolved.length)
  let font ← roster.assemble p.plan.naming library
  return { roster, font }

/-- The font, and the project that remembers it. -/
def compile (p : Project) (library : FontLibrary := .standard) : Report Compiled × Project :=
  match p.compiled with
  | some c => (pure c, p)
  | none =>
    let report := p.compileAfresh library
    (report, { p with compiled := report.outcome.toOption })

/-! ## Building -/

variable {m : Type → Type} [Monad m] (host : Host m)

/-- The project of a plan. Faults in the annotations are reported before those in sheets. -/
def ofPlan (plan : Plan) : m (Except Fault Project) := do
  let annotations ← plan.loadAnnotations host
  let sheets ← Plan.loadSheets host plan.sheets
  return do
    let annotations ← annotations
    let sheets ← sheets
    return { plan, annotations, sheets }

/-- Writes a font to its place; the outcome is the path. -/
def writeFont (p : Project) (font : Font) : m (Except Fault String) := do
  let path := p.plan.artifactPath
  match ← host.createDirs p.plan.outputDir with
  | .error problem => return .error (.file p.plan.outputDir problem)
  | .ok () =>
    let written ← host.writeFont path font
    return (atPath path written).map fun () => path

/-- Compiles the font and writes it. -/
def save (p : Project) (library : FontLibrary := .standard) : m (Report String × Project) := do
  let (report, p) := p.compile library
  match report.outcome with
  | .error e => return (⟨report.notices, .error e⟩, p)
  | .ok c =>
    let outcome ← p.writeFont host c.font
    return (⟨report.notices, outcome⟩, p)

/-- Runs the plan's command over the font at a path, if there is one. A command that fails is no
fault of the build. -/
def postprocess (p : Project) (path : String) : m (List Notice) := do
  match p.plan.command with
  | none => return []
  | some command =>
    let completion ← host.run command path
    let (notices, result) := completion.review command path
    match result with
    | .ok () => return notices
    | .error e => return notices ++ [.commandFailed e.message]

/-- Saves the font, and then runs the plan's command over it if `postprocess` is set. -/
def build (p : Project) (postprocess : Bool) (library : FontLibrary := .standard) :
    m (Report String × Project) := do
  let (report, p) ← p.save host library
  match report.outcome with
  | .error _ => return (report, p)
  | .ok path =>
    let notices ← if postprocess then p.postprocess host path else pure []
    return (⟨report.notices ++ notices, .ok path⟩, p)

end Project

end Gridface
