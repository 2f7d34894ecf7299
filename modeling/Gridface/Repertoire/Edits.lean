import Gridface.Cartouche.Synthesis
import Gridface.Repertoire.Merge

/-!
# Editing a repertoire

What is done to a repertoire, one edit after the other. An edit that fails leaves the repertoire as
it was.
-/

namespace Gridface

/-- What can be done to a repertoire. -/
inductive Edit
  /-- Merge layers into it. -/
  | merge (options : MergeOptions) (layers : List Layer)
  /-- Merge the layers of a sheet into it. -/
  | mergeSheet (options : MergeOptions) (sheet : Sheet)
  /-- File a glyph under its key. -/
  | insert (g : Glyph)
  /-- Change the glyph with the given key, but not its key. -/
  | update (key : String) (f : Glyph → Glyph)
  /-- Add the cartouche forms. -/
  | synthesize (style : CartoucheStyle)

namespace Repertoire

/-- What becomes of the repertoire by an edit. -/
def edit (r : Repertoire) : Edit → Report Repertoire
  | .merge o layers => return r.merge o layers
  | .mergeSheet o sheet => return r.merge o (← sheet.layers)
  | .insert g => return r.insert g
  | .update key f => return r.change key f
  | .synthesize style => r.synthesize style

/-- The repertoire to go on with after an edit. -/
def edited (r : Repertoire) (e : Edit) : Repertoire := (r.edit e).outcome.toOption.getD r

/-- The repertoire that edits begin with: that of the annotations, if there are any. -/
def start : Option Annotations → Except Fault Repertoire
  | none => .ok empty
  | some a => ofAnnotations a

end Repertoire

end Gridface
