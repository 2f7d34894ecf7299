import Gridface.Json.Reader
import Gridface.Sheet

/-!
# Reading sheets

A sheet is a JSON record of its cels, and a cel a record of its six fields.
-/

namespace Gridface

/-- The cel that a value describes. -/
def Cel.ofJson? (j : Json) : Option Cel := do
  let [layer, x, y, width, height, values] ←
    j.record? ["layer", "x", "y", "width", "height", "pixels"] | none
  return {
    layer := ← layer.text?
    x := ← x.int? Position.least Position.greatest
    y := ← y.int? Position.least Position.greatest
    width := ← width.nat? 4294967295
    height := ← height.nat? 4294967295
    values := ← values.list? (Json.nat? 255)
  }

/-- The sheet that a value describes. -/
def Sheet.ofJson? (j : Json) : Option Sheet := do
  let [cels] ← j.record? ["cels"] | none
  return { cels := ← cels.list? Cel.ofJson? }

/-- The sheet that a text describes; `path` is where the text is from. -/
def Sheet.ofText (path text : String) : Except Fault Sheet :=
  match (Json.ofText? text).bind Sheet.ofJson? with
  | some sheet => .ok sheet
  | none => .error (.unparsable path)

end Gridface
