import Gridface.Bitmap
import Gridface.Position

/-!
# Sheets

A sheet lists the cels of one drawing. Every cel that is not scratch becomes a named layer.
-/

namespace Gridface

/-- The pixels that one layer of a drawing contributes, with their place on the canvas. -/
structure Cel where
  layer : String
  x : Int
  y : Int
  width : Nat
  height : Nat
  /-- One value a pixel, row by row; the value 1 marks a set pixel. -/
  values : List Nat
  deriving DecidableEq, Repr

/-- The cels of one drawing. -/
structure Sheet where
  cels : List Cel
  deriving DecidableEq, Repr, Inhabited

/-- A named bitmap, placed in the em box. -/
structure Layer where
  name : String
  bitmap : Bitmap
  deriving DecidableEq, Repr

namespace Cel

/-- How a scratch layer's name begins. -/
def scratchMark : List Char := ['-', '-']

/-- The canvas begins this many pixels before the em box, to the left and above. -/
def canvasMargin : Int := 1

/-- Scratch cels never become layers. -/
def isScratch (cel : Cel) : Bool :=
  scratchMark.isPrefixOf cel.layer.toList

/-- The layer drawn by the cel. -/
def toLayer (cel : Cel) : Except Fault Layer := do
  let x ← Position.checked (cel.x - canvasMargin)
  let y ← Position.checked (cel.y - canvasMargin)
  let bitmap ← Bitmap.ofPixels? cel.layer cel.width cel.height x y (cel.values.map (· == 1))
  return { name := cel.layer, bitmap }

end Cel

/-- The layers of the sheet, in order, without the scratch cels. -/
def Sheet.layers (sheet : Sheet) : Except Fault (List Layer) :=
  (sheet.cels.filter fun cel => !cel.isScratch).mapM Cel.toLayer

end Gridface
