import Gridface.Fault

/-!
# Bitmaps

A rectangular grid of pixels, placed in the em box. Pixels are listed row by row from the top;
the offset is that of the grid's top left corner from the top left of the em box.
-/

namespace Gridface

/-- A grid of pixels at an offset in the em box. -/
structure Bitmap where
  width : Nat
  height : Nat
  x : Int
  y : Int
  /-- The pixels in row-major order. -/
  pixels : List Bool
  /-- The pixels cover the grid. -/
  covers : pixels.length = width * height
  deriving DecidableEq, Repr

/-- The first `count` runs of `width` elements of a list. -/
def runs {α : Type} (width : Nat) : Nat → List α → List (List α)
  | 0, _ => []
  | count + 1, l => l.take width :: runs width count (l.drop width)

namespace Bitmap

/-- The bitmap with these pixels, if they cover the grid; `name` is the layer or glyph to blame. -/
def ofPixels? (name : String) (width height : Nat) (x y : Int) (pixels : List Bool) :
    Except Fault Bitmap :=
  if h : pixels.length = width * height then
    .ok { width, height, x, y, pixels, covers := h }
  else
    .error (.malformedBitmap name (width * height) pixels.length)

/-- The rows of the grid from the top; a grid without columns has none. -/
def rows (b : Bitmap) : List (List Bool) :=
  if b.width = 0 then [] else runs b.width b.height b.pixels

/-- The index of each set pixel, cut off to 32 bits. -/
def setIndices (pixels : List Bool) : List UInt32 :=
  (pixels.zipIdx.filter (·.1)).map fun p => UInt32.ofNat p.2

/-- The column and row of each set pixel, in row-major order, told from its index in 32 bits. -/
def filled (b : Bitmap) : List (Nat × Nat) :=
  (setIndices b.pixels).map fun i => (i.toNat % b.width, i.toNat / b.width)

/-- The pixel is set, in a column and a row of the grid. -/
def HasPixel (b : Bitmap) (x y : Nat) : Prop :=
  x < b.width ∧ y < b.height ∧ b.pixels[y * b.width + x]? = some true

/-- Whether the pixel in column `c` and row `r` of the em box is set. -/
def IsSet (b : Bitmap) (c r : Int) : Prop :=
  ∃ x y : Nat, b.HasPixel x y ∧ c = b.x + x ∧ r = b.y + y

end Bitmap

end Gridface
