import Gridface.Position

/-!
# Metrics

The relation between pixels and font units.
-/

namespace Gridface

/-- The relation between the pixel grid and font units. -/
structure Metrics where
  unitsPerEm : Nat := 1024
  /-- Pixels along each side of the em box. -/
  pixelsPerEm : Nat := 8
  /-- The row that lands on the baseline: rows grow downwards, font units grow upwards. -/
  flipAxis : Int := 6
  deriving DecidableEq, Repr, Inhabited

/-- Numbers that can be the coordinates of an outline. -/
class Coordinate (α : Type) extends Add α, Mul α, BEq α where
  /-- The coordinate of a pixel position. -/
  ofInt : Int → α
  /-- A quotient of font measures. -/
  quotient : Nat → Nat → α
  /-- The nearest 16-bit integer; halves are rounded up. -/
  rounded : α → Int

/-- The least 16-bit integer. -/
def leastUnit : Int := -32768

/-- The greatest 16-bit integer. -/
def greatestUnit : Int := 32767

/-- The greatest 16-bit number without a sign. -/
def greatestCount : Nat := 65535

/-- The 16-bit integer that is closest to `v`. -/
def clampUnit (v : Int) : Int := max leastUnit (min greatestUnit v)

/-- Binary floating point: the coordinates that fonts are drawn with. -/
instance : Coordinate Float where
  ofInt := Float.ofInt
  quotient a b := Float.ofNat a / Float.ofNat b
  rounded v := (v + 0.5).floor.toInt16.toInt

/-- Exact whole coordinates, for metrics where a pixel has a whole number of units. -/
instance : Coordinate Int where
  ofInt v := v
  quotient a b := (a / b : Nat)
  rounded v := clampUnit v

namespace Metrics

/-- Font units per pixel. -/
def scale (α : Type) [Coordinate α] (m : Metrics) : α :=
  Coordinate.quotient m.unitsPerEm (max m.pixelsPerEm 1)

/-- The bottom left corner, in pixels above the baseline, of the cell in column `x` and row `y`. -/
def cellOrigin (m : Metrics) (x y : Int) : Except Fault (Int × Int) := do
  return (x, ← Position.checked (m.flipAxis - y))

end Metrics

end Gridface
