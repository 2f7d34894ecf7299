import Gridface.Bitmap
import Gridface.Metrics

/-!
# Outlines

An outline is a list of strokes. A bitmap is drawn as one closed square for each set pixel; squares
run clockwise and are never merged.
-/

namespace Gridface

/-- A stroke of an outline, up to the point it names. -/
inductive Stroke (α : Type)
  | move (x y : α)
  | line (x y : α)
  /-- A cubic curve with two control points. -/
  | cubic (x₁ y₁ x₂ y₂ x y : α)
  | close
  deriving DecidableEq, Repr

/-- The strokes of a drawing. -/
abbrev Outline (α : Type) := List (Stroke α)

/-- The square with two given corners, from the first one clockwise. -/
def Outline.square {α : Type} (x₀ y₀ x₁ y₁ : α) : Outline α :=
  [.move x₀ y₀, .line x₀ y₁, .line x₁ y₁, .line x₁ y₀, .close]

variable {α : Type} [Coordinate α]

/-- The square of the cell whose bottom left corner is given in pixels. -/
def Metrics.cellSquare (m : Metrics) (left bottom : Int) : Outline α :=
  let scale := m.scale α
  let x := Coordinate.ofInt left * scale
  let y := Coordinate.ofInt bottom * scale
  Outline.square x y (x + scale) (y + scale)

/-- The outline of the set pixel in the given column and row of the bitmap. -/
def Bitmap.pixelOutline (m : Metrics) (b : Bitmap) (pixel : Nat × Nat) :
    Except Fault (Outline α) := do
  let x ← Position.checked (Position.wrapped pixel.1 + b.x)
  let y ← Position.checked (Position.wrapped pixel.2 + b.y)
  let (left, bottom) ← m.cellOrigin x y
  return m.cellSquare left bottom

/-- The outline of the bitmap. -/
def Bitmap.outline (m : Metrics) (b : Bitmap) : Except Fault (Outline α) := do
  let squares ← b.filled.mapM (b.pixelOutline m)
  return squares.flatten

end Gridface
