import Gridface.Outline.Contours
import Gridface.Proofs.Report

/-!
# Contours of squares

An outline of squares has one contour for each of them, with four points.
-/

namespace Gridface

/-! ## 16-bit integers -/

/-- The number has 16 bits and a sign. -/
def FitsUnit (v : Int) : Prop := leastUnit ≤ v ∧ v ≤ greatestUnit

instance (v : Int) : Decidable (FitsUnit v) := inferInstanceAs (Decidable (_ ∧ _))

theorem clampUnit_of_fits {v : Int} (h : FitsUnit v) : clampUnit v = v := by
  unfold clampUnit FitsUnit at *
  omega

/-! ## Squares -/

/-- The square with the given side on its lower left corner, clockwise from there. -/
def Contour.square (side : Int) (c : Int × Int) : Contour Int :=
  [(c.1, c.2), (c.1, c.2 + side), (c.1 + side, c.2 + side), (c.1 + side, c.2)]

/-- The strokes around squares. -/
def Outline.squares (side : Int) (cs : List (Int × Int)) : Outline Int :=
  cs.flatMap fun c => Outline.square c.1 c.2 (c.1 + side) (c.2 + side)

variable {side : Int} {cs : List (Int × Int)}

theorem Contour.closed_square (hside : side ≠ 0) (c : Int × Int) :
    (Contour.square side c).closed = Contour.square side c := by
  have hne : ¬c.1 = c.1 + side := by omega
  simp [Contour.closed, Contour.square, samePoint, hne]

theorem Outline.contoursFrom_squares (hside : side ≠ 0) (before : Option (Contour Int))
    (cs : List (Int × Int)) :
    contoursFrom before (squares side cs) =
      .ok (before.toList ++ cs.map (Contour.square side)) := by
  -- a contour that is still open where a square begins ends there as it is
  induction cs generalizing before with
  | nil =>
      cases before with
      | none => rfl
      | some c => rfl
  | cons c cs ih =>
      have hsquare : contoursFrom (some [(c.1, c.2)]) ([.line c.1 (c.2 + side),
          .line (c.1 + side) (c.2 + side), .line (c.1 + side) c.2, .close] ++ squares side cs) =
            .ok (Contour.square side c :: cs.map (Contour.square side)) := by
        show contoursFrom (some (Contour.square side c).closed) (squares side cs) = _
        rw [Contour.closed_square hside, ih]
        rfl
      cases before with
      | none => exact hsquare
      | some open' =>
          exact congrArg (Except.map (open' :: ·)) hsquare

/-- An outline of squares has a contour for each. -/
theorem Outline.contours_squares (hside : side ≠ 0) (cs : List (Int × Int)) :
    (squares side cs).contours = .ok (cs.map (Contour.square side)) :=
  contoursFrom_squares hside none cs

theorem Contour.rounded_square {c : Int × Int} (hx : FitsUnit c.1) (hx' : FitsUnit (c.1 + side))
    (hy : FitsUnit c.2) (hy' : FitsUnit (c.2 + side)) :
    (Contour.square side c).rounded = Contour.square side c := by
  show [(clampUnit c.1, clampUnit c.2), (clampUnit c.1, clampUnit (c.2 + side)),
    (clampUnit (c.1 + side), clampUnit (c.2 + side)), (clampUnit (c.1 + side), clampUnit c.2)] = _
  rw [clampUnit_of_fits hx, clampUnit_of_fits hx', clampUnit_of_fits hy, clampUnit_of_fits hy']
  rfl

end Gridface
