import Gridface.Font.Assembly
import Gridface.Proofs.Outline.Positions
import Gridface.Proofs.Outline.Squares
import Mathlib.Tactic.Linarith
import Mathlib.Tactic.Ring

/-!
# Squares of pixels

The outline of a bitmap in whole font units: one square for each set pixel. The bitmap can be read
off the lower left corners of the squares, and the squares of neighbours meet in an edge.
-/

namespace Gridface

variable {m : Metrics} {b : Bitmap}

/-! ## Contours -/

namespace Contour

/-- The corner of the least box around the contour. -/
def lowerLeft? (c : Contour Int) : Option (Int × Int) :=
  (Box.around? c).map fun box => (box.xMin, box.yMin)

/-- The point is in the least box around the contour, or on its border. -/
def Covers (c : Contour Int) (u v : ℚ) : Prop :=
  ∃ box, Box.around? c = some box ∧ box.xMin ≤ u ∧ u ≤ box.xMax ∧ box.yMin ≤ v ∧ v ≤ box.yMax

/-- The sum over the steps from each point to the next. -/
def areaFrom (start p : Int × Int) : Contour Int → Int
  | [] => p.1 * start.2 - start.1 * p.2
  | q :: c => p.1 * q.2 - q.1 * p.2 + areaFrom start q c

/-- Twice the area inside the contour: negative if it runs clockwise, with the second coordinate
growing upwards. -/
def twiceArea : Contour Int → Int
  | [] => 0
  | p :: c => areaFrom p p c

variable {side : Int} {c : Int × Int}

theorem around?_square (hside : 0 < side) :
    Box.around? (square side c) = some ⟨c.1, c.2, c.1 + side, c.2 + side⟩ := by
  simp only [Box.around?, square, List.foldl_cons, List.foldl_nil, Box.union, Box.ofPoint,
    Option.some_inj, Box.mk.injEq]
  omega

theorem lowerLeft?_square (hside : 0 < side) : (square side c).lowerLeft? = some c := by
  rw [lowerLeft?, around?_square hside]
  rfl

theorem covers_square_iff (hside : 0 < side) {u v : ℚ} :
    (square side c).Covers u v ↔
      (c.1 ≤ u ∧ u ≤ c.1 + side) ∧ (c.2 ≤ v ∧ v ≤ c.2 + side) := by
  rw [Covers, around?_square hside]
  simp only [Option.some_inj, exists_eq_left', Int.cast_add, and_assoc]

theorem twiceArea_square (side : Int) (c : Int × Int) :
    (square side c).twiceArea = -(2 * (side * side)) := by
  simp only [twiceArea, square, areaFrom]
  ring

end Contour

/-! ## Pixels in font units -/

namespace Metrics

/-- A pixel has a whole number of units. -/
structure IsWhole (m : Metrics) : Prop where
  units_pos : 0 < m.unitsPerEm
  dvd : max m.pixelsPerEm 1 ∣ m.unitsPerEm

theorem IsWhole.scale_pos (h : m.IsWhole) : 0 < m.scale Int := by
  have hpos : 0 < m.unitsPerEm / max m.pixelsPerEm 1 :=
    Nat.div_pos (Nat.le_of_dvd h.units_pos h.dvd) (by omega)
  exact Int.natCast_pos.mpr hpos

/-- The lower left corner, in units, of a pixel in a grid with the given offset. -/
def corner (m : Metrics) (x y : Int) (p : Nat × Nat) : Int × Int :=
  (m.scale Int * (p.1 + x), m.scale Int * (m.flipAxis - (p.2 + y)))

theorem corner_injective (hscale : 0 < m.scale Int) {x y : Int} {p q : Nat × Nat}
    (h : m.corner x y p = m.corner x y q) : p = q := by
  obtain ⟨hx, hy⟩ := Prod.mk.inj h
  have hx' := Int.eq_of_mul_eq_mul_left hscale.ne' hx
  have hy' := Int.eq_of_mul_eq_mul_left hscale.ne' hy
  exact Prod.ext (by omega) (by omega)

theorem corner_right (m : Metrics) (x y : Int) (p : Nat × Nat) :
    m.corner x y (p.1 + 1, p.2) =
      ((m.corner x y p).1 + m.scale Int, (m.corner x y p).2) := by
  refine Prod.ext ?_ rfl
  simp only [corner]
  push_cast
  ring

theorem corner_below (m : Metrics) (x y : Int) (p : Nat × Nat) :
    m.corner x y (p.1, p.2 + 1) =
      ((m.corner x y p).1, (m.corner x y p).2 - m.scale Int) := by
  refine Prod.ext rfl ?_
  simp only [corner]
  push_cast
  ring

/-- The grid that contours show: a pixel is set if its corner is that of a contour. -/
def gridOf (m : Metrics) (width height : Nat) (x y : Int) (contours : List (Contour Int)) :
    List Bool :=
  (List.range (width * height)).map fun i =>
    contours.any fun c => c.lowerLeft? == some (m.corner x y (i % width, i / width))

end Metrics

namespace Bitmap

/-- The pixel has a position, and its corners are 16-bit numbers of units. -/
@[mk_iff]
structure FitsUnits (m : Metrics) (b : Bitmap) (p : Nat × Nat) : Prop
    extends b.HasPosition m p where
  left : FitsUnit (m.scale Int * (p.1 + b.x))
  right : FitsUnit (m.scale Int * (p.1 + b.x + 1))
  bottom : FitsUnit (m.scale Int * (m.flipAxis - (p.2 + b.y)))
  top : FitsUnit (m.scale Int * (m.flipAxis - (p.2 + b.y) + 1))

instance (p : Nat × Nat) : Decidable (b.FitsUnits m p) :=
  decidable_of_iff' _ (fitsUnits_iff m b p)

/-- The squares of the set pixels. -/
def squares (m : Metrics) (b : Bitmap) : List (Contour Int) :=
  b.filled.map fun p => Contour.square (m.scale Int) (m.corner b.x b.y p)

/-! ## The outline -/

theorem cellSquare_eq (m : Metrics) (left bottom : Int) :
    m.cellSquare left bottom = Outline.square (m.scale Int * left) (m.scale Int * bottom)
      (m.scale Int * left + m.scale Int) (m.scale Int * bottom + m.scale Int) := by
  rw [Int.mul_comm _ left, Int.mul_comm _ bottom]
  rfl

theorem near_of_fitsUnit {scale v : Int} (hscale : 0 < scale) (h : FitsUnit (scale * v)) :
    -32768 ≤ v ∧ v ≤ 32767 := by
  obtain ⟨hleast, hgreatest⟩ := h
  unfold leastUnit at hleast
  unfold greatestUnit at hgreatest
  constructor
  · nlinarith
  · nlinarith

/-- The column and the row of a pixel whose corner is a 16-bit number are positions as they are:
other positions with the same 32 bits are too far away. -/
theorem FitsUnits.wrapped_eq (hscale : 0 < m.scale Int) {p : Nat × Nat} (h : b.FitsUnits m p) :
    Position.wrapped p.1 = p.1 ∧ Position.wrapped p.2 = p.2 := by
  obtain ⟨hleft, hright⟩ := near_of_fitsUnit hscale h.left
  obtain ⟨hbottom, htop⟩ := near_of_fitsUnit hscale h.bottom
  have hcolumn := h.column
  have hflipped := h.flipped
  simp only [Position.InRange, Position.least, Position.greatest, Position.wrapped_eq_bmod,
    Int.bmod_def] at hcolumn hflipped ⊢
  constructor
  · omega
  · omega

theorem pixelOutline_eq_ok (hscale : 0 < m.scale Int) {p : Nat × Nat} (h : b.FitsUnits m p) :
    b.pixelOutline m p = .ok (Outline.square (m.corner b.x b.y p).1 (m.corner b.x b.y p).2
      ((m.corner b.x b.y p).1 + m.scale Int) ((m.corner b.x b.y p).2 + m.scale Int)) := by
  obtain ⟨hx, hy⟩ := h.wrapped_eq hscale
  rw [h.pixelOutline_eq, cellSquare_eq, hx, hy]
  rfl

/-- The outline is made of the squares on the corners of the set pixels. -/
theorem outline_eq_ok (hscale : 0 < m.scale Int) (h : ∀ p ∈ b.filled, b.FitsUnits m p) :
    b.outline m = .ok (Outline.squares (m.scale Int) (b.filled.map (m.corner b.x b.y))) := by
  have hsquares : (b.filled.mapM (b.pixelOutline m) : Except Fault (List (Outline Int))) =
      .ok ((b.filled.map (m.corner b.x b.y)).map fun c =>
        Outline.square c.1 c.2 (c.1 + m.scale Int) (c.2 + m.scale Int)) := by
    rw [mapM_eq_ok, List.map_map, List.map_map]
    exact List.map_congr_left fun p hp => (pixelOutline_eq_ok hscale (h p hp)).symm
  rw [outline, hsquares, Outline.squares, List.flatMap_def]
  rfl

theorem contours_outline (hscale : 0 < m.scale Int) :
    (Outline.squares (m.scale Int) (b.filled.map (m.corner b.x b.y))).contours =
      .ok (b.squares m) := by
  rw [Outline.contours_squares hscale.ne', List.map_map]
  rfl

theorem rounded_squares (h : ∀ p ∈ b.filled, b.FitsUnits m p) :
    (b.squares m).map Contour.rounded = b.squares m := by
  rw [squares, List.map_map]
  refine List.map_congr_left fun p hp => ?_
  obtain ⟨-, hleft, hright, hbottom, htop⟩ := h p hp
  rw [Int.mul_add, Int.mul_one] at hright htop
  exact Contour.rounded_square hleft hright hbottom htop

/-- A glyph can be made of the outline just if the library stores the squares, and then it has
them. -/
theorem ofOutline_squares (library : FontLibrary) (hscale : 0 < m.scale Int)
    (h : ∀ p ∈ b.filled, b.FitsUnits m p) (id : GlyphId) (name : String) (advance : Nat) :
    ((∃ g, FontGlyph.ofOutline library id name advance
        (Outline.squares (m.scale Int) (b.filled.map (m.corner b.x b.y))) = .ok g) ↔
      library.obstacle? (b.squares m) = none) ∧
    ∀ g, FontGlyph.ofOutline library id name advance
        (Outline.squares (m.scale Int) (b.filled.map (m.corner b.x b.y))) = .ok g →
      g.contours = b.squares m := by
  unfold FontGlyph.ofOutline
  rw [contours_outline hscale]
  simp only [rounded_squares h]
  cases hobstacle : library.obstacle? (b.squares m) with
  | some obstacle => simp
  | none => simp

/-! ## What the squares show -/

/-- The points that two squares have in common when the second one is to the right of the first:
those of the edge between them. -/
theorem covers_right (hscale : 0 < m.scale Int) (x y : Int) (p : Nat × Nat) (u v : ℚ) :
    (Contour.square (m.scale Int) (m.corner x y p)).Covers u v ∧
        (Contour.square (m.scale Int) (m.corner x y (p.1 + 1, p.2))).Covers u v ↔
      u = (m.corner x y p).1 + m.scale Int ∧
        (m.corner x y p).2 ≤ v ∧ v ≤ (m.corner x y p).2 + m.scale Int := by
  have hpos : (0 : ℚ) < m.scale Int := Int.cast_pos.mpr hscale
  rw [Contour.covers_square_iff hscale, Contour.covers_square_iff hscale, Metrics.corner_right]
  push_cast
  constructor
  · rintro ⟨⟨⟨-, hright⟩, hv⟩, ⟨hleft, -⟩, -⟩
    exact ⟨le_antisymm hright hleft, hv⟩
  · rintro ⟨rfl, hv⟩
    exact ⟨⟨⟨by linarith, le_refl _⟩, hv⟩, ⟨le_refl _, by linarith⟩, hv⟩

theorem covers_below (hscale : 0 < m.scale Int) (x y : Int) (p : Nat × Nat) (u v : ℚ) :
    (Contour.square (m.scale Int) (m.corner x y p)).Covers u v ∧
        (Contour.square (m.scale Int) (m.corner x y (p.1, p.2 + 1))).Covers u v ↔
      v = (m.corner x y p).2 ∧
        (m.corner x y p).1 ≤ u ∧ u ≤ (m.corner x y p).1 + m.scale Int := by
  have hpos : (0 : ℚ) < m.scale Int := Int.cast_pos.mpr hscale
  rw [Contour.covers_square_iff hscale, Contour.covers_square_iff hscale, Metrics.corner_below]
  push_cast
  constructor
  · rintro ⟨⟨hu, hbottom, -⟩, -, -, htop⟩
    exact ⟨le_antisymm (by linarith) hbottom, hu⟩
  · rintro ⟨rfl, hu⟩
    exact ⟨⟨hu, le_refl _, by linarith⟩, hu, by linarith, by linarith⟩

/-- The contours show the bitmap: there is one for each set pixel, in the order in which the pixels
are listed, and the grid can be read off them. -/
structure ShownBy (m : Metrics) (b : Bitmap) (contours : List (Contour Int)) : Prop where
  contours_eq : contours =
    b.filled.map fun p => Contour.square (m.scale Int) (m.corner b.x b.y p)
  clockwise : ∀ c ∈ contours, c.twiceArea < 0
  /-- Pixels side by side share an edge, and nothing else. -/
  right_edge : ∀ p ∈ b.filled, (p.1 + 1, p.2) ∈ b.filled → ∀ u v : ℚ,
    (Contour.square (m.scale Int) (m.corner b.x b.y p)).Covers u v ∧
        (Contour.square (m.scale Int) (m.corner b.x b.y (p.1 + 1, p.2))).Covers u v ↔
      u = (m.corner b.x b.y p).1 + m.scale Int ∧
        (m.corner b.x b.y p).2 ≤ v ∧ v ≤ (m.corner b.x b.y p).2 + m.scale Int
  /-- So do pixels of which one is below the other. -/
  lower_edge : ∀ p ∈ b.filled, (p.1, p.2 + 1) ∈ b.filled → ∀ u v : ℚ,
    (Contour.square (m.scale Int) (m.corner b.x b.y p)).Covers u v ∧
        (Contour.square (m.scale Int) (m.corner b.x b.y (p.1, p.2 + 1))).Covers u v ↔
      v = (m.corner b.x b.y p).2 ∧
        (m.corner b.x b.y p).1 ≤ u ∧ u ≤ (m.corner b.x b.y p).1 + m.scale Int
  /-- A pixel is set just if its corner is the lower left corner of a contour. -/
  hasPixel_iff : ∀ p : Nat × Nat, p.1 < b.width → p.2 < b.height →
    (b.HasPixel p.1 p.2 ↔ ∃ c ∈ contours, c.lowerLeft? = some (m.corner b.x b.y p))
  grid_eq : m.gridOf b.width b.height b.x b.y contours = b.pixels

theorem shownBy_squares (hscale : 0 < m.scale Int) (hindexed : b.IsIndexed) :
    b.ShownBy m (b.squares m) := by
  have hlower : ∀ p, (Contour.square (m.scale Int) (m.corner b.x b.y p)).lowerLeft? =
      some (m.corner b.x b.y p) := fun p => Contour.lowerLeft?_square hscale
  -- corners tell pixels apart, so a contour on the corner of a pixel is that of the pixel
  have hiff : ∀ p : Nat × Nat, b.HasPixel p.1 p.2 ↔
      ∃ c ∈ b.squares m, c.lowerLeft? = some (m.corner b.x b.y p) := by
    intro p
    rw [← mem_filled_iff hindexed]
    constructor
    · intro hp
      exact ⟨_, List.mem_map_of_mem hp, hlower p⟩
    · rintro ⟨c, hc, hcorner⟩
      obtain ⟨q, hq, rfl⟩ := List.mem_map.mp hc
      rw [hlower, Option.some_inj] at hcorner
      exact m.corner_injective hscale hcorner ▸ hq
  refine ⟨rfl, ?_, fun p _ _ => covers_right hscale b.x b.y p,
    fun p _ _ => covers_below hscale b.x b.y p, fun p _ _ => hiff p, ?_⟩
  · intro c hc
    obtain ⟨p, -, rfl⟩ := List.mem_map.mp hc
    rw [Contour.twiceArea_square]
    have := Int.mul_pos hscale hscale
    omega
  · have hlength : (m.gridOf b.width b.height b.x b.y (b.squares m)).length = b.pixels.length := by
      rw [Metrics.gridOf, List.length_map, List.length_range, b.covers]
    refine List.ext_getElem hlength fun i _ hi => ?_
    obtain ⟨hx, hy⟩ := place_lt hi
    simp only [Metrics.gridOf, List.getElem_map, List.getElem_range]
    rw [Bool.eq_iff_iff, List.any_eq_true]
    simp only [beq_iff_eq, ← hiff (i % b.width, i / b.width)]
    rw [HasPixel, Nat.mul_comm, Nat.div_add_mod, List.getElem?_eq_getElem hi, Option.some_inj]
    simp only [hx, hy, true_and]

end Bitmap

end Gridface
