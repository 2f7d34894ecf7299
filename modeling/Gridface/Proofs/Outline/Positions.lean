import Gridface.Outline
import Gridface.Proofs.Bitmap
import Gridface.Proofs.Report
import Mathlib.Tactic.MkIffOfInductiveProp

/-!
# Positions of set pixels

The outline of a bitmap is made unless a set pixel leaves the range of positions, in its column, its
row or the row above the baseline. Nothing else can go wrong with it. The column and the row in the
grid are taken as positions bit by bit; as long as the grid is not too large, these are the same
numbers.
-/

namespace Gridface

variable {α β γ : Type} [Coordinate α]

/-! ## Faults of a drawing -/

/-- Nothing but a position that leaves its range can go wrong. -/
def OnlyOverflows (x : Except Fault β) : Prop := ∀ e, x = .error e → e = .positionOverflow

namespace OnlyOverflows

theorem ok (b : β) : OnlyOverflows (.ok b) := by
  intro e h
  cases h

theorem bind {x : Except Fault β} {f : β → Except Fault γ} (hx : OnlyOverflows x)
    (hf : ∀ b, OnlyOverflows (f b)) : OnlyOverflows (x >>= f) := by
  cases x with
  | error e =>
      intro e' h
      cases h
      exact hx e rfl
  | ok b => exact hf b

theorem mapM {f : β → Except Fault γ} (hf : ∀ b, OnlyOverflows (f b)) (bs : List β) :
    OnlyOverflows (bs.mapM f) := by
  induction bs with
  | nil => exact ok []
  | cons b bs ih =>
      rw [List.mapM_cons]
      exact (hf b).bind fun c => ih.bind fun cs => ok (c :: cs)

theorem checked (v : Int) : OnlyOverflows (Position.checked v) := by
  intro e h
  unfold Position.checked at h
  split at h
  · cases h
  · cases h
    rfl

theorem pixelOutline (m : Metrics) (b : Bitmap) (pixel : Nat × Nat) :
    OnlyOverflows (b.pixelOutline m pixel : Except Fault (Outline α)) := by
  refine (checked _).bind fun x => (checked _).bind fun y => ?_
  exact ((checked _).bind fun bottom => ok (x, bottom)).bind fun corner => ok _

theorem outline (m : Metrics) (b : Bitmap) :
    OnlyOverflows (b.outline m : Except Fault (Outline α)) :=
  (mapM (pixelOutline m b) b.filled).bind fun squares => ok squares.flatten

end OnlyOverflows

/-! ## Pixels in their range -/

namespace Bitmap

variable {m : Metrics} {b : Bitmap} {p : Nat × Nat}

/-- The column and the row of the pixel in the em box are positions, and so is the row above the
baseline. -/
@[mk_iff]
structure HasPosition (m : Metrics) (b : Bitmap) (p : Nat × Nat) : Prop where
  column : Position.InRange (Position.wrapped p.1 + b.x)
  row : Position.InRange (Position.wrapped p.2 + b.y)
  flipped : Position.InRange (m.flipAxis - (Position.wrapped p.2 + b.y))

instance : Decidable (b.HasPosition m p) := decidable_of_iff' _ (hasPosition_iff m b p)

theorem HasPosition.pixelOutline_eq (h : b.HasPosition m p) :
    (b.pixelOutline m p : Except Fault (Outline α)) =
      .ok (m.cellSquare (Position.wrapped p.1 + b.x)
        (m.flipAxis - (Position.wrapped p.2 + b.y))) := by
  unfold pixelOutline Metrics.cellOrigin
  rw [Position.checked_eq_ok h.column, Position.checked_eq_ok h.row]
  simp only [Position.checked_eq_ok h.flipped, bind, Except.bind, pure, Except.pure]

theorem pixelOutline_ok_iff :
    (∃ o : Outline α, b.pixelOutline m p = .ok o) ↔ b.HasPosition m p := by
  constructor
  · rintro ⟨o, ho⟩
    unfold pixelOutline Metrics.cellOrigin at ho
    obtain ⟨x, hx, ho⟩ := except_bind_eq_ok.mp ho
    obtain ⟨y, hy, ho⟩ := except_bind_eq_ok.mp ho
    obtain ⟨corner, hcorner, -⟩ := except_bind_eq_ok.mp ho
    obtain ⟨bottom, hbottom, -⟩ := except_bind_eq_ok.mp hcorner
    obtain ⟨hcolumn, -⟩ := Position.checked_eq_ok_iff.mp hx
    obtain ⟨hrow, hy⟩ := Position.checked_eq_ok_iff.mp hy
    exact ⟨hcolumn, hrow, hy ▸ (Position.checked_eq_ok_iff.mp hbottom).1⟩
  · exact fun h => ⟨_, h.pixelOutline_eq⟩

/-- A bitmap has an outline just if its set pixels have positions. -/
theorem outline_ok_iff :
    (∃ o : Outline α, b.outline m = .ok o) ↔ ∀ p ∈ b.filled, b.HasPosition m p := by
  constructor
  · rintro ⟨o, ho⟩ p hp
    obtain ⟨squares, hsquares, -⟩ := except_bind_eq_ok.mp ho
    obtain ⟨square, -, hsquare⟩ := exists_of_map_ok (mapM_eq_ok.mp hsquares) hp
    exact pixelOutline_ok_iff.mp ⟨square, hsquare⟩
  · intro h
    obtain ⟨squares, hsquares⟩ := exists_mapM_eq_ok fun p hp =>
      pixelOutline_ok_iff (α := α).mpr (h p hp)
    refine ⟨squares.flatten, ?_⟩
    rw [outline, hsquares]
    rfl

theorem outline_eq_overflow (h : ¬∀ p ∈ b.filled, b.HasPosition m p) :
    (b.outline m : Except Fault (Outline α)) = .error .positionOverflow := by
  cases ho : (b.outline m : Except Fault (Outline α)) with
  | error e => rw [OnlyOverflows.outline m b e ho]
  | ok o => exact absurd (outline_ok_iff.mp ⟨o, ho⟩) h

/-- In a grid of at most 2^31 pixels the columns and rows themselves are positions. -/
theorem wrapped_of_hasPixel (hsize : b.pixels.length ≤ 2147483648) (hp : b.HasPixel p.1 p.2) :
    Position.wrapped p.1 = p.1 ∧ Position.wrapped p.2 = p.2 := by
  obtain ⟨hcolumn, -, hset⟩ := hp
  have hplace : p.2 * b.width + p.1 < b.pixels.length := (List.getElem?_eq_some_iff.mp hset).1
  have hrow : p.2 ≤ p.2 * b.width := Nat.le_mul_of_pos_right _ (Nat.zero_lt_of_lt hcolumn)
  exact ⟨Position.wrapped_eq (by omega), Position.wrapped_eq (by omega)⟩

end Bitmap

end Gridface
