import Gridface.Cartouche

/-!
# The cartouche frame

A word's pixels are placed in a frame of eight columns and seven rows. The opening glyph is filled
from the first set pixel of each row on, the closing glyph up to it.
-/

namespace Gridface

/-- The number of columns of the frame. -/
def frameWidth : Nat := 8

/-- The number of rows of the frame. -/
def frameHeight : Nat := 7

/-! ## Filling a row -/

/-- The row, set from its first set cell on. -/
def fillFromFirst : List Bool → List Bool
  | [] => []
  | true :: row => true :: row.map fun _ => true
  | false :: row => false :: fillFromFirst row

/-- The row, set up to its first set cell; a blank row is set as a whole. -/
def fillToFirst : List Bool → List Bool
  | [] => []
  | true :: row => true :: row
  | false :: row => true :: fillToFirst row

/-- The row as the role fills it. -/
def Role.fill : Option Role → List Bool → List Bool
  | some .opening, row => fillFromFirst row
  | some .closing, row => fillToFirst row
  | _, row => row

theorem length_fillFromFirst (row : List Bool) : (fillFromFirst row).length = row.length := by
  induction row with
  | nil => rfl
  | cons c row ih => cases c <;> simp [fillFromFirst, ih]

theorem length_fillToFirst (row : List Bool) : (fillToFirst row).length = row.length := by
  induction row with
  | nil => rfl
  | cons c row ih => cases c <;> simp [fillToFirst, ih]

theorem Role.length_fill (role : Option Role) (row : List Bool) :
    (Role.fill role row).length = row.length := by
  unfold Role.fill
  split
  · exact length_fillFromFirst row
  · exact length_fillToFirst row
  · rfl

/-! ## Rows of a bitmap -/

theorem length_runs {α : Type} (width count : Nat) (l : List α) :
    (runs width count l).length = count := by
  induction count generalizing l with
  | zero => rfl
  | succ count ih => simp [runs, ih]

theorem length_of_mem_runs {α : Type} {width count : Nat} {l : List α}
    (h : l.length = width * count) {row : List α} (hr : row ∈ runs width count l) :
    row.length = width := by
  induction count generalizing l with
  | zero => simp [runs] at hr
  | succ count ih =>
    rw [Nat.mul_succ] at h
    simp only [runs, List.mem_cons] at hr
    rcases hr with rfl | hr
    · simp [h]
    · exact ih (by simp [h]) hr

namespace Bitmap

theorem length_rows (b : Bitmap) : b.rows.length = if b.width = 0 then 0 else b.height := by
  unfold rows
  split
  · rfl
  · exact length_runs ..

theorem length_of_mem_rows {b : Bitmap} {row : List Bool} (h : row ∈ b.rows) :
    row.length = b.width := by
  unfold rows at h
  split at h
  · simp at h
  · exact length_of_mem_runs b.covers h

/-! ## Placing a bitmap -/

/-- The bitmap lies in the frame as a whole. -/
def Fits (b : Bitmap) : Prop :=
  0 ≤ b.x ∧ b.x + b.width ≤ frameWidth ∧ 0 ≤ b.y ∧ b.y + b.height ≤ frameHeight

instance (b : Bitmap) : Decidable b.Fits := by unfold Fits; infer_instance

/-- A row of the bitmap at its place in a row of the frame. -/
def framedRow (b : Bitmap) (row : List Bool) : List Bool :=
  List.replicate b.x.toNat false ++ row ++
    List.replicate (frameWidth - b.width - b.x.toNat) false

/-- A row of the frame without set cells. -/
def blankRow : List Bool := List.replicate frameWidth false

/-- The rows of the frame around the bitmap: blank rows above and below those of the bitmap, which
are filled as the role says. -/
def framedRows (b : Bitmap) (role : Option Role) : List (List Bool) :=
  let drawn := b.rows.map fun row => Role.fill role (b.framedRow row)
  List.replicate b.y.toNat blankRow ++ drawn ++
    List.replicate (frameHeight - b.y.toNat - drawn.length) blankRow

theorem length_framedRows {b : Bitmap} (h : b.Fits) (role : Option Role) :
    (b.framedRows role).length = frameHeight := by
  obtain ⟨-, -, hy, hh⟩ := h
  simp only [framedRows, List.length_append, List.length_replicate, List.length_map, length_rows]
  have : b.y.toNat + b.height ≤ frameHeight := by omega
  split <;> omega

theorem length_of_mem_framedRows {b : Bitmap} (h : b.Fits) {role : Option Role} {row : List Bool}
    (hr : row ∈ b.framedRows role) : row.length = frameWidth := by
  obtain ⟨hx, hw, -, -⟩ := h
  simp only [framedRows, List.mem_append, List.mem_replicate, List.mem_map] at hr
  rcases hr with (⟨-, rfl⟩ | ⟨source, hs, rfl⟩) | ⟨-, rfl⟩
  · simp [blankRow]
  · simp only [Role.length_fill, framedRow, List.length_append, List.length_replicate,
      length_of_mem_rows hs]
    omega
  · simp [blankRow]

theorem length_flatten_of_forall {α : Type} {n : Nat} {ls : List (List α)}
    (h : ∀ l ∈ ls, l.length = n) : ls.flatten.length = n * ls.length := by
  induction ls with
  | nil => simp
  | cons l ls ih =>
    simp only [List.flatten_cons, List.length_append, List.length_cons, Nat.mul_succ]
    rw [h l (by simp), ih fun l hl => h l (by simp [hl])]
    omega

theorem length_flatten_framedRows {b : Bitmap} (h : b.Fits) (role : Option Role) :
    (b.framedRows role).flatten.length = frameWidth * frameHeight := by
  rw [length_flatten_of_forall fun _ => length_of_mem_framedRows h, length_framedRows h]

/-- The bitmap in the cartouche frame; `name` is the glyph to blame if it does not fit. -/
def frame (name : String) (b : Bitmap) (role : Option Role) : Except Fault Bitmap :=
  if h : b.Fits then
    .ok {
      width := frameWidth
      height := frameHeight
      x := 0
      y := 0
      pixels := (b.framedRows role).flatten
      covers := length_flatten_framedRows h role
    }
  else
    .error (.frameOverflow name b.width b.height b.x b.y)

/-- The bitmap with set and blank pixels exchanged. -/
def inverted (b : Bitmap) : Bitmap :=
  { b with pixels := b.pixels.map (!·), covers := by rw [List.length_map, b.covers] }

end Bitmap

end Gridface
