import Gridface.Cartouche.Frame
import Gridface.Proofs.Bitmap

/-!
# The cells of the frame

Which cells of the cartouche frame are set, told by column and row from the pixels of the bitmap
that lies in it.
-/

namespace Gridface

/-! ## Filling a row -/

theorem exists_getElem?_cons_false {row : List Bool} {c : Nat} :
    (∃ c' ≤ c + 1, (false :: row)[c']? = some true) ↔ ∃ c' ≤ c, row[c']? = some true := by
  constructor
  · rintro ⟨c', hc', hset⟩
    cases c' with
    | zero => simp at hset
    | succ c' => exact ⟨c', Nat.le_of_succ_le_succ hc', hset⟩
  · rintro ⟨c', hc', hset⟩
    exact ⟨c' + 1, Nat.succ_le_succ hc', hset⟩

theorem getElem?_fillFromFirst {row : List Bool} {c : Nat} (hc : c < row.length) :
    (fillFromFirst row)[c]? = some true ↔ ∃ c' ≤ c, row[c']? = some true := by
  induction row generalizing c with
  | nil => cases hc
  | cons cell row ih =>
      cases cell with
      | true =>
          have hfirst : ∃ c' ≤ c, (true :: row)[c']? = some true := ⟨0, Nat.zero_le c, rfl⟩
          refine iff_of_true ?_ hfirst
          cases c with
          | zero => rfl
          | succ c =>
              have hc' : c < row.length := Nat.lt_of_succ_lt_succ hc
              simp [fillFromFirst, hc']
      | false =>
          cases c with
          | zero => simp [fillFromFirst]
          | succ c =>
              rw [exists_getElem?_cons_false]
              exact ih (Nat.lt_of_succ_lt_succ hc)

theorem getElem?_fillToFirst {row : List Bool} {c : Nat} (hc : c < row.length) :
    (fillToFirst row)[c]? = some true ↔
      row[c]? = some true ∨ ∀ c' ≤ c, row[c']? ≠ some true := by
  induction row generalizing c with
  | nil => cases hc
  | cons cell row ih =>
      cases cell with
      | true =>
          have hfirst : ¬∀ c' ≤ c, (true :: row)[c']? ≠ some true :=
            fun h => h 0 (Nat.zero_le c) rfl
          exact (or_iff_left hfirst).symm
      | false =>
          cases c with
          | zero => simp [fillToFirst]
          | succ c =>
              have hnone : (∀ c' ≤ c + 1, (false :: row)[c']? ≠ some true) ↔
                  ∀ c' ≤ c, row[c']? ≠ some true := by
                simpa only [not_exists, not_and] using not_congr exists_getElem?_cons_false
              rw [hnone]
              exact ih (Nat.lt_of_succ_lt_succ hc)

/-! ## Rows one after another -/

theorem getElem?_flatten_of_forall {α : Type} {n : Nat} {ls : List (List α)}
    (h : ∀ l ∈ ls, l.length = n) {r c : Nat} (hc : c < n) :
    ls.flatten[r * n + c]? = ls[r]?.bind (·[c]?) := by
  induction ls generalizing r with
  | nil => rfl
  | cons l ls ih =>
      have hl : l.length = n := h l List.mem_cons_self
      rw [List.flatten_cons]
      cases r with
      | zero =>
          rw [Nat.zero_mul, Nat.zero_add, List.getElem?_append_left (hl ▸ hc)]
          rfl
      | succ r =>
          have hplace : (r + 1) * n + c = n + (r * n + c) := by
            rw [Nat.succ_mul, Nat.add_comm (r * n), Nat.add_assoc]
          rw [hplace, List.getElem?_append_right (hl ▸ Nat.le_add_right ..), hl,
            Nat.add_sub_cancel_left]
          exact ih fun l hl => h l (List.mem_cons_of_mem _ hl)

theorem getElem?_runs {α : Type} {width count : Nat} {l : List α} {r : Nat} (hr : r < count) :
    (runs width count l)[r]? = some ((l.drop (r * width)).take width) := by
  induction count generalizing l r with
  | zero => cases hr
  | succ count ih =>
      cases r with
      | zero => simp [runs]
      | succ r =>
          have hplace : width + r * width = (r + 1) * width := by rw [Nat.succ_mul, Nat.add_comm]
          rw [runs, List.getElem?_cons_succ, ih (Nat.lt_of_succ_lt_succ hr), List.drop_drop, hplace]

/-- What is not the padding of a list stands in the list itself. -/
theorem getElem?_padded {α : Type} {a v : α} (hv : v ≠ a) {l : List α} {before after i : Nat} :
    (List.replicate before a ++ l ++ List.replicate after a)[i]? = some v ↔
      before ≤ i ∧ l[i - before]? = some v := by
  have hpadding : ∀ n j : Nat, (List.replicate n a)[j]? ≠ some v := by
    intro n j h
    exact hv (List.eq_of_mem_replicate (List.mem_of_getElem? h))
  rw [List.append_assoc]
  by_cases hi : i < before
  · rw [List.getElem?_append_left (by simpa using hi)]
    exact iff_of_false (hpadding _ _) fun h => Nat.not_le.mpr hi h.1
  · rw [List.getElem?_append_right (by simpa using hi), List.length_replicate]
    have hle : before ≤ i := Nat.not_lt.mp hi
    by_cases hl : i - before < l.length
    · rw [List.getElem?_append_left hl]
      exact (and_iff_right hle).symm
    · rw [List.getElem?_append_right (Nat.not_lt.mp hl)]
      refine iff_of_false (hpadding _ _) fun h => ?_
      rw [List.getElem?_eq_none (Nat.not_lt.mp hl)] at h
      cases h.2

namespace Bitmap

variable {b : Bitmap} {role : Option Role} {row : List Bool} {c r : Nat}

/-! ## Where a pixel comes to lie -/

theorem lt_of_row (hrow : b.rows[r]? = some row) : 0 < b.width ∧ r < b.height := by
  obtain ⟨hr, -⟩ := List.getElem?_eq_some_iff.mp hrow
  rw [length_rows] at hr
  split at hr
  · cases hr
  · exact ⟨Nat.pos_of_ne_zero ‹_›, hr⟩

theorem getElem?_row (hrow : b.rows[r]? = some row) : row[c]? = some true ↔ b.HasPixel c r := by
  obtain ⟨hwidth, hr⟩ := lt_of_row hrow
  rw [rows, if_neg (Nat.ne_of_gt hwidth), getElem?_runs hr, Option.some_inj] at hrow
  rw [← hrow, HasPixel, List.getElem?_take]
  by_cases hc : c < b.width
  · rw [if_pos hc, List.getElem?_drop]
    exact ⟨fun h => ⟨hc, hr, h⟩, fun h => h.2.2⟩
  · rw [if_neg hc]
    exact iff_of_false (Option.some_ne_none true).symm fun h => hc h.1

/-- A row of the frame that shows a row of the bitmap has the set pixels of that row. -/
theorem getElem?_framedRow (h : b.Fits) (hrow : b.rows[r]? = some row) :
    (b.framedRow row)[c]? = some true ↔ b.IsSet c (b.y + r) := by
  obtain ⟨hx, -, -, -⟩ := h
  rw [framedRow, getElem?_padded (by decide), getElem?_row hrow]
  constructor
  · rintro ⟨hle, hset⟩
    exact ⟨c - b.x.toNat, r, hset, by omega, rfl⟩
  · rintro ⟨i, j, hset, hc, hr⟩
    obtain rfl : i = c - b.x.toNat := by omega
    obtain rfl : j = r := by omega
    exact ⟨by omega, hset⟩

theorem row_of_isSet {c r : Int} (h : b.IsSet c r) :
    0 < b.width ∧ b.y ≤ r ∧ r < b.y + b.height := by
  obtain ⟨i, j, ⟨hi, hj, -⟩, -, rfl⟩ := h
  omega

/-! ## The rows of the frame -/

theorem getElem?_fill (hc : c < row.length) :
    (Role.fill role row)[c]? = some true ↔
      match role with
      | some .opening => ∃ c' ≤ c, row[c']? = some true
      | some .closing => row[c]? = some true ∨ ∀ c' ≤ c, row[c']? ≠ some true
      | _ => row[c]? = some true := by
  unfold Role.fill
  split
  · exact getElem?_fillFromFirst hc
  · exact getElem?_fillToFirst hc
  · split
    · contradiction
    · contradiction
    · rfl

/-- The cell in column `c` and row `r` of the frame is set when the bitmap is drawn in it. The
opening glyph is set from the first set pixel of the row on; the closing glyph is set up to it, in
the rows of the bitmap, if it has columns at all. -/
def Shows (b : Bitmap) (role : Option Role) (c r : Nat) : Prop :=
  match role with
  | some .opening => ∃ c' ≤ c, b.IsSet c' r
  | some .closing =>
    0 < b.width ∧ b.y ≤ r ∧ r < b.y + b.height ∧ (b.IsSet c r ∨ ∀ c' ≤ c, ¬b.IsSet c' r)
  | _ => b.IsSet c r

theorem length_framedRow (h : b.Fits) (hrow : row.length = b.width) :
    (b.framedRow row).length = frameWidth := by
  obtain ⟨hx, hw, -, -⟩ := h
  simp only [framedRow, List.length_append, List.length_replicate, hrow]
  omega

theorem shows_of_row (h : b.Fits) (hrow : b.rows[r]? = some row) (hc : c < frameWidth) :
    (Role.fill role (b.framedRow row))[c]? = some true ↔ b.Shows role c (b.y.toNat + r) := by
  have hplace : ((b.y.toNat + r : Nat) : Int) = b.y + r := by
    obtain ⟨-, -, hy, -⟩ := h
    omega
  obtain ⟨hwidth, hr⟩ := lt_of_row hrow
  have hbounds : b.y ≤ b.y + r ∧ b.y + r < b.y + b.height := by omega
  have hlength := length_framedRow h (length_of_mem_rows (List.mem_of_getElem? hrow))
  rw [getElem?_fill (hlength ▸ hc)]
  unfold Shows
  simp only [hplace, ne_eq, getElem?_framedRow h hrow]
  split
  · rfl
  · exact ⟨fun hshown => ⟨hwidth, hbounds.1, hbounds.2, hshown⟩, fun hshown => hshown.2.2.2⟩
  · rfl

/-- Nothing is shown but in the rows of the bitmap. -/
theorem row_of_shows (h : b.Shows role c r) : 0 < b.width ∧ b.y ≤ r ∧ r < b.y + b.height := by
  unfold Shows at h
  split at h
  · obtain ⟨c', -, hset⟩ := h
    exact row_of_isSet hset
  · obtain ⟨hwidth, hfirst, hlast, -⟩ := h
    exact ⟨hwidth, hfirst, hlast⟩
  · exact row_of_isSet h

/-- A row of the frame with a set cell is a filled row of the bitmap. -/
theorem getElem?_framedRows {cells : List Bool} (hset : cells[c]? = some true) :
    (b.framedRows role)[r]? = some cells ↔
      b.y.toNat ≤ r ∧ ∃ row, b.rows[r - b.y.toNat]? = some row ∧
        Role.fill role (b.framedRow row) = cells := by
  -- the rows above and below are blank, so the set cell is in none of them.
  have hcells : cells ≠ blankRow := by
    rintro rfl
    cases List.eq_of_mem_replicate (List.mem_of_getElem? hset)
  rw [framedRows, getElem?_padded hcells, List.getElem?_map, Option.map_eq_some_iff]

/-- The cells of the frame, row by row. -/
theorem getElem?_flatten_framedRows (h : b.Fits) (hc : c < frameWidth) :
    (b.framedRows role).flatten[r * frameWidth + c]? = some true ↔ b.Shows role c r := by
  rw [getElem?_flatten_of_forall (fun _ => length_of_mem_framedRows h) hc, Option.bind_eq_some_iff]
  constructor
  · rintro ⟨cells, hcells, hset⟩
    obtain ⟨hle, row, hrow, rfl⟩ := (getElem?_framedRows hset).mp hcells
    rwa [shows_of_row h hrow hc, Nat.add_sub_of_le hle] at hset
  · intro hshown
    obtain ⟨hwidth, hfirst, hlast⟩ := row_of_shows hshown
    have hle : b.y.toNat ≤ r := by omega
    obtain ⟨row, hrow⟩ : ∃ row, b.rows[r - b.y.toNat]? = some row := by
      have hlength : r - b.y.toNat < b.rows.length := by
        rw [length_rows, if_neg (Nat.ne_of_gt hwidth)]
        omega
      exact ⟨_, List.getElem?_eq_getElem hlength⟩
    have hset : (Role.fill role (b.framedRow row))[c]? = some true := by
      rwa [shows_of_row h hrow hc, Nat.add_sub_of_le hle]
    exact ⟨_, (getElem?_framedRows hset).mpr ⟨hle, row, hrow, rfl⟩, hset⟩

/-- The frame around a bitmap without columns is blank. -/
theorem flatten_framedRows_of_no_columns (h : b.Fits) (hwidth : b.width = 0) :
    (b.framedRows role).flatten = List.replicate (frameWidth * frameHeight) false := by
  have hrows : b.rows = [] := if_pos hwidth
  rw [← length_flatten_framedRows h role]
  simp only [framedRows, hrows, List.map_nil, List.append_nil, blankRow,
    List.flatten_replicate_replicate, List.replicate_append_replicate, List.length_replicate]

/-- The frame around a bitmap that fits. -/
def framed (b : Bitmap) (h : b.Fits) (role : Option Role) : Bitmap where
  width := frameWidth
  height := frameHeight
  x := 0
  y := 0
  pixels := (b.framedRows role).flatten
  covers := length_flatten_framedRows h role

theorem frame_of_fits (h : b.Fits) (name : String) (role : Option Role) :
    b.frame name role = .ok (b.framed h role) := dif_pos h

theorem frame_of_not_fits (h : ¬b.Fits) (name : String) (role : Option Role) :
    b.frame name role = .error (.frameOverflow name b.width b.height b.x b.y) := dif_neg h

end Bitmap

end Gridface
