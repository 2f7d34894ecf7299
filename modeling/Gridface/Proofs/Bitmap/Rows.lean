import Gridface.Proofs.Cartouche.Cells
import Gridface.Proofs.Checked

/-!
# Rows and set pixels

The pixels of a bitmap are gone through in two ways: cut into rows, and by the places of those that
are set, which are told from their indices by division. Both go through the same grid, and each
gives the pixels back.
-/

namespace Gridface

/-! ## Cutting a list -/

/-- A list in parts of the given size, one after the other; the last part may be shorter. Parts
without members cannot be cut off. -/
def cut? {α : Type} (size : Nat) (l : List α) : Option (List (List α)) :=
  if size = 0 then none
  else if l.isEmpty then some []
  else (cut? size (l.drop size)).map (l.take size :: ·)
termination_by l.length
decreasing_by
  rename_i hsize hl
  rw [List.isEmpty_iff] at hl
  have hpos : 0 < l.length := List.length_pos_of_ne_nil hl
  rw [List.length_drop]
  omega

/-- What is left behind the first run is as long as the other runs. -/
theorem length_drop_run {α : Type} {width count : Nat} {l : List α}
    (h : l.length = width * (count + 1)) : (l.drop width).length = width * count := by
  rw [List.length_drop, h, Nat.mul_succ, Nat.add_sub_cancel]

theorem cut?_eq_runs {α : Type} {size count : Nat} {l : List α} (hsize : 0 < size)
    (h : l.length = size * count) : cut? size l = some (runs size count l) := by
  induction count generalizing l with
  | zero =>
      obtain rfl : l = [] := List.length_eq_zero_iff.mp h
      rw [cut?, if_neg (Nat.ne_of_gt hsize)]
      rfl
  | succ count ih =>
      have hpos : 0 < l.length := h ▸ Nat.mul_pos hsize count.succ_pos
      have hempty : l.isEmpty = false :=
        List.isEmpty_eq_false_iff.mpr (List.ne_nil_of_length_pos hpos)
      rw [cut?, if_neg (Nat.ne_of_gt hsize), hempty, ih (length_drop_run h)]
      rfl

theorem flatten_runs {α : Type} {width count : Nat} {l : List α} (h : l.length = width * count) :
    (runs width count l).flatten = l := by
  induction count generalizing l with
  | zero => exact (List.length_eq_zero_iff.mp h).symm
  | succ count ih =>
      rw [runs, List.flatten_cons, ih (length_drop_run h), List.take_append_drop]

/-! ## Places in 32 bits -/

/-- The column and the row of each set pixel: what is left of its index after division by the width,
and the quotient. A division by zero is refused. -/
def places? (width : UInt32) (pixels : List Bool) : Option (List (UInt32 × UInt32)) :=
  (Bitmap.setIndices pixels).mapM fun i => do
    return (← Checked.mod i width, ← Checked.div i width)

/-- There is no division without columns, since there are no pixels. -/
theorem places?_eq_some {width : UInt32} {height : Nat} {pixels : List Bool}
    (hcovers : pixels.length = width.toNat * height) :
    ∃ places, places? width pixels = some places ∧
      places.map (fun p => (p.1.toNat, p.2.toNat)) =
        (Bitmap.setIndices pixels).map fun i => (i.toNat % width.toNat, i.toNat / width.toNat) := by
  by_cases hwidth : width = 0
  · have hnil : pixels = [] := by
      rw [hwidth] at hcovers
      exact List.length_eq_zero_iff.mp (hcovers.trans (Nat.zero_mul height))
    rw [hnil]
    exact ⟨[], rfl, rfl⟩
  · have hplaces : places? width pixels =
        some ((Bitmap.setIndices pixels).map fun i => (i % width, i / width)) := by
      simp only [places?, Checked.mod_eq_some hwidth, Checked.div_eq_some hwidth]
      exact List.mapM_pure
    refine ⟨_, hplaces, ?_⟩
    simp only [List.map_map, Function.comp_def, UInt32.toNat_mod, UInt32.toNat_div]

/-! ## Drawing the set pixels -/

/-- The pixels of a blank grid on which the given places have been set, one after the other. -/
def drawnAt (width height : Nat) (places : List (Nat × Nat)) : List Bool :=
  places.foldl (fun pixels p => pixels.set (p.2 * width + p.1) true)
    (List.replicate (width * height) false)

theorem length_foldl_set {width : Nat} (places : List (Nat × Nat)) (pixels : List Bool) :
    (places.foldl (fun pixels p => pixels.set (p.2 * width + p.1) true) pixels).length =
      pixels.length := by
  induction places generalizing pixels with
  | nil => rfl
  | cons p places ih => rw [List.foldl_cons, ih, List.length_set]

/-- Set are the pixels that were set before, and those at the places. -/
theorem getElem?_foldl_set {width i : Nat} {places : List (Nat × Nat)} {pixels : List Bool}
    (hi : i < pixels.length) :
    (places.foldl (fun pixels p => pixels.set (p.2 * width + p.1) true) pixels)[i]? = some true ↔
      pixels[i]? = some true ∨ ∃ p ∈ places, p.2 * width + p.1 = i := by
  induction places generalizing pixels with
  | nil => simp
  | cons p places ih =>
      rw [List.foldl_cons, ih (by rwa [List.length_set]), List.getElem?_set]
      simp only [List.mem_cons, exists_eq_or_imp]
      by_cases hp : p.2 * width + p.1 = i
      · simp [hp, hi]
      · simp [hp]

theorem eq_of_set_iff {l l' : List Bool} (hlength : l.length = l'.length)
    (h : ∀ i < l.length, l[i]? = some true ↔ l'[i]? = some true) : l = l' := by
  refine List.ext_getElem hlength fun i hi hi' => ?_
  have hset := h i hi
  rw [List.getElem?_eq_getElem hi, List.getElem?_eq_getElem hi', Option.some_inj,
    Option.some_inj] at hset
  exact Bool.eq_iff_iff.mpr hset

namespace Bitmap

variable {b : Bitmap}

theorem drawnAt_filled (h : b.IsIndexed) :
    drawnAt b.width b.height b.filled = b.pixels := by
  have hlength : (drawnAt b.width b.height b.filled).length = b.pixels.length := by
    rw [drawnAt, length_foldl_set, List.length_replicate, b.covers]
  refine eq_of_set_iff hlength fun i hi => ?_
  have hblank : (List.replicate (b.width * b.height) false)[i]? ≠ some true := by
    intro h
    cases List.eq_of_mem_replicate (List.mem_of_getElem? h)
  rw [hlength] at hi
  rw [drawnAt, getElem?_foldl_set (by rwa [List.length_replicate, ← b.covers]),
    or_iff_right hblank]
  constructor
  · rintro ⟨⟨x, y⟩, hp, rfl⟩
    exact ((mem_filled_iff h).mp hp).2.2
  · intro hset
    obtain ⟨hx, hy⟩ := place_lt hi
    have hplace : i / b.width * b.width + i % b.width = i := Nat.div_add_mod' i b.width
    exact ⟨(i % b.width, i / b.width), (mem_filled_iff h).mpr ⟨hx, hy, hplace.symm ▸ hset⟩, hplace⟩

/-- A grid without columns has no pixels. -/
theorem pixels_eq_nil (h : b.width = 0) : b.pixels = [] := by
  rw [← List.length_eq_zero_iff, b.covers, h, Nat.zero_mul]

theorem flatten_rows (b : Bitmap) : b.rows.flatten = b.pixels := by
  unfold rows
  split
  · rename_i hwidth
    exact (pixels_eq_nil hwidth).symm
  · exact flatten_runs b.covers

/-- Cut into parts as wide as the grid, or one pixel wide if it has no columns, the pixels make its
rows. -/
theorem cut?_pixels (b : Bitmap) : cut? (max b.width 1) b.pixels = some b.rows := by
  unfold rows
  split
  · rename_i hwidth
    have hnil : b.pixels.length = 1 * 0 := congrArg List.length (pixels_eq_nil hwidth)
    rw [hwidth]
    exact cut?_eq_runs Nat.one_pos hnil
  · rename_i hwidth
    have hpos : 0 < b.width := Nat.pos_of_ne_zero hwidth
    rw [Nat.max_eq_left hpos]
    exact cut?_eq_runs hpos b.covers

theorem hasPixel_iff_row {x y : Nat} :
    b.HasPixel x y ↔ ∃ row, b.rows[y]? = some row ∧ row[x]? = some true := by
  constructor
  · intro h
    have hy : y < b.rows.length := by
      rw [length_rows, if_neg (Nat.ne_of_gt (Nat.zero_lt_of_lt h.1))]
      exact h.2.1
    exact ⟨_, List.getElem?_eq_getElem hy, (getElem?_row (List.getElem?_eq_getElem hy)).mpr h⟩
  · rintro ⟨row, hrow, hset⟩
    exact (getElem?_row hrow).mp hset

theorem nodup_filled (h : b.IsIndexed) : b.filled.Nodup := by
  refine (pairwise_filled h).imp fun {p q} hbefore he => ?_
  rcases hbefore with hrow | ⟨-, hcolumn⟩
  · exact Nat.ne_of_lt hrow (congrArg Prod.snd he)
  · exact Nat.ne_of_lt hcolumn (congrArg Prod.fst he)

/-! ## A bitmap that is accepted -/

theorem ofPixels?_eq_ok {name : String} {width height : Nat} {x y : Int} {pixels : List Bool} :
    ofPixels? name width height x y pixels = .ok b ↔
      b.width = width ∧ b.height = height ∧ b.x = x ∧ b.y = y ∧ b.pixels = pixels := by
  unfold ofPixels?
  split
  · rw [Except.ok.injEq, eq_comm, ← Bitmap.mk.injEq]
  · rename_i hcovers
    refine iff_of_false nofun ?_
    rintro ⟨rfl, rfl, -, -, rfl⟩
    exact hcovers b.covers

/-- Both ways to go through the pixels of an accepted bitmap come to an end without fail, in 32 bits
too if 32 bits count the pixels, and go through the same grid. The rows are as many and as wide as
the grid says, and joined they are the pixels. The places are those of the set pixels of the rows,
row by row and each once; set on a blank grid, they are the pixels. A grid without columns has
neither rows nor places. -/
theorem rows_and_filled {name : String} {width height : UInt32} {x y : Int32} {pixels : List Bool}
    (h : ofPixels? name width.toNat height.toNat x.toInt y.toInt pixels = .ok b)
    (hcount : pixels.length < UInt32.size) :
    cut? (max width.toNat 1) pixels = some b.rows ∧
      (∃ places, places? width pixels = some places ∧
        places.map (fun p => (p.1.toNat, p.2.toNat)) = b.filled) ∧
      (width = 0 → b.rows = [] ∧ b.filled = []) ∧
      (1 ≤ width → b.rows.length = height.toNat ∧ (∀ row ∈ b.rows, row.length = width.toNat) ∧
        b.rows.flatten = pixels) ∧
      (∀ c r, (c, r) ∈ b.filled ↔ c < width.toNat ∧ r < height.toNat ∧
        ∃ row, b.rows[r]? = some row ∧ row[c]? = some true) ∧
      b.filled.Pairwise Before ∧ b.filled.Nodup ∧
      drawnAt width.toNat height.toNat b.filled = pixels := by
  obtain ⟨hwidth, hheight, -, -, rfl⟩ := ofPixels?_eq_ok.mp h
  have hsize := isIndexed_of_length (b := b) (Nat.le_of_lt hcount)
  rw [← hwidth, ← hheight]
  refine ⟨b.cut?_pixels, ?_, fun hzero => ?_, fun hpos => ?_, fun c r => ?_, pairwise_filled hsize,
    nodup_filled hsize, drawnAt_filled hsize⟩
  · rw [filled, hwidth]
    exact places?_eq_some (hwidth ▸ b.covers)
  · have hcolumns : b.width = 0 := hwidth.trans (congrArg UInt32.toNat hzero)
    refine ⟨if_pos hcolumns, ?_⟩
    rw [filled, pixels_eq_nil hcolumns]
    rfl
  · have hcolumns : b.width ≠ 0 := by
      rw [hwidth]
      exact Nat.ne_of_gt (UInt32.le_iff_toNat_le.mp hpos)
    exact ⟨(length_rows b).trans (if_neg hcolumns), fun _ => length_of_mem_rows, b.flatten_rows⟩
  · rw [mem_filled_iff hsize, ← hasPixel_iff_row]
    exact ⟨fun h => ⟨h.1, h.2.1, h⟩, fun h => h.2.2⟩

/-- Two pixels in opposite corners. -/
def sampleCorners : Bitmap where
  width := 3
  height := 2
  x := 1
  y := 1
  pixels := [false, false, true, true, false, false]
  covers := rfl

/-- A grid that has rows but no columns. -/
def sampleNoColumns : Bitmap where
  width := 0
  height := 5
  x := 0
  y := 0
  pixels := []
  covers := (Nat.zero_mul 5).symm

theorem rows_and_filled_sampleGrids :
    (∃ places, places? 3 sampleCorners.pixels = some places ∧
      places.map (fun p => (p.1.toNat, p.2.toNat)) = [(2, 0), (0, 1)]) ∧
    cut? 3 sampleCorners.pixels = some [[false, false, true], [true, false, false]] ∧
    drawnAt 3 2 [(2, 0), (0, 1)] = sampleCorners.pixels ∧
    cut? 1 sampleNoColumns.pixels = some [] ∧ sampleNoColumns.filled = [] := by
  have hcorners : ofPixels? "x" (3 : UInt32).toNat (2 : UInt32).toNat (1 : Int32).toInt
      (1 : Int32).toInt sampleCorners.pixels = .ok sampleCorners := rfl
  have hnone : ofPixels? "x" (0 : UInt32).toNat (5 : UInt32).toNat (0 : Int32).toInt
      (0 : Int32).toInt sampleNoColumns.pixels = .ok sampleNoColumns := rfl
  obtain ⟨hcut, hplaces, -, -, -, -, -, hdrawn⟩ := rows_and_filled hcorners (by decide)
  obtain ⟨hcut', -, hempty, -⟩ := rows_and_filled hnone (by decide)
  obtain ⟨hrows, hfilled⟩ := hempty rfl
  exact ⟨hplaces, hcut, hdrawn, hrows ▸ hcut', hfilled⟩

end Bitmap

end Gridface
