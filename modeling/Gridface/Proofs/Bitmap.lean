import Gridface.Bitmap
import Mathlib.Data.List.Nodup
import Mathlib.Data.List.Pairwise

/-!
# Set pixels

The set pixels of a bitmap by column and row, and the order in which they are listed. All of this
holds as long as the indices of the set pixels have 32 bits.
-/

namespace Gridface.Bitmap

variable {b : Bitmap} {x y : Nat}

theorem place_lt {i : Nat} (h : i < b.pixels.length) :
    i % b.width < b.width ∧ i / b.width < b.height := by
  rw [b.covers] at h
  have hwidth : 0 < b.width := Nat.pos_of_ne_zero fun h0 => by simp [h0] at h
  exact ⟨Nat.mod_lt _ hwidth, Nat.div_lt_of_lt_mul h⟩

/-- The indices of the set pixels have 32 bits. -/
def IsIndexed (b : Bitmap) : Prop := ∀ i : Nat, b.pixels[i]? = some true → i < UInt32.size

theorem isIndexed_of_length (h : b.pixels.length ≤ UInt32.size) : b.IsIndexed := fun _ hset =>
  Nat.lt_of_lt_of_le (List.getElem?_eq_some_iff.mp hset).1 h

/-- The places are told from the indices as they are. -/
theorem filled_eq (h : b.IsIndexed) :
    b.filled = (b.pixels.zipIdx.filter (·.1)).map fun p => (p.2 % b.width, p.2 / b.width) := by
  rw [filled, setIndices, List.map_map]
  refine List.map_congr_left fun p hp => ?_
  obtain ⟨hmem, hset⟩ := List.mem_filter.mp hp
  rw [List.mem_zipIdx_iff_getElem?, show p.1 = true from hset] at hmem
  rw [Function.comp_apply, UInt32.toNat_ofNat_of_lt' (h p.2 hmem)]

theorem mem_filled_iff (h : b.IsIndexed) :
    (x, y) ∈ b.filled ↔ b.HasPixel x y := by
  rw [filled_eq h, HasPixel, List.mem_map]
  constructor
  · rintro ⟨⟨set, i⟩, hp, hplace⟩
    obtain ⟨hmem, hset⟩ := List.mem_filter.mp hp
    rw [List.mem_zipIdx_iff_getElem?] at hmem
    obtain ⟨rfl, rfl⟩ := Prod.mk.inj hplace
    obtain ⟨hx, hy⟩ := place_lt (List.getElem?_eq_some_iff.mp hmem).1
    refine ⟨hx, hy, ?_⟩
    rw [Nat.mul_comm, Nat.div_add_mod, hmem]
    exact congrArg some hset
  · rintro ⟨hx, hy, hset⟩
    refine ⟨(true, y * b.width + x), List.mem_filter.mpr ⟨?_, rfl⟩, Prod.ext ?_ ?_⟩
    · exact List.mem_zipIdx_iff_getElem?.mpr hset
    · exact Nat.mul_add_mod_of_lt hx
    · show (y * b.width + x) / b.width = y
      have hwidth : 0 < b.width := Nat.zero_lt_of_lt hx
      rw [Nat.mul_comm, Nat.mul_add_div hwidth, Nat.div_eq_of_lt hx, Nat.add_zero]

/-- What holds of each pixel of the grid that is set holds of the pixels listed. -/
theorem forall_filled (h : b.IsIndexed) {p : Nat × Nat → Prop}
    (hset : ∀ x y, b.HasPixel x y → p (x, y)) : ∀ q ∈ b.filled, p q :=
  fun q hq => hset q.1 q.2 ((mem_filled_iff h).mp hq)

/-- Pixels are listed row by row, and each row from the left. -/
def Before (p q : Nat × Nat) : Prop := p.2 < q.2 ∨ p.2 = q.2 ∧ p.1 < q.1

theorem pairwise_filled (h : b.IsIndexed) : b.filled.Pairwise Before := by
  rw [filled_eq h, List.pairwise_map]
  have hindices : b.pixels.zipIdx.Pairwise fun p q => p.2 < q.2 := by
    rw [← List.pairwise_map, List.zipIdx_map_snd]
    exact List.pairwise_lt_range' 1
  refine (hindices.sublist List.filter_sublist).imp fun {p q} hlt => ?_
  have hp := Nat.div_add_mod p.2 b.width
  have hq := Nat.div_add_mod q.2 b.width
  -- a later index is in a later row, or further on in the same one.
  have hrow : p.2 / b.width ≤ q.2 / b.width := Nat.div_le_div_right (Nat.le_of_lt hlt)
  rcases Nat.lt_or_eq_of_le hrow with hless | hsame
  · exact Or.inl hless
  · rw [hsame] at hp
    exact Or.inr ⟨hsame, by omega⟩

theorem length_filled (b : Bitmap) : b.filled.length = b.pixels.count true := by
  have hmap : b.pixels = b.pixels.zipIdx.map Prod.fst := (List.zipIdx_map_fst 0 b.pixels).symm
  rw [filled, setIndices, List.length_map, List.length_map, ← List.countP_eq_length_filter,
    List.count]
  conv_rhs => rw [hmap, List.countP_map]
  exact List.countP_congr fun p _ => by simp

end Gridface.Bitmap
