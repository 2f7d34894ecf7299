import Gridface.Numbering
import Mathlib.Data.Nat.Nth

/-!
# The free ids in order

The ids that are left when some are taken, counted from the smallest on. There is always another
one, but only so many up to the greatest id that a font allows.
-/

namespace Gridface

/-- The id is positive and not one of those that are taken. -/
def IsFree (taken : List Nat) (id : Nat) : Prop := 0 < id ∧ id ∉ taken

instance (taken : List Nat) : DecidablePred (IsFree taken) :=
  fun id => inferInstanceAs (Decidable (0 < id ∧ id ∉ taken))

/-- The free id that has `k` free ids below it. -/
noncomputable def nthFree (taken : List Nat) (k : Nat) : Nat := Nat.nth (IsFree taken) k

variable {taken : List Nat}

theorem infinite_isFree (taken : List Nat) : (Set.ofPred (IsFree taken)).Infinite := by
  have hcompl : Set.ofPred (IsFree taken) = (↑(insert 0 taken.toFinset) : Set Nat)ᶜ := by
    ext id
    simp [IsFree, Nat.pos_iff_ne_zero]
  rw [hcompl]
  exact (Finset.finite_toSet _).infinite_compl

theorem isFree_nthFree (taken : List Nat) (k : Nat) : IsFree taken (nthFree taken k) :=
  Nat.nth_mem_of_infinite (infinite_isFree taken) k

theorem nthFree_injective (taken : List Nat) : Function.Injective (nthFree taken) :=
  Nat.nth_injective (infinite_isFree taken)

theorem nthFree_le_nthFree {j k : Nat} (h : j ≤ k) : nthFree taken j ≤ nthFree taken k :=
  (Nat.nth_strictMono (infinite_isFree taken)).monotone h

theorem exists_nthFree_eq {id : Nat} (h : IsFree taken id) : ∃ k, nthFree taken k = id :=
  ⟨Nat.count (IsFree taken) id, Nat.nth_count h⟩

/-- With nothing taken the ids are counted from 1 on. -/
theorem nthFree_nil (k : Nat) : nthFree [] k = k + 1 := by
  have hcount : Nat.count (IsFree []) (k + 1) = k := by
    induction k with
    | zero => simp [Nat.count_succ, IsFree]
    | succ k ih =>
        rw [Nat.count_succ, ih]
        simp [IsFree]
  have hfree : IsFree [] (k + 1) := ⟨Nat.succ_pos k, List.not_mem_nil⟩
  have hnth : Nat.nth (IsFree []) (Nat.count (IsFree []) (k + 1)) = k + 1 := Nat.nth_count hfree
  rwa [hcount] at hnth

/-- Each id that is taken leaves one less up to a bound. -/
theorem nthFree_le_iff (hnodup : taken.Nodup) {bound : Nat}
    (hrange : ∀ id ∈ taken, 0 < id ∧ id ≤ bound) (k : Nat) :
    nthFree taken k ≤ bound ↔ k < bound - taken.length := by
  have hcount : Nat.count (IsFree taken) (bound + 1) = bound - taken.length := by
    have hset : {id ∈ Finset.range (bound + 1) | IsFree taken id} =
        Finset.Icc 1 bound \ taken.toFinset := by
      ext id
      rw [Finset.mem_filter, Finset.mem_range, Finset.mem_sdiff, Finset.mem_Icc, List.mem_toFinset]
      constructor
      · rintro ⟨hlt, hpos, hfree⟩
        exact ⟨⟨hpos, Nat.le_of_lt_succ hlt⟩, hfree⟩
      · rintro ⟨⟨hpos, hle⟩, hfree⟩
        exact ⟨Nat.lt_succ_of_le hle, hpos, hfree⟩
    have hsub : taken.toFinset ⊆ Finset.Icc 1 bound := by
      intro id hid
      exact Finset.mem_Icc.mpr (hrange id (List.mem_toFinset.mp hid))
    rw [Nat.count_eq_card_filter_range, hset, Finset.card_sdiff_of_subset hsub, Nat.card_Icc,
      List.toFinset_card_of_nodup hnodup, Nat.add_sub_cancel]
  rw [← Nat.lt_succ_iff, ← hcount]
  exact (Nat.lt_nth_iff_count_lt (infinite_isFree taken)).symm

end Gridface
