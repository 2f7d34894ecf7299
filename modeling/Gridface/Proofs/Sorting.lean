import Mathlib.Data.List.Sort

/-!
# Sorting by a number

Lists that are sorted by a number of their members: what comes of it for neighbours, and what stays
as it was.
-/

namespace Gridface

variable {α : Type} {le : α → α → Bool} {p : α → Bool} {l : List α}

theorem pairwise_le_mergeSort (f : α → Nat) (l : List α) :
    (l.mergeSort fun a b => f a ≤ f b).Pairwise fun a b => f a ≤ f b := by
  have htrans : ∀ a b c, decide (f a ≤ f b) = true → decide (f b ≤ f c) = true →
      decide (f a ≤ f c) = true := by
    intro a b c hab hbc
    rw [decide_eq_true_eq] at hab hbc ⊢
    exact Nat.le_trans hab hbc
  have htotal : ∀ a b, (decide (f a ≤ f b) || decide (f b ≤ f a)) = true := by
    intro a b
    rw [Bool.or_eq_true, decide_eq_true_eq, decide_eq_true_eq]
    exact Nat.le_total (f a) (f b)
  simpa using List.pairwise_mergeSort htrans htotal l

theorem pairwise_ge_mergeSort (f : α → Nat) (l : List α) :
    (l.mergeSort fun a b => f b ≤ f a).Pairwise fun a b => f b ≤ f a := by
  have htrans : ∀ a b c, decide (f b ≤ f a) = true → decide (f c ≤ f b) = true →
      decide (f c ≤ f a) = true := by
    intro a b c hab hbc
    rw [decide_eq_true_eq] at hab hbc ⊢
    exact Nat.le_trans hbc hab
  have htotal : ∀ a b, (decide (f b ≤ f a) || decide (f a ≤ f b)) = true := by
    intro a b
    rw [Bool.or_eq_true, decide_eq_true_eq, decide_eq_true_eq]
    exact Nat.le_total (f b) (f a)
  simpa using List.pairwise_mergeSort htrans htotal l

/-- Members that have a number each are sorted strictly. -/
theorem pairwise_lt_mergeSort {f : α → Nat} (hnodup : (l.map f).Nodup) :
    (l.mergeSort fun a b => f a ≤ f b).Pairwise fun a b => f a < f b := by
  have hne : (l.mergeSort fun a b => f a ≤ f b).Pairwise fun a b => f a ≠ f b :=
    List.pairwise_map.mp (((List.mergeSort_perm l _).map f).nodup_iff.mpr hnodup)
  exact ((pairwise_le_mergeSort f l).and hne).imp fun h => Nat.lt_of_le_of_ne h.1 h.2

/-- Only what is in a list counts for its sorting, if the members have a number each. -/
theorem mergeSort_eq_of_perm {f : α → Nat} {l' : List α} (hperm : l.Perm l')
    (hnodup : (l.map f).Nodup) :
    (l.mergeSort fun a b => f a ≤ f b) = l'.mergeSort fun a b => f a ≤ f b := by
  have hnodup' : (l'.map f).Nodup := (hperm.map f).nodup_iff.mp hnodup
  refine List.Perm.eq_of_pairwise (fun a b _ _ hab hba => ?_) (pairwise_lt_mergeSort hnodup)
    (pairwise_lt_mergeSort hnodup') ?_
  · exact absurd hba (Nat.lt_asymm hab)
  · exact (List.mergeSort_perm l _).trans (hperm.trans (List.mergeSort_perm l' _).symm)

/-- Members that need not change places keep their order. -/
theorem filter_mergeSort (htrans : ∀ a b c, le a b = true → le b c = true → le a c = true)
    (htotal : ∀ a b, (le a b || le b a) = true)
    (hle : (l.filter p).Pairwise fun a b => le a b = true) :
    (l.mergeSort le).filter p = l.filter p := by
  have hsub : (l.filter p).Sublist (l.mergeSort le) :=
    List.sublist_mergeSort htrans htotal hle List.filter_sublist
  have hkept : (l.filter p).Sublist ((l.mergeSort le).filter p) := by
    have h := hsub.filter p
    rwa [List.filter_filter, funext fun a => Bool.and_self (p a)] at h
  exact (hkept.eq_of_length ((List.mergeSort_perm l le).filter p).length_eq.symm).symm

end Gridface
