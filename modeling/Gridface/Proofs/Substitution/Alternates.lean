import Gridface.Proofs.Substitution.Builders
import Gridface.Substitution.Lookups

/-!
# Alternate lookups

Of the alternates of one source a lookup keeps the last. Its items ascend by source.
-/

namespace Gridface.Alternate

variable {store : Builder Alternate} {a b : Alternate} {as placed seen : List Alternate}

/-! ## One alternate for each source -/

/-- Ascending by source, so with one alternate for each. -/
def Ascending (as : List Alternate) : Prop := as.Pairwise fun a b => a.source < b.source

theorem mem_put (h : Ascending as) : b ∈ put a as ↔ b = a ∨ b ∈ as ∧ b.source ≠ a.source := by
  induction as with
  | nil => simp [put]
  | cons c cs ih =>
      obtain ⟨hc, hcs⟩ := List.pairwise_cons.mp h
      unfold put
      split
      · rename_i hlt
        have hlater : ∀ d ∈ c :: cs, d.source ≠ a.source := by
          refine List.forall_mem_cons.mpr ⟨Nat.ne_of_gt hlt, fun d hd => ?_⟩
          exact Nat.ne_of_gt (Nat.lt_trans hlt (hc d hd))
        rw [List.mem_cons]
        exact or_congr_right (and_iff_left_of_imp (hlater b)).symm
      · split
        · rename_i hsame
          have hlater : ∀ d ∈ cs, d.source ≠ a.source := by
            intro d hd
            rw [hsame]
            exact Nat.ne_of_gt (hc d hd)
          rw [List.mem_cons, List.mem_cons]
          refine or_congr_right ⟨fun hb => ⟨.inr hb, hlater b hb⟩, ?_⟩
          rintro ⟨rfl | hb, hne⟩
          · exact absurd hsame.symm hne
          · exact hb
        · rename_i hne
          rw [List.mem_cons, ih hcs, List.mem_cons, or_left_comm, or_and_right]
          refine or_congr_right (or_congr_left (and_iff_left_of_imp ?_).symm)
          rintro rfl
          exact Ne.symm hne

theorem ascending_put (h : Ascending as) : Ascending (put a as) := by
  induction as with
  | nil => exact List.pairwise_singleton _ a
  | cons c cs ih =>
      obtain ⟨hc, hcs⟩ := List.pairwise_cons.mp h
      unfold put
      split
      · rename_i hlt
        refine List.pairwise_cons.mpr ⟨List.forall_mem_cons.mpr ⟨hlt, fun d hd => ?_⟩, h⟩
        exact Nat.lt_trans hlt (hc d hd)
      · split
        · rename_i hsame
          exact List.pairwise_cons.mpr ⟨fun d hd => hsame ▸ hc d hd, hcs⟩
        · rename_i hle hne
          refine List.pairwise_cons.mpr ⟨fun d hd => ?_, ih hcs⟩
          rcases (mem_put hcs).mp hd with rfl | ⟨hd, -⟩
          · exact Nat.lt_of_le_of_ne (Nat.le_of_not_lt hle) (Ne.symm hne)
          · exact hc d hd

/-! ## The last record of a source -/

/-- The alternate is the last one of its source. -/
def IsLast (a : Alternate) (as : List Alternate) : Prop :=
  as.findRev? (·.source == a.source) = some a

theorem isLast_concat : b.IsLast (as ++ [a]) ↔ b = a ∨ b.IsLast as ∧ b.source ≠ a.source := by
  rw [IsLast, IsLast, findRev?_concat]
  by_cases hsame : a.source = b.source
  · rw [beq_iff_eq.mpr hsame, if_pos rfl, Option.some_inj, eq_comm]
    exact (or_iff_left fun h => h.2 hsame.symm).symm
  · rw [beq_false_of_ne hsame, if_neg Bool.false_ne_true]
    constructor
    · exact fun h => .inr ⟨h, Ne.symm hsame⟩
    · rintro (rfl | h)
      · exact absurd rfl hsame
      · exact h.1

theorem IsLast.mem (h : a.IsLast as) : a ∈ as := by
  rw [IsLast, List.findRev?_eq_find?_reverse] at h
  exact List.mem_reverse.mp (List.mem_of_find?_eq_some h)

theorem exists_isLast (h : a ∈ as) : ∃ b : Alternate, b.IsLast as ∧ b.source = a.source := by
  have hsome : (as.findRev? (·.source == a.source)).isSome := by
    rw [List.findRev?_eq_find?_reverse]
    exact List.find?_isSome.mpr ⟨a, List.mem_reverse.mpr h, beq_iff_eq.mpr rfl⟩
  obtain ⟨b, hb⟩ := Option.isSome_iff_exists.mp hsome
  have hsame : b.source = a.source := by
    rw [List.findRev?_eq_find?_reverse] at hb
    simpa using List.find?_some hb
  refine ⟨b, ?_, hsame⟩
  rw [IsLast, hsame]
  exact hb

/-- What is placed is the last record of each source among those seen. -/
structure Latest (placed seen : List Alternate) : Prop where
  ascending : Ascending placed
  mem_iff : ∀ b, b ∈ placed ↔ b.IsLast seen

theorem latest_nil : Latest [] [] :=
  ⟨List.Pairwise.nil, fun _ => iff_of_false List.not_mem_nil nofun⟩

theorem Latest.put (h : Latest placed seen) (a : Alternate) :
    Latest (put a placed) (seen ++ [a]) := by
  refine ⟨ascending_put h.ascending, fun b => ?_⟩
  rw [mem_put h.ascending, isLast_concat, h.mem_iff]

theorem LawfulBuilder.latest (h : LawfulBuilder store) (seen : List Alternate) :
    Latest (store.build (store.after seen)) seen := by
  induction seen using List.reverseRecOn with
  | nil =>
      rw [h.build_nil]
      exact latest_nil
  | append_singleton seen a ih =>
      rw [h.build_concat]
      exact ih.put a

/-! ## The items of a lookup -/

theorem addAll_fst (store : Builder Alternate) (seen as : List Alternate) :
    (addAll store (store.after seen) as).1 = store.after (seen ++ as) := by
  induction as generalizing seen with
  | nil => exact congrArg store.after (List.append_nil seen).symm
  | cons a as ih =>
      rw [List.append_cons, ← ih, store.after_concat]
      rfl

theorem LawfulBuilder.latest_items (h : LawfulBuilder store) (as : List Alternate) :
    Latest (items store as).1 as := by
  have hitems : (items store as).1 = store.build (addAll store (store.after []) as).1 := rfl
  rw [hitems, addAll_fst]
  exact h.latest as

theorem LawfulBuilder.items_eq_nil_iff (h : LawfulBuilder store) :
    (items store as).1 = [] ↔ as = [] := by
  have hlatest := h.latest_items as
  constructor
  · intro hitems
    rw [List.eq_nil_iff_forall_not_mem]
    intro a ha
    obtain ⟨c, hc, -⟩ := exists_isLast ha
    have hmem := (hlatest.mem_iff c).mpr hc
    rw [hitems] at hmem
    cases hmem
  · rintro rfl
    rw [List.eq_nil_iff_forall_not_mem]
    exact fun a ha => nomatch ((hlatest.mem_iff a).mp ha).mem

end Gridface.Alternate
