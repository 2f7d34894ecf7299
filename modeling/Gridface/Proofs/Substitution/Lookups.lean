import Gridface.Substitution.Lookups
import Mathlib.Data.List.Basic

/-!
# The lookups of a font

A font has a lookup for its ligatures, one for its alternates and one for the rules that apply the
alternates, in this order and each only if it has something to hold.
-/

namespace Gridface

/-! ## Rules that can apply -/

/-- There is a glyph to apply the rule to, and one for every place before and after it. -/
def ContextRule.CanApply (r : ContextRule) : Prop :=
  (∃ id, id ∈ r.input) ∧ ∀ s ∈ r.backtrack ++ r.lookahead, ∃ id, id ∈ s

theorem GlyphSet.isEmpty_eq_false_iff {s : GlyphSet} : s.isEmpty = false ↔ ∃ id, id ∈ s := by
  cases s with
  | mk ids ascending =>
      cases ids with
      | nil => exact iff_of_false Bool.noConfusion fun ⟨_, hid⟩ => List.not_mem_nil hid
      | cons id ids => exact iff_of_true rfl ⟨id, List.mem_cons_self⟩

theorem ContextRule.applies_iff {r : ContextRule} : r.applies = true ↔ r.CanApply := by
  rw [applies, CanApply, Bool.and_eq_true, List.all_eq_true, Bool.not_eq_true',
    GlyphSet.isEmpty_eq_false_iff]
  refine and_congr_right fun _ => forall₂_congr fun s _ => ?_
  rw [Bool.not_eq_true', GlyphSet.isEmpty_eq_false_iff]

instance (r : ContextRule) : Decidable r.CanApply := decidable_of_iff _ ContextRule.applies_iff

theorem ContextRule.filter_applies (rules : List ContextRule) :
    rules.filter applies = rules.filter fun r => r.CanApply := by
  refine List.filter_congr fun r _ => ?_
  rw [Bool.eq_iff_iff, applies_iff, decide_eq_true_iff]

namespace Substitutions

/-! ## The lookups in their order -/

theorem lookups_add (tag : String) (lookup : Option Lookup) (s : Substitutions) :
    (s.add tag lookup).lookups = s.lookups ++ lookup.toList := by
  cases lookup with
  | none => exact (List.append_nil _).symm
  | some l => rfl

theorem toList_ligatureLookup? (ligatures : List Ligature) :
    (ligatureLookup? ligatures).toList =
      if ligatures ≠ [] then [.ligatures ligatures] else [] := by
  cases ligatures with
  | nil => rfl
  | cons l ls => rfl

theorem toList_alternateLookup? (alternates : List Alternate) :
    (alternateLookup? alternates).toList =
      if alternates ≠ [] then [.alternates alternates] else [] := by
  cases alternates with
  | nil => rfl
  | cons a as => rfl

theorem toList_contextLookup? (rules : List ContextRule) (index : Nat) :
    (contextLookup? rules index).toList =
      if ∃ r ∈ rules, r.CanApply then [.contextual (rules.filter fun r => r.CanApply) index]
      else [] := by
  have hsome : (∃ r ∈ rules, r.CanApply) ↔ (rules.filter fun r => r.CanApply) ≠ [] := by
    simp [List.filter_eq_nil_iff]
  simp only [contextLookup?, ContextRule.filter_applies, hsome]
  cases rules.filter fun r => r.CanApply with
  | nil => rfl
  | cons r rs => rfl

/-- Rules that can all apply are all kept. -/
theorem contextLookup?_of_canApply {rules : List ContextRule} (hne : rules ≠ [])
    (h : ∀ r ∈ rules, r.CanApply) (index : Nat) :
    contextLookup? rules index = some (.contextual rules index) := by
  have hkept : rules.filter ContextRule.applies = rules :=
    List.filter_eq_self.mpr fun r hr => ContextRule.applies_iff.mpr (h r hr)
  simp only [contextLookup?, hkept]
  exact if_neg fun hempty => hne (List.isEmpty_iff.mp hempty)

/-- Where the alternates stand: behind the lookup of the ligatures, if there is one. -/
def alternatesIndex (ligatures : List Ligature) : Nat := (ligatureLookup? ligatures).toList.length

theorem alternatesIndex_le_one (ligatures : List Ligature) : alternatesIndex ligatures ≤ 1 := by
  cases ligatures with
  | nil => exact Nat.zero_le 1
  | cons l ls => exact Nat.le_refl 1

/-- The rules have a lookup only where there is one for the alternates. -/
theorem lookups_ofItems (ligatures : List Ligature) (alternates : List Alternate)
    (rules : List ContextRule) :
    (ofItems ligatures alternates rules).lookups =
      (ligatureLookup? ligatures).toList ++
        ((if alternates ≠ [] then [.alternates alternates] else []) ++
          if alternates ≠ [] ∧ ∃ r ∈ rules, r.CanApply then
            [.contextual (rules.filter fun r => r.CanApply) (alternatesIndex ligatures)]
          else []) := by
  have hfirst : (add "liga" (ligatureLookup? ligatures) ⟨[], []⟩).lookups =
      (ligatureLookup? ligatures).toList := lookups_add _ _ _
  cases alternates with
  | nil => exact hfirst.trans (List.append_nil _).symm
  | cons a as =>
      have hne : a :: as ≠ [] := List.cons_ne_nil a as
      show (add _ _ (add _ _ (add _ _ _))).lookups = _
      rw [lookups_add, lookups_add, hfirst, toList_contextLookup?, List.append_assoc]
      simp only [and_iff_right hne]
      rfl

/-! ## What is compiled -/

/-- The substitutions for some records, before their features are sorted. -/
def ofRecords (builders : Builders) (ligatures : List Ligature) (alternates : List Alternate)
    (rules : List ContextRule) : Substitutions :=
  ofItems (Ligature.items builders.ligatures ligatures).1
    (Alternate.items builders.alternates alternates).1 rules

theorem compile_fst (builders : Builders) (ligatures : List Ligature) (alternates : List Alternate)
    (rules : List ContextRule) :
    (compile ligatures alternates rules builders).1 =
      if (ofRecords builders ligatures alternates rules).lookups = [] then none
      else some (ofRecords builders ligatures alternates rules).sorted := by
  rw [← if_congr List.isEmpty_iff rfl rfl]
  rfl

/-- What is collected from the lookups for some items. -/
theorem flatMap_lookups_ofItems {β : Type} (g : Lookup → List β) (ligatures : List Ligature)
    (alternates : List Alternate) (rules : List ContextRule) :
    (ofItems ligatures alternates rules).lookups.flatMap g =
      (if ligatures ≠ [] then g (.ligatures ligatures) else []) ++
        ((if alternates ≠ [] then g (.alternates alternates) else []) ++
          if alternates ≠ [] ∧ ∃ r ∈ rules, r.CanApply then
            g (.contextual (rules.filter fun r => r.CanApply) (alternatesIndex ligatures))
          else []) := by
  have hone : ∀ {p : Prop} [Decidable p] (l : Lookup),
      (if p then [l] else []).flatMap g = if p then g l else [] := by
    intro p _ l
    split
    · exact List.append_nil _
    · rfl
  rw [lookups_ofItems, toList_ligatureLookup?, List.flatMap_append, List.flatMap_append, hone, hone,
    hone]

/-- What is collected from the lookups of what is compiled, if there are any. -/
theorem flatMap_lookups_compile {β : Type} (g : Lookup → List β) (builders : Builders)
    (ligatures : List Ligature) (alternates : List Alternate) (rules : List ContextRule) :
    ((compile ligatures alternates rules builders).1.map fun s => s.lookups.flatMap g).getD [] =
      (ofRecords builders ligatures alternates rules).lookups.flatMap g := by
  rw [compile_fst]
  split
  · rename_i hempty
    rw [hempty]
    rfl
  · rfl

end Substitutions

end Gridface
