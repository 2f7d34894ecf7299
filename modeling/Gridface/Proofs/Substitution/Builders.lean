import Gridface.Proofs.Report
import Gridface.Substitution.Builders
import Mathlib.Data.List.Induction
import Mathlib.Data.List.Nodup

/-!
# Laws of builders

What is known of the builders of a font library, whatever they hold: when they agree to a record,
and which items they make of the records that were inserted.
-/

namespace Gridface

theorem Builder.after_concat {β : Type} (b : Builder β) (records : List β) (record : β) :
    b.after (records ++ [record]) = b.insert (b.after records) record := by
  rw [after, List.foldl_append]
  rfl

theorem nodup_eraseDups {β : Type} [DecidableEq β] (l : List β) : l.eraseDups.Nodup := by
  induction l using List.reverseRecOn with
  | nil => exact List.nodup_nil
  | append_singleton l a ih =>
      rw [eraseDups_concat]
      split
      · exact ih
      · rename_i hnew
        rw [← List.concat_eq_append]
        exact ih.concat (mt List.mem_eraseDups.mp hnew)

/-! ## Ligatures -/

namespace Ligature

/-- None of the given ligatures has the same sequence and another replacement. -/
def Agrees (l : Ligature) (ls : List Ligature) : Prop :=
  ∀ k ∈ ls, k.sequence = l.sequence → k.replacement = l.replacement

instance (l : Ligature) (ls : List Ligature) : Decidable (l.Agrees ls) :=
  inferInstanceAs (Decidable (∀ k ∈ ls, _ → _))

/-- A builder agrees to a ligature that has a sequence, unless the sequence was inserted with
another replacement. Its items are the ligatures that were inserted, each once: by ascending first
glyph, the longer sequences first, and then in the order in which they were inserted. -/
structure LawfulBuilder (b : Builder Ligature) : Prop where
  canAdd_iff : ∀ added l, b.canAdd (b.after added) l = true ↔ l.sequence ≠ [] ∧ l.Agrees added
  build_eq : ∀ added, (∀ l ∈ added, l.sequence ≠ []) →
    b.build (b.after added) = added.eraseDups.mergeSort precedes

theorem after_builder (added : List Ligature) : builder.after added = added.eraseDups := by
  induction added using List.reverseRecOn with
  | nil => rfl
  | append_singleton added l ih =>
      rw [Builder.after_concat, ih, eraseDups_concat]
      show (if added.eraseDups.contains l then added.eraseDups else added.eraseDups ++ [l]) = _
      simp only [List.contains_iff_mem, List.mem_eraseDups]

theorem lawful_builder : LawfulBuilder builder where
  canAdd_iff added l := by
    rw [after_builder]
    show (!l.sequence.isEmpty && added.eraseDups.all _) = true ↔ _
    simp [Agrees, or_iff_not_imp_left]
  build_eq added _ := by
    rw [after_builder]
    rfl

end Ligature

/-! ## Alternates -/

namespace Alternate

/-- A builder agrees to an alternate unless it holds another replacement of the source. What is
inserted is put at its place among the items, and takes the place of an item of its source. -/
structure LawfulBuilder (b : Builder Alternate) : Prop where
  canAdd_iff : ∀ added a, b.canAdd (b.after added) a = true ↔
    ∀ c ∈ b.build (b.after added), c.source = a.source → c.replacement = a.replacement
  build_nil : b.build (b.after []) = []
  build_concat : ∀ added a, b.build (b.after (added ++ [a])) = put a (b.build (b.after added))

theorem canAdd_builder (placed : List Alternate) (a : Alternate) :
    builder.canAdd placed a = true ↔
      ∀ c ∈ placed, c.source = a.source → c.replacement = a.replacement := by
  show (placed.all fun c => c.source != a.source || c.replacement == a.replacement) = true ↔ _
  simp [or_iff_not_imp_left]

theorem lawful_builder : LawfulBuilder builder where
  canAdd_iff added a := canAdd_builder (builder.after added) a
  build_nil := rfl
  build_concat added a := builder.after_concat added a

end Alternate

/-- Both builders keep their laws. -/
structure Builders.IsLawful (b : Builders) : Prop where
  ligatures : Ligature.LawfulBuilder b.ligatures
  alternates : Alternate.LawfulBuilder b.alternates

theorem Builders.isLawful_standard : Builders.standard.IsLawful where
  ligatures := Ligature.lawful_builder
  alternates := Alternate.lawful_builder

end Gridface
