import Gridface.Numbering

/-!
# Glyph sets

A set of glyph ids is its strictly ascending list, so equal sets are equal lists.
-/

namespace Gridface

/-- A finite set of glyph ids. -/
structure GlyphSet where
  ids : List GlyphId
  ascending : ids.Pairwise (· < ·)
  deriving DecidableEq, Repr

namespace GlyphSet

/-- Adds `id` at its place in an ascending list. -/
def place (id : GlyphId) : List GlyphId → List GlyphId
  | [] => [id]
  | a :: as =>
    if id < a then id :: a :: as
    else if id = a then a :: as
    else a :: place id as

theorem mem_place {id b : GlyphId} {as : List GlyphId} : b ∈ place id as ↔ b = id ∨ b ∈ as := by
  induction as with
  | nil => simp [place]
  | cons a as ih =>
    simp only [place]
    split
    · simp
    · split
      · rename_i h
        subst h
        simp
      · simp only [List.mem_cons, ih]
        exact or_left_comm

theorem ascending_place (id : GlyphId) {as : List GlyphId} (h : as.Pairwise (· < ·)) :
    (place id as).Pairwise (· < ·) := by
  induction as with
  | nil => simp [place]
  | cons a as ih =>
    obtain ⟨ha, has⟩ := List.pairwise_cons.1 h
    simp only [place]
    split
    · rename_i hlt
      refine List.pairwise_cons.2 ⟨fun b hb => ?_, h⟩
      rcases List.mem_cons.1 hb with rfl | hb
      · exact hlt
      · exact Nat.lt_trans hlt (ha b hb)
    · split
      · exact h
      · rename_i hlt hne
        refine List.pairwise_cons.2 ⟨fun b hb => ?_, ih has⟩
        rcases mem_place.1 hb with rfl | hb
        · exact Nat.lt_of_le_of_ne (Nat.le_of_not_lt hlt) (Ne.symm hne)
        · exact ha b hb

/-- The set without ids. -/
def empty : GlyphSet := ⟨[], List.Pairwise.nil⟩

instance : Inhabited GlyphSet := ⟨empty⟩

instance : Membership GlyphId GlyphSet := ⟨fun s id => id ∈ s.ids⟩

instance (id : GlyphId) (s : GlyphSet) : Decidable (id ∈ s) :=
  inferInstanceAs (Decidable (id ∈ s.ids))

/-- The set with `id` added. -/
def insert (id : GlyphId) (s : GlyphSet) : GlyphSet :=
  ⟨place id s.ids, ascending_place id s.ascending⟩

/-- The set of the ids in a list. -/
def ofList (ids : List GlyphId) : GlyphSet := ids.foldr insert empty

/-- Whether the set has no ids. -/
def isEmpty (s : GlyphSet) : Bool := s.ids.isEmpty

@[simp] theorem mem_insert {a id : GlyphId} {s : GlyphSet} : a ∈ s.insert id ↔ a = id ∨ a ∈ s :=
  mem_place

@[simp] theorem not_mem_empty (a : GlyphId) : ¬a ∈ empty := List.not_mem_nil

@[simp] theorem mem_ofList {a : GlyphId} {ids : List GlyphId} : a ∈ ofList ids ↔ a ∈ ids := by
  induction ids with
  | nil => simp [ofList]
  | cons id ids ih =>
    have : ofList (id :: ids) = (ofList ids).insert id := rfl
    rw [this, mem_insert, ih, List.mem_cons]

end GlyphSet

end Gridface
