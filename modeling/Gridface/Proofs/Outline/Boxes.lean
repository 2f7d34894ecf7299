import Gridface.Font
import Gridface.Proofs.Outline.Squares
import Mathlib.Order.Bounds.Basic
import Mathlib.Order.Lattice

/-!
# Least boxes

Boxes are ordered by what lies in them. The union of two boxes is the least box that holds both, and
the box around some points the least one that holds them all.
-/

namespace Gridface.Box

instance : PartialOrder Box where
  le a b := b.xMin ≤ a.xMin ∧ b.yMin ≤ a.yMin ∧ a.xMax ≤ b.xMax ∧ a.yMax ≤ b.yMax
  le_refl a := ⟨Int.le_refl _, Int.le_refl _, Int.le_refl _, Int.le_refl _⟩
  le_trans a b c := by
    rintro ⟨hl, hb, hr, ht⟩ ⟨hl', hb', hr', ht'⟩
    exact ⟨hl'.trans hl, hb'.trans hb, hr.trans hr', ht.trans ht'⟩
  le_antisymm a b := by
    rintro ⟨hl, hb, hr, ht⟩ ⟨hl', hb', hr', ht'⟩
    rw [Box.mk.injEq]
    exact ⟨hl'.antisymm hl, hb'.antisymm hb, hr.antisymm hr', ht.antisymm ht'⟩

theorem le_iff {a b : Box} :
    a ≤ b ↔ b.xMin ≤ a.xMin ∧ b.yMin ≤ a.yMin ∧ a.xMax ≤ b.xMax ∧ a.yMax ≤ b.yMax := Iff.rfl

theorem union_le_iff {a b c : Box} : a.union b ≤ c ↔ a ≤ c ∧ b ≤ c := by
  simp only [le_iff, union]
  omega

instance : SemilatticeSup Box where
  sup := union
  le_sup_left _ _ := (union_le_iff.mp le_rfl).1
  le_sup_right _ _ := (union_le_iff.mp le_rfl).2
  sup_le _ _ _ ha hb := union_le_iff.mpr ⟨ha, hb⟩

theorem isLUB_insert {s : Set Box} {b : Box} (h : IsLUB s b) (a : Box) :
    IsLUB (insert a s) (b.union a) := by
  have hsup : b.union a = a ⊔ b := sup_comm b a
  rw [hsup]
  exact h.insert a

theorem foldl_union_le_iff (a c : Box) (bs : List Box) :
    bs.foldl union a ≤ c ↔ a ≤ c ∧ ∀ b ∈ bs, b ≤ c := by
  induction bs generalizing a with
  | nil => simp
  | cons b bs ih => rw [List.foldl_cons, ih, union_le_iff, List.forall_mem_cons, and_assoc]

/-- The box of the greatest size that 16 bits allow. -/
def whole : Box := ⟨leastUnit, leastUnit, greatestUnit, greatestUnit⟩

/-- All corners of the box are numbers of 16 bits. -/
structure Fits (box : Box) : Prop where
  xMin : FitsUnit box.xMin
  yMin : FitsUnit box.yMin
  xMax : FitsUnit box.xMax
  yMax : FitsUnit box.yMax

theorem Fits.le_whole {box : Box} (h : box.Fits) : box ≤ whole :=
  ⟨h.xMin.1, h.yMin.1, h.xMax.2, h.yMax.2⟩

theorem fits_of_isLUB {s : Set Box} {box : Box} (hbox : IsLUB s box) (hne : s.Nonempty)
    (hs : ∀ b ∈ s, b.Fits) : box.Fits := by
  obtain ⟨b, hb⟩ := hne
  -- what lies in the box keeps its corners in order
  obtain ⟨hl, hb', hr, ht⟩ := hbox.1 hb
  obtain ⟨hl', hb'', hr', ht'⟩ := hbox.2 fun b hb => (hs b hb).le_whole
  obtain ⟨⟨-, hxMin⟩, ⟨-, hyMin⟩, ⟨hxMax, -⟩, ⟨hyMax, -⟩⟩ := hs b hb
  exact ⟨⟨hl', hl.trans hxMin⟩, ⟨hb'', hb'.trans hyMin⟩, ⟨hxMax.trans hr, hr'⟩,
    ⟨hyMax.trans ht, ht'⟩⟩

/-- The box is the least one that holds all the points. -/
def IsAround (box : Box) (points : List (Int × Int)) : Prop :=
  IsLUB {b | ∃ p ∈ points, ofPoint p = b} box

theorem around?_eq_none_iff {points : List (Int × Int)} : around? points = none ↔ points = [] := by
  cases points with
  | nil => simp [around?]
  | cons p points => simp [around?]

theorem around?_eq_some_iff {points : List (Int × Int)} {box : Box} :
    around? points = some box ↔ points ≠ [] ∧ box.IsAround points := by
  cases points with
  | nil => simp [around?]
  | cons p points =>
      have hleast : (points.foldl (fun box q => box.union (ofPoint q)) (ofPoint p)).IsAround
          (p :: points) := by
        rw [← List.foldl_map (f := ofPoint) (g := union), IsAround, isLUB_iff_le_iff]
        intro c
        rw [foldl_union_le_iff, List.forall_mem_map]
        constructor
        · rintro ⟨hp, hps⟩ _ ⟨q, hq, rfl⟩
          rcases List.mem_cons.mp hq with rfl | hq
          · exact hp
          · exact hps q hq
        · intro hc
          exact ⟨hc ⟨p, List.mem_cons_self, rfl⟩,
            fun q hq => hc ⟨q, List.mem_cons_of_mem p hq, rfl⟩⟩
      rw [around?, Option.some_inj]
      constructor
      · rintro rfl
        exact ⟨List.cons_ne_nil p points, hleast⟩
      · rintro ⟨-, hbox⟩
        exact hleast.unique hbox

theorem IsAround.fits {box : Box} {points : List (Int × Int)} (h : box.IsAround points)
    (hne : points ≠ []) (hpoints : ∀ p ∈ points, FitsUnit p.1 ∧ FitsUnit p.2) : box.Fits := by
  obtain ⟨p, hp⟩ := List.exists_mem_of_ne_nil points hne
  refine fits_of_isLUB h ⟨ofPoint p, p, hp, rfl⟩ ?_
  rintro _ ⟨q, hq, rfl⟩
  obtain ⟨hx, hy⟩ := hpoints q hq
  exact ⟨hx, hy, hx, hy⟩

end Gridface.Box
