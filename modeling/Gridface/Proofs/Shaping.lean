import Gridface.Substitution

/-!
# Shaping a text by contextual rules

What a text engine does with a list of contextual rules: it goes through the text from left to
right, and at each position the first rule that applies replaces the glyph. A rule sees what has
been written before the glyph and what is still to be read after it.
-/

namespace Gridface

/-- Whether the glyphs next to a position, the closest first, are in the sets one by one. -/
def GlyphSet.fits : List GlyphSet → List GlyphId → Bool
  | [], _ => true
  | _ :: _, [] => false
  | s :: sets, g :: glyphs => decide (g ∈ s) && fits sets glyphs

/-- The glyph at a position of the text. -/
def GlyphSet.HoldsAt (s : GlyphSet) (text : List GlyphId) (i : Nat) : Prop :=
  ∃ g ∈ s, text[i]? = some g

namespace ContextRule

/-- Whether the rule applies to `g` after the written glyphs `before`, the closest first, and before
the glyphs `after`. -/
def appliesAt (r : ContextRule) (before : List GlyphId) (g : GlyphId) (after : List GlyphId) :
    Bool :=
  decide (g ∈ r.input) && GlyphSet.fits r.backtrack before && GlyphSet.fits r.lookahead after

/-- What is written for `g`: the first rule that applies replaces it as `m` says. -/
def write (rules : List ContextRule) (m : GlyphId → GlyphId) (before : List GlyphId) (g : GlyphId)
    (after : List GlyphId) : GlyphId :=
  match rules.find? (·.appliesAt before g after) with
  | some _ => m g
  | none => g

/-- The text as it is written after the glyphs `before`. -/
def shape (rules : List ContextRule) (m : GlyphId → GlyphId) (before : List GlyphId) :
    List GlyphId → List GlyphId
  | [] => []
  | g :: after =>
    let written := write rules m before g after
    written :: shape rules m (written :: before) after

variable {rules : List ContextRule} {m : GlyphId → GlyphId}

theorem write_eq_ite (rules : List ContextRule) (m : GlyphId → GlyphId) (before : List GlyphId)
    (g : GlyphId) (after : List GlyphId) :
    write rules m before g after =
      if ∃ r ∈ rules, r.appliesAt before g after = true then m g else g := by
  unfold write
  split
  · rename_i r hr
    have happlies := List.find?_some hr
    rw [if_pos ⟨r, List.mem_of_find?_eq_some hr, happlies⟩]
  · rename_i hnone
    rw [if_neg]
    rintro ⟨r, hr, happlies⟩
    exact List.find?_eq_none.mp hnone r hr happlies

theorem length_shape (before text : List GlyphId) :
    (shape rules m before text).length = text.length := by
  induction text generalizing before with
  | nil => rfl
  | cons g after ih => simp only [shape, List.length_cons, ih]

/-- What is written at a position depends on what was written before it and is read after it. -/
theorem getElem?_shape (rules : List ContextRule) (m : GlyphId → GlyphId)
    (before text : List GlyphId) (i : Nat) :
    (shape rules m before text)[i]? = text[i]?.map fun g =>
      write rules m (((shape rules m before text).take i).reverse ++ before) g
        (text.drop (i + 1)) := by
  induction text generalizing before i with
  | nil => simp [shape]
  | cons g after ih =>
      cases i with
      | zero => simp [shape]
      | succ i =>
          simp only [shape, List.getElem?_cons_succ, List.take_succ_cons, List.reverse_cons,
            List.append_assoc, List.singleton_append, List.drop_succ_cons]
          exact ih _ i

end ContextRule

end Gridface
