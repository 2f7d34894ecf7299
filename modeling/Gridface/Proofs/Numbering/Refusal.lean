import Gridface.Proofs.Numbering.Pool
import Mathlib.Data.List.Induction
import Mathlib.Data.List.Nodup

/-!
# Ids that are asked for

Glyphs get the ids they ask for in order, until one is refused: for asking for id 0, for asking
beyond the greatest id, or for asking for what an earlier glyph has been given.
-/

namespace Gridface.Numbering

/-- The ids that glyphs ask for, in order. -/
def asked (gs : List Glyph) : List Nat := gs.filterMap Glyph.index

/-- The glyphs that ask for no id, in order. -/
def unasked (gs : List Glyph) : List Glyph := gs.filter (·.index.isNone)

/-- Why a glyph is refused the id it asks for, after the glyphs `before` have been given theirs. -/
inductive Refused (before : List Glyph) (g : Glyph) : Fault → Prop
  | reserved (h : g.index = some 0) : Refused before g (.reservedIndex g.key)
  | outOfRange {index : Nat} (h : g.index = some index) (hlt : GlyphId.greatest < index) :
      Refused before g (.indexOutOfRange g.key index)
  | duplicate {index : Nat} {first : Glyph} (h : g.index = some index) (hpos : 0 < index)
      (hle : index ≤ GlyphId.greatest) (hmem : first ∈ before) (hfirst : first.index = some index) :
      Refused before g (.duplicateIndex index first.key g.key)

/-- No glyph is refused the id it asks for. -/
def Granted (gs : List Glyph) : Prop :=
  ∀ before g after, gs = before ++ g :: after → ∀ e, ¬Refused before g e

/-- The first glyph that is refused the id it asks for is refused it because of `e`. -/
def FirstRefusal (gs : List Glyph) (e : Fault) : Prop :=
  ∃ before g after, gs = before ++ g :: after ∧ Granted before ∧ Refused before g e

/-! ## When all glyphs get what they ask for -/

theorem granted_nil : Granted [] := by
  intro before g after h
  simp at h

theorem granted_concat {gs : List Glyph} {g : Glyph} :
    Granted (gs ++ [g]) ↔ Granted gs ∧ ∀ e, ¬Refused gs g e := by
  constructor
  · intro h
    refine ⟨fun before g' after hsplit => h before g' (after ++ [g]) ?_, h gs g [] rfl⟩
    rw [hsplit, List.append_assoc, List.cons_append]
  · rintro ⟨hgs, hg⟩ before g' after hsplit
    rcases after.eq_nil_or_concat' with rfl | ⟨after, last, rfl⟩
    · obtain ⟨rfl, hlast⟩ := List.append_inj' hsplit rfl
      cases hlast
      exact hg
    · rw [← List.cons_append, ← List.append_assoc] at hsplit
      obtain ⟨hinit, -⟩ := List.append_inj' hsplit rfl
      exact hgs before g' after hinit

theorem asked_concat (gs : List Glyph) (g : Glyph) :
    asked (gs ++ [g]) = asked gs ++ g.index.toList := by
  cases hg : g.index with
  | none => simp [asked, hg]
  | some index => simp [asked, hg]

theorem mem_asked_iff {gs : List Glyph} {index : Nat} :
    index ∈ asked gs ↔ ∃ g ∈ gs, g.index = some index := by
  simp [asked]

theorem not_refused_iff {before : List Glyph} {g : Glyph} :
    (∀ e, ¬Refused before g e) ↔ ∀ index, g.index = some index →
      (0 < index ∧ index ≤ GlyphId.greatest) ∧ index ∉ asked before := by
  constructor
  · intro h index hindex
    have hpos : 0 < index := by
      rcases Nat.eq_zero_or_pos index with rfl | hpos
      · exact absurd (.reserved hindex) (h _)
      · exact hpos
    have hle : index ≤ GlyphId.greatest :=
      Nat.not_lt.mp fun hlt => h _ (.outOfRange hindex hlt)
    refine ⟨⟨hpos, hle⟩, fun hmem => ?_⟩
    obtain ⟨first, hfirst, hsame⟩ := mem_asked_iff.mp hmem
    exact h _ (.duplicate hindex hpos hle hfirst hsame)
  · intro h e hrefused
    cases hrefused with
    | reserved hindex => exact absurd (h 0 hindex).1.1 (Nat.lt_irrefl 0)
    | outOfRange hindex hlt => exact absurd (h _ hindex).1.2 (Nat.not_le.mpr hlt)
    | duplicate hindex _ _ hmem hsame => exact (h _ hindex).2 (mem_asked_iff.mpr ⟨_, hmem, hsame⟩)

/-- All glyphs get what they ask for when the ids are within bounds and no two are equal. -/
theorem granted_iff {gs : List Glyph} :
    Granted gs ↔
      (∀ index ∈ asked gs, 0 < index ∧ index ≤ GlyphId.greatest) ∧ (asked gs).Nodup := by
  induction gs using List.reverseRecOn with
  | nil => simp [granted_nil, asked]
  | append_singleton gs g ih =>
      rw [granted_concat, ih, not_refused_iff, asked_concat]
      cases hg : g.index with
      | none => simp
      | some index =>
          simp only [Option.some.injEq, forall_eq', Option.toList_some, List.mem_append,
            List.mem_singleton, List.nodup_append, List.nodup_singleton, true_and]
          constructor
          · rintro ⟨⟨hrange, hnodup⟩, hindex, hnew⟩
            refine ⟨?_, hnodup, ?_⟩
            · rintro id (hid | rfl)
              · exact hrange id hid
              · exact hindex
            · rintro id hid _ rfl rfl
              exact hnew hid
          · rintro ⟨hrange, hnodup, hnew⟩
            exact ⟨⟨fun id hid => hrange id (Or.inl hid), hnodup⟩, hrange index (Or.inr rfl),
              fun hid => hnew index hid index rfl rfl⟩

/-! ## Reserving them -/

/-- The pool holds just what the glyphs `before` have asked for. -/
structure Reserved (before : List Glyph) (pool : IdPool) : Prop where
  next_eq : pool.next = 1
  holder_iff : ∀ id key, pool.holders[id]? = some key ↔
    ∃ g ∈ before, g.index = some id ∧ g.key = key

theorem reserved_nil : Reserved [] {} where
  next_eq := rfl
  holder_iff := by
    intro id key
    simp

theorem Reserved.mem_iff {before : List Glyph} {pool : IdPool} (h : Reserved before pool)
    {id : GlyphId} : id ∈ pool.holders ↔ id ∈ asked before := by
  rw [Std.TreeMap.mem_iff_isSome_getElem?, Option.isSome_iff_exists, mem_asked_iff]
  constructor
  · rintro ⟨key, hkey⟩
    obtain ⟨g, hg, hindex, -⟩ := (h.holder_iff id key).mp hkey
    exact ⟨g, hg, hindex⟩
  · rintro ⟨g, hg, hindex⟩
    exact ⟨g.key, (h.holder_iff id g.key).mpr ⟨g, hg, hindex, rfl⟩⟩

theorem Reserved.skip {before : List Glyph} {pool : IdPool} (h : Reserved before pool) {g : Glyph}
    (hg : g.index = none) : Reserved (before ++ [g]) pool where
  next_eq := h.next_eq
  holder_iff := by
    intro id key
    simp [h.holder_iff, or_and_right, exists_or, hg]

theorem Reserved.give {before : List Glyph} {pool : IdPool} (h : Reserved before pool) {g : Glyph}
    {index : Nat} (hg : g.index = some index) (hnew : index ∉ pool.holders) :
    Reserved (before ++ [g]) (pool.give g.key index) where
  next_eq := h.next_eq
  holder_iff := by
    intro id key
    rw [IdPool.getElem?_give]
    by_cases hid : id = index
    · subst hid
      have hbefore : ¬∃ g' ∈ before, g'.index = some id ∧ g'.key = key := by
        rintro ⟨g', hg', hindex, -⟩
        exact hnew (h.mem_iff.mpr (mem_asked_iff.mpr ⟨g', hg', hindex⟩))
      simp [or_and_right, exists_or, hbefore, hg]
    · have hid' : ¬index = id := fun he => hid he.symm
      simp [h.holder_iff, or_and_right, exists_or, hg, hid, hid']

/-- A glyph is refused its id by the pool for the reason that the glyphs before it give. -/
theorem Reserved.reserve_eq_error {before : List Glyph} {pool : IdPool} (h : Reserved before pool)
    {g : Glyph} {index : Nat} (hg : g.index = some index) {e : Fault} :
    pool.reserve g.key index = .error e ↔ Refused before g e := by
  rw [IdPool.reserve_eq_error]
  constructor
  · rintro (⟨rfl, rfl⟩ | ⟨hlt, rfl⟩ | ⟨hpos, hle, first, hfirst, rfl⟩)
    · exact .reserved hg
    · exact .outOfRange hg hlt
    · obtain ⟨g', hmem, hindex, rfl⟩ := (h.holder_iff index first).mp hfirst
      exact .duplicate hg hpos hle hmem hindex
  · intro hrefused
    cases hrefused with
    | reserved hindex =>
        cases hg.symm.trans hindex
        exact Or.inl ⟨rfl, rfl⟩
    | outOfRange hindex hlt =>
        cases hg.symm.trans hindex
        exact Or.inr (Or.inl ⟨hlt, rfl⟩)
    | duplicate hindex hpos hle hmem hsame =>
        cases hg.symm.trans hindex
        exact Or.inr (Or.inr ⟨hpos, hle, _, (h.holder_iff _ _).mpr ⟨_, hmem, hsame, rfl⟩, rfl⟩)

end Gridface.Numbering
