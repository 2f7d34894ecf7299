import Gridface.Proofs.Repertoire
import Gridface.Proofs.Report
import Mathlib.Data.List.Dedup

/-!
# What is filed under a key

A repertoire is told by its keys in order and by the glyph that is found under each of them. After
any number of insertions the keys are the old ones and then the new ones in order of first mention,
and under each key is the glyph that was filed there last.
-/

namespace Gridface

/-! ## Keys in order of first mention -/

/-- The keys in `ks` that are not among the `old` ones, each where it is mentioned first. -/
def newKeys (old ks : List String) : List String := (ks.filter (· ∉ old)).eraseDups

@[simp] theorem newKeys_nil (old : List String) : newKeys old [] = [] := rfl

theorem mem_newKeys_iff {old ks : List String} {k : String} :
    k ∈ newKeys old ks ↔ k ∈ ks ∧ k ∉ old := by
  simp [newKeys, List.mem_eraseDups]

theorem newKeys_concat (old ks : List String) (k : String) :
    newKeys old (ks ++ [k]) =
      if k ∈ old ∨ k ∈ ks then newKeys old ks else newKeys old ks ++ [k] := by
  unfold newKeys
  by_cases hold : k ∈ old
  · simp [hold]
  · rw [List.filter_append, List.filter_singleton]
    simp only [hold, not_false_eq_true, decide_true, cond_true, false_or, eraseDups_concat,
      List.mem_filter, and_true]

theorem newKeys_eq_nil {old ks : List String} (h : ∀ k ∈ ks, k ∈ old) : newKeys old ks = [] := by
  rw [List.eq_nil_iff_forall_not_mem]
  intro k hk
  rw [mem_newKeys_iff] at hk
  exact hk.2 (h k hk.1)

theorem lookup_eq_some_iff_mem {β : Type} {l : List (String × β)} (h : (l.map Prod.fst).Nodup)
    {k : String} {v : β} : l.lookup k = some v ↔ (k, v) ∈ l := by
  rw [List.lookup_eq_some_iff]
  constructor
  · rintro ⟨before, after, hsplit, -⟩
    rw [hsplit]
    exact List.mem_append_right before List.mem_cons_self
  · intro hmem
    obtain ⟨before, after, hsplit⟩ := List.append_of_mem hmem
    refine ⟨before, after, hsplit, fun p hp => ?_⟩
    rw [hsplit, List.map_append, List.map_cons, List.nodup_append] at h
    have hne := h.2.2 p.1 (List.mem_map_of_mem hp) k List.mem_cons_self
    exact bne_iff_ne.mpr hne.symm

namespace Repertoire

variable {r r' : Repertoire} {g : Glyph} {gs : List Glyph} {key : String}

/-! ## Finding a glyph -/

theorem find?_eq_some_iff : r.find? key = some g ↔ g ∈ r.glyphs ∧ g.key = key := by
  constructor
  · intro h
    exact ⟨List.mem_of_find?_eq_some h, beq_iff_eq.mp (List.find?_some h :)⟩
  · rintro ⟨hmem, rfl⟩
    cases hfind : r.find? g.key with
    | none => exact absurd (List.find?_eq_none.mp hfind g hmem) (by simp)
    | some g' =>
        have hmem' : g' ∈ r.glyphs := List.mem_of_find?_eq_some hfind
        have hkey : g'.key = g.key := beq_iff_eq.mp (List.find?_some hfind :)
        rw [List.inj_on_of_nodup_map r.distinct hmem' hmem hkey]

theorem key_of_find? (h : r.find? key = some g) : g.key = key := (find?_eq_some_iff.mp h).2

theorem find?_key (h : g ∈ r.glyphs) : r.find? g.key = some g := find?_eq_some_iff.mpr ⟨h, rfl⟩

theorem find?_eq_none_iff : r.find? key = none ↔ key ∉ r.keys := by
  simp [find?, keys]

theorem contains_iff : r.contains key = true ↔ key ∈ r.keys := by
  rw [contains, Option.isSome_iff_ne_none, Ne, find?_eq_none_iff, not_not]

theorem mem_keys_iff : key ∈ r.keys ↔ ∃ g, r.find? key = some g := by
  rw [← not_iff_not, ← find?_eq_none_iff, Option.eq_none_iff_forall_ne_some, not_exists]

theorem glyphs_map_some (r : Repertoire) : r.glyphs.map some = r.keys.map r.find? := by
  rw [keys, List.map_map]
  exact List.map_congr_left fun g hg => (find?_key hg).symm

theorem ext_find? (hkeys : r.keys = r'.keys) (hfind : ∀ key ∈ r.keys, r.find? key = r'.find? key) :
    r = r' := by
  have hglyphs : r.glyphs.map some = r'.glyphs.map some := by
    rw [glyphs_map_some, glyphs_map_some, ← hkeys]
    exact List.map_congr_left hfind
  obtain ⟨glyphs, distinct⟩ := r
  obtain rfl : glyphs = r'.glyphs :=
    List.map_injective_iff.mpr (fun _ _ => Option.some.inj) hglyphs
  rfl

/-! ## One insertion -/

theorem keys_insert (r : Repertoire) (g : Glyph) :
    (r.insert g).keys = if g.key ∈ r.keys then r.keys else r.keys ++ [g.key] :=
  keys_put g r.glyphs

theorem find?_insert (r : Repertoire) (g : Glyph) (key : String) :
    (r.insert g).find? key = if key = g.key then some g else r.find? key := by
  refine Option.ext fun h => ?_
  have hmem : h ∈ (r.insert g).glyphs ↔ h = g ∨ h ∈ r.glyphs ∧ h.key ≠ g.key :=
    mem_put_iff r.distinct
  rw [find?_eq_some_iff, hmem]
  by_cases hkey : key = g.key
  · subst hkey
    rw [if_pos rfl, Option.some_inj]
    constructor
    · rintro ⟨rfl | ⟨-, hne⟩, hsame⟩
      · rfl
      · exact absurd hsame hne
    · rintro rfl
      exact ⟨Or.inl rfl, rfl⟩
  · rw [if_neg hkey, find?_eq_some_iff]
    constructor
    · rintro ⟨rfl | ⟨hold, -⟩, rfl⟩
      · exact absurd rfl hkey
      · exact ⟨hold, rfl⟩
    · rintro ⟨hold, rfl⟩
      exact ⟨Or.inr ⟨hold, hkey⟩, rfl⟩

/-! ## Several insertions -/

section Steps

variable {β : Type} {step : Repertoire → β → Repertoire} (keyOf : β → String)

/-- Steps that each insert one glyph, under a key that does not depend on what is there. -/
theorem keys_foldl (hstep : ∀ r b, ∃ g, step r b = r.insert g ∧ g.key = keyOf b) (r : Repertoire)
    (bs : List β) : (bs.foldl step r).keys = r.keys ++ newKeys r.keys (bs.map keyOf) := by
  induction bs using List.reverseRecOn with
  | nil => simp
  | append_singleton bs b ih =>
      rw [List.foldl_append, List.foldl_cons, List.foldl_nil, List.map_append, List.map_singleton,
        newKeys_concat]
      obtain ⟨g, hg, hkey⟩ := hstep (bs.foldl step r) b
      rw [hg, keys_insert, hkey, ih]
      have hmem : keyOf b ∈ r.keys ++ newKeys r.keys (bs.map keyOf) ↔
          keyOf b ∈ r.keys ∨ keyOf b ∈ bs.map keyOf := by
        rw [List.mem_append, mem_newKeys_iff]
        tauto
      simp only [hmem]
      split
      · rfl
      · rw [List.append_assoc]

end Steps

theorem keys_foldl_insert (r : Repertoire) (gs : List Glyph) :
    (gs.foldl insert r).keys = r.keys ++ newKeys r.keys (gs.map Glyph.key) :=
  keys_foldl Glyph.key (fun _ g => ⟨g, rfl, rfl⟩) r gs

/-- The glyph that is filed last under a key is the one that is found. -/
theorem find?_foldl_insert (r : Repertoire) (gs : List Glyph) (key : String) :
    (gs.foldl insert r).find? key = (gs.findRev? (·.key == key)).or (r.find? key) := by
  induction gs using List.reverseRecOn with
  | nil => rfl
  | append_singleton gs g ih =>
      rw [List.foldl_append, List.foldl_cons, List.foldl_nil, find?_insert, ih, findRev?_concat]
      by_cases hkey : key = g.key
      · simp [hkey]
      · have hne : (g.key == key) = false := beq_eq_false_iff_ne.mpr (Ne.symm hkey)
        simp [hkey, hne]

/-! ## Changes that keep the keys -/

theorem keys_mapGlyphs (r : Repertoire) {f : Glyph → Glyph} (keeps : ∀ g, (f g).key = g.key) :
    (r.mapGlyphs f keeps).keys = r.keys := by
  simp [mapGlyphs, keys, Function.comp_def, keeps]

theorem find?_mapGlyphs (r : Repertoire) {f : Glyph → Glyph} (keeps : ∀ g, (f g).key = g.key)
    (key : String) : (r.mapGlyphs f keeps).find? key = (r.find? key).map f := by
  simp only [mapGlyphs, find?, List.find?_map, Function.comp_def, keeps]

end Repertoire

end Gridface
