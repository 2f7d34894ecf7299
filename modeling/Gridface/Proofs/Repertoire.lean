import Gridface.Repertoire
import Mathlib.Data.List.Induction
import Mathlib.Data.List.Nodup

/-!
# Filing glyphs

Where a glyph is filed: in the place of the glyph with its key, or behind all others if there is
none.
-/

namespace Gridface.Repertoire

variable {r : Repertoire} {g h : Glyph} {gs old new : List Glyph} {key : String}

/-! ## One glyph -/

theorem put_of_not_mem (hnew : g.key ∉ gs.map Glyph.key) : put g gs = gs ++ [g] := by
  induction gs with
  | nil => rfl
  | cons h gs ih =>
      rw [List.map_cons, List.mem_cons, not_or] at hnew
      rw [put, if_neg (Ne.symm hnew.1), ih hnew.2, List.cons_append]

theorem put_append (hold : g.key ∈ old.map Glyph.key) :
    put g (old ++ new) = put g old ++ new := by
  induction old with
  | nil => simp at hold
  | cons h old ih =>
      by_cases hk : h.key = g.key
      · simp [put, hk]
      · have hrest : g.key ∈ old.map Glyph.key := by
          rw [List.map_cons, List.mem_cons] at hold
          exact hold.resolve_left (Ne.symm hk)
        simp [put, hk, ih hrest]

theorem mem_put_iff (hnodup : (gs.map Glyph.key).Nodup) :
    h ∈ put g gs ↔ h = g ∨ h ∈ gs ∧ h.key ≠ g.key := by
  induction gs with
  | nil => simp [put]
  | cons k gs ih =>
      rw [List.map_cons, List.nodup_cons] at hnodup
      obtain ⟨hk, hnodup⟩ := hnodup
      by_cases he : k.key = g.key
      · have hne : h ∈ gs → h.key ≠ g.key := by
          intro hmem hsame
          exact hk (he ▸ hsame ▸ List.mem_map_of_mem hmem)
        rw [put, if_pos he, List.mem_cons, List.mem_cons]
        constructor
        · rintro (rfl | hmem)
          · exact Or.inl rfl
          · exact Or.inr ⟨Or.inr hmem, hne hmem⟩
        · rintro (rfl | ⟨rfl | hmem, hdiff⟩)
          · exact Or.inl rfl
          · exact absurd he hdiff
          · exact Or.inr hmem
      · rw [put, if_neg he, List.mem_cons, List.mem_cons, ih hnodup]
        constructor
        · rintro (rfl | rfl | ⟨hmem, hdiff⟩)
          · exact Or.inr ⟨Or.inl rfl, he⟩
          · exact Or.inl rfl
          · exact Or.inr ⟨Or.inr hmem, hdiff⟩
        · rintro (rfl | ⟨rfl | hmem, hdiff⟩)
          · exact Or.inr (Or.inl rfl)
          · exact Or.inl rfl
          · exact Or.inr (Or.inr ⟨hmem, hdiff⟩)

/-! ## Several glyphs -/

theorem glyphs_foldl_concat (r : Repertoire) (gs : List Glyph) (g : Glyph) :
    ((gs ++ [g]).foldl insert r).glyphs = put g (gs.foldl insert r).glyphs := by
  rw [List.foldl_append]
  rfl

theorem nodup_keys_concat :
    ((gs ++ [g]).map Glyph.key).Nodup ↔
      (gs.map Glyph.key).Nodup ∧ g.key ∉ gs.map Glyph.key := by
  rw [List.map_append, List.map_singleton, List.nodup_append]
  constructor
  · rintro ⟨hgs, -, hdiff⟩
    exact ⟨hgs, fun hmem => hdiff _ hmem _ List.mem_cons_self rfl⟩
  · rintro ⟨hgs, hnew⟩
    refine ⟨hgs, List.nodup_singleton _, fun a ha b hb hab => ?_⟩
    rw [List.mem_singleton] at hb
    exact hnew (hb ▸ hab ▸ ha)

theorem mem_of_mem_foldl_insert (hmem : h ∈ (gs.foldl insert r).glyphs) :
    h ∈ gs ∨ h ∈ r.glyphs := by
  induction gs using List.reverseRecOn with
  | nil => exact Or.inr hmem
  | append_singleton gs g ih =>
      rw [glyphs_foldl_concat, mem_put_iff (gs.foldl insert r).distinct] at hmem
      rw [List.mem_append, List.mem_singleton]
      rcases hmem with rfl | ⟨hmem, -⟩
      · exact Or.inl (Or.inr rfl)
      · rcases ih hmem with hgs | hold
        · exact Or.inl (Or.inl hgs)
        · exact Or.inr hold

/-- Of glyphs with distinct keys all are filed, and the others stay unless one of these has their
key. -/
theorem mem_foldl_insert_iff (hnodup : (gs.map Glyph.key).Nodup) :
    h ∈ (gs.foldl insert r).glyphs ↔ h ∈ gs ∨ h ∈ r.glyphs ∧ h.key ∉ gs.map Glyph.key := by
  induction gs using List.reverseRecOn with
  | nil => simp
  | append_singleton gs g ih =>
      obtain ⟨hgs, hnew⟩ := nodup_keys_concat.mp hnodup
      have hne : h ∈ gs → h.key ≠ g.key := by
        intro hmem hsame
        exact hnew (hsame ▸ List.mem_map_of_mem hmem)
      rw [glyphs_foldl_concat, mem_put_iff (gs.foldl insert r).distinct, ih hgs]
      simp only [List.mem_append, List.mem_singleton, List.map_append, List.map_singleton, not_or]
      constructor
      · rintro (rfl | ⟨hmem | ⟨hmem, hout⟩, hdiff⟩)
        · exact Or.inl (Or.inr rfl)
        · exact Or.inl (Or.inl hmem)
        · exact Or.inr ⟨hmem, hout, hdiff⟩
      · rintro ((hmem | rfl) | ⟨hmem, hout, hdiff⟩)
        · exact Or.inr ⟨Or.inl hmem, hne hmem⟩
        · exact Or.inl rfl
        · exact Or.inr ⟨Or.inr ⟨hmem, hout⟩, hdiff⟩

/-- Glyphs whose keys are new come behind all others, in order. -/
theorem glyphs_foldl_insert (r : Repertoire) (hnodup : (gs.map Glyph.key).Nodup) :
    ∃ old, old.map Glyph.key = r.keys ∧
      (gs.foldl insert r).glyphs = old ++ gs.filter fun g => g.key ∉ r.keys := by
  induction gs using List.reverseRecOn with
  | nil => exact ⟨r.glyphs, rfl, by simp⟩
  | append_singleton gs g ih =>
      obtain ⟨hgs, hnew⟩ := nodup_keys_concat.mp hnodup
      obtain ⟨old, hkeys, hglyphs⟩ := ih hgs
      simp only [glyphs_foldl_concat, hglyphs, List.filter_append]
      by_cases hold : g.key ∈ r.keys
      · refine ⟨put g old, ?_, ?_⟩
        · rw [keys_put, hkeys, if_pos hold]
        · rw [put_append (hkeys ▸ hold)]
          simp [hold]
      · refine ⟨old, hkeys, ?_⟩
        rw [put_of_not_mem]
        · simp [hold]
        · rw [List.map_append, List.mem_append, hkeys]
          rintro (hmem | hmem)
          · exact hold hmem
          · obtain ⟨g', hg', hsame⟩ := List.mem_map.mp hmem
            exact hnew (hsame ▸ List.mem_map_of_mem (List.mem_filter.mp hg').1)

theorem glyphs_ofList (h : (gs.map Glyph.key).Nodup) : (ofList gs).glyphs = gs := by
  obtain ⟨old, hkeys, hglyphs⟩ := glyphs_foldl_insert empty h
  obtain rfl : old = [] := List.map_eq_nil_iff.mp hkeys
  simpa [ofList, keys, empty] using hglyphs

theorem mem_of_mem_ofList (hmem : h ∈ (ofList gs).glyphs) : h ∈ gs := by
  rcases mem_of_mem_foldl_insert hmem with hgs | hold
  · exact hgs
  · cases hold

theorem put_append_of_not_mem (hnew : g.key ∉ old.map Glyph.key) :
    put g (old ++ new) = old ++ put g new := by
  induction old with
  | nil => rfl
  | cons h old ih =>
      rw [List.map_cons, List.mem_cons, not_or] at hnew
      rw [List.cons_append, put, if_neg (Ne.symm hnew.1), ih hnew.2, List.cons_append]

/-- Glyphs that have none of the old keys come behind the others, even if some have one key. -/
theorem glyphs_foldl_insert_of_not_mem (hnew : ∀ g ∈ gs, g.key ∉ r.keys) :
    (gs.foldl insert r).glyphs = r.glyphs ++ (ofList gs).glyphs := by
  unfold ofList
  induction gs using List.reverseRecOn with
  | nil => exact (List.append_nil _).symm
  | append_singleton gs g ih =>
      have hg : g.key ∉ r.keys := hnew g (List.mem_append_right _ List.mem_cons_self)
      rw [glyphs_foldl_concat, ih fun g hg => hnew g (List.mem_append_left _ hg),
        put_append_of_not_mem hg, glyphs_foldl_concat]

end Gridface.Repertoire
