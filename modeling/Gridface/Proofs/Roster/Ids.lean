import Gridface.Proofs.Roster.Consistency

/-!
# The ids of a roster

The entries of a roster stand in the order of their ids, and no two have the same.
-/

namespace Gridface

variable {α : Type}

namespace Roster

/-- The ids ascend within the bounds of glyph ids. -/
structure Numbered (t : Roster α) : Prop where
  ascending : t.entries.Pairwise fun a b => a.id < b.id
  range : ∀ e ∈ t.entries, 0 < e.id ∧ e.id ≤ GlyphId.greatest

namespace Numbered

variable {t : Roster α} (h : t.Numbered)

include h

theorem nodup : (t.entries.map Entry.id).Nodup :=
  List.pairwise_map.mpr (h.ascending.imp Nat.ne_of_lt)

theorem eq_of_id {e e' : Entry α} (he : e ∈ t.entries) (he' : e' ∈ t.entries)
    (hid : e.id = e'.id) : e = e' :=
  List.inj_on_of_nodup_map h.nodup he he' hid

theorem lt_glyphCount {e : Entry α} (he : e ∈ t.entries) : e.id < t.glyphCount := by
  rw [glyphCount_eq_max h.ascending, Nat.lt_add_one_iff]
  exact List.le_max?_getD_of_mem (List.mem_map_of_mem he)

theorem glyphCount_le : t.glyphCount ≤ greatestCount :=
  Nat.le_of_lt_succ (glyphCount_lt_size fun e he => (h.range e he).2)

theorem length_entries_le : t.entries.length ≤ GlyphId.greatest := by
  have hsubset : (t.entries.map Entry.id).toFinset ⊆ Finset.Icc 1 GlyphId.greatest := by
    intro id hid
    obtain ⟨e, he, rfl⟩ := List.mem_map.mp (List.mem_toFinset.mp hid)
    exact Finset.mem_Icc.mpr (h.range e he)
  have hcard := Finset.card_le_card hsubset
  rwa [List.toFinset_card_of_nodup h.nodup, List.length_map, Nat.card_Icc,
    Nat.add_sub_cancel] at hcard

end Numbered

end Roster

variable [Coordinate α] {o : RosterOptions} {r : Repertoire} {n : Numbering}

theorem Numbering.Numbers.nodup_ids (h : n.Numbers r) {entries : List (Entry α)}
    (hentries : entries.map .ok = r.glyphs.map fun g => g.entry o.metrics (n.source g.key)) :
    (entries.map Entry.id).Nodup := by
  have hnodup := h.ids_eq ▸ h.nodup
  rw [Repertoire.keys, List.map_map] at hnodup
  rw [ids_of_forall₂_shows (forall₂_shows h hentries)]
  exact hnodup

theorem numbered_of_compile {t : Roster α} (h : (o.compile r).outcome = .ok t) : t.Numbered := by
  obtain ⟨n, entries, hn, hentries, haccept, rfl⟩ := RosterOptions.compile_eq_ok.mp h
  have hc := Roster.compiled_rosterOf hn hentries haccept
  refine ⟨pairwise_lt_mergeSort (hc.numbers.nodup_ids hentries), fun e he => ?_⟩
  obtain ⟨g, hg, -, -, hid⟩ := hc.glyph_of_mem he
  rw [hid]
  exact hc.numbers.range _ (List.mem_map_of_mem (hc.numbers.mem_source (List.mem_map_of_mem hg)))

end Gridface
