import Gridface.Proofs.Font.Mappings
import Gridface.Proofs.Font.Slots
import Gridface.Proofs.Roster.Ids
import Mathlib.Data.Finset.Max

/-!
# Characters of a roster

Which glyph has which code point: when two glyphs share one, and which characters are the first and
the last.
-/

namespace Gridface

open CharacterMap

namespace Roster

variable {α : Type} {t : Roster α} {c : Char} {id : GlyphId}

/-- The glyph with the id has the code point. -/
def Maps (t : Roster α) (c : Char) (id : GlyphId) : Prop :=
  ∃ e ∈ t.entries, e.codePoint = some c ∧ e.id = id

/-- No two glyphs have the same code point. -/
def HasDistinctCodePoints (t : Roster α) : Prop := ∀ c i j, t.Maps c i → t.Maps c j → i = j

theorem mem_mappings : (c, id) ∈ t.mappings ↔ t.Maps c id := by
  rw [mappings, List.mem_filterMap]
  constructor
  · rintro ⟨e, he, hmap⟩
    obtain ⟨c', hc, hpair⟩ := Option.map_eq_some_iff.mp hmap
    cases hpair
    exact ⟨e, he, hc, rfl⟩
  · rintro ⟨e, he, hc, rfl⟩
    exact ⟨e, he, by rw [hc]; rfl⟩

namespace Numbered

variable (h : t.Numbered)

include h

theorem nodup_mappings : t.mappings.Nodup := by
  refine (h.ascending.filterMap _ fun e e' hlt m hm m' hm' => ?_ :
    t.mappings.Pairwise fun m m' => m.2 < m'.2).imp fun hlt heq => ?_
  · obtain ⟨c, -, rfl⟩ := Option.map_eq_some_iff.mp hm
    obtain ⟨c', -, rfl⟩ := Option.map_eq_some_iff.mp hm'
    exact hlt
  · exact absurd (congrArg Prod.snd heq) (Nat.ne_of_lt hlt)

theorem mem_normalized : (c, id) ∈ normalized t.mappings ↔ t.Maps c id := by
  rw [(normalized_perm h.nodup_mappings).mem_iff, mem_mappings]

theorem pairwise_normalized (hnone : conflict? (normalized t.mappings) = none) :
    (normalized t.mappings).Pairwise fun a b => a.1 < b.1 :=
  conflict?_eq_none (ascending_normalized h.nodup_mappings) hnone

theorem distinct_of_conflict? (hnone : conflict? (normalized t.mappings) = none) :
    t.HasDistinctCodePoints := by
  intro c i j hi hj
  have hnodup : ((normalized t.mappings).map Prod.fst).Nodup :=
    List.pairwise_map.mpr ((h.pairwise_normalized hnone).imp ne_of_lt)
  exact congrArg Prod.snd
    (List.inj_on_of_nodup_map hnodup (h.mem_normalized.mpr hi) (h.mem_normalized.mpr hj) rfl)

theorem leastConflict_of_conflict? {fault : Fault}
    (hsome : conflict? (normalized t.mappings) = some fault) :
    ∃ c i j, fault = .codePointConflict c i j ∧ LeastConflict t.Maps c i j := by
  have hmaps : (fun c id => (c, id) ∈ normalized t.mappings) = t.Maps :=
    funext₂ fun c id => propext h.mem_normalized
  exact hmaps ▸ conflict?_eq_some (ascending_normalized h.nodup_mappings) hsome

theorem conflict?_eq_none_iff :
    conflict? (normalized t.mappings) = none ↔ t.HasDistinctCodePoints := by
  refine ⟨h.distinct_of_conflict?, fun hdistinct => ?_⟩
  cases hconflict : conflict? (normalized t.mappings) with
  | none => rfl
  | some fault =>
      obtain ⟨c, i, j, -, hleast⟩ := h.leastConflict_of_conflict? hconflict
      exact absurd (hdistinct c i j hleast.first hleast.second) (Nat.ne_of_lt hleast.lt)

end Numbered

/-! ## The first and the last character -/

end Roster

end Gridface
