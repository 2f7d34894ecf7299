import Gridface.Proofs.Roster.Compile
import Gridface.Proofs.Sorting
import Gridface.Proofs.Substitution.Ligatures
import Mathlib

/-!
# The ligatures of a roster in a font

Where the texts of several glyphs fit, the font replaces the longest sequence. Of glyphs with the
same sequence the first in the repertoire is shown, also where an unknown key made the sequences the
same.
-/

namespace Gridface

variable {α : Type} {r : Repertoire} {n : Numbering}

/-! ## Records by sequence -/

theorem Numbering.sequence_ne_nil {m : Ligature} (hm : m ∈ n.records r) : m.sequence ≠ [] := by
  obtain ⟨g, -, text, htext, rfl⟩ := mem_records_iff.mp hm
  have hne := (List.mem_filter.mp htext).2
  simpa [ligatureOf, spelling] using hne

/-- Sorting by length leaves the records of one sequence in the order of the repertoire. -/
theorem RosterOptions.find?_ligatures_rosterOf (o : RosterOptions) (n : Numbering)
    (r : Repertoire) (entries : List (Entry α)) (s : List GlyphId) :
    (o.rosterOf n r entries).ligatures.find? (·.sequence == s) =
      (n.records r).find? (·.sequence == s) := by
  have hligatures : (o.rosterOf n r entries).ligatures =
      (n.records r).mergeSort fun a b => b.sequence.length ≤ a.sequence.length := by
    rw [← n.ligatures_linksAll]
    rfl
  rw [hligatures, ← List.head?_filter, ← List.head?_filter, filter_mergeSort]
  · intro a b c hab hbc
    rw [decide_eq_true_eq] at hab hbc ⊢
    exact Nat.le_trans hbc hab
  · intro a b
    rw [Bool.or_eq_true, decide_eq_true_eq, decide_eq_true_eq]
    exact Nat.le_total _ _
  · refine List.pairwise_of_forall_mem_list fun a ha b hb => ?_
    have hsa : a.sequence = s := beq_iff_eq.mp (List.mem_filter.mp ha).2
    have hsb : b.sequence = s := beq_iff_eq.mp (List.mem_filter.mp hb).2
    rw [hsa, hsb, decide_eq_true_eq]

/-- The first record of a sequence is that of the first glyph that has one of it. -/
theorem Numbering.find?_records_eq_some {s : List GlyphId} {l : Ligature}
    (h : (n.records r).find? (·.sequence == s) = some l) :
    ∃ before g after, r.glyphs = before ++ g :: after ∧ l.replacement = n.source g.key ∧
      (∃ text ∈ g.texts, (n.ligatureOf g text).sequence = s) ∧
      ∀ g' ∈ before, ∀ text ∈ g'.texts, (n.ligatureOf g' text).sequence ≠ s := by
  rw [records, List.find?_flatMap, List.findSome?_eq_some_iff] at h
  obtain ⟨before, g, after, hsplit, hg, hbefore⟩ := h
  have hfound := List.find?_some hg
  have hsequence : l.sequence = s := beq_iff_eq.mp hfound
  obtain ⟨text, htext, rfl⟩ := List.mem_map.mp (List.mem_of_find?_eq_some hg)
  refine ⟨before, g, after, hsplit, rfl, ⟨text, htext, hsequence⟩, ?_⟩
  intro g' hg' text' htext' hsame
  have hnone := List.find?_eq_none.mp (hbefore g' hg') _ (List.mem_map_of_mem htext')
  exact hnone (beq_iff_eq.mpr hsame)

/-! ## The items that fit a text -/

/-- The ligatures of the font that is made of the roster, in the order in which they are tried. -/
def Roster.ligatureItems (t : Roster α) (builders : Builders) : List Ligature :=
  ((Substitutions.compile t.ligatures t.alternates t.rules builders).1.map
    Substitutions.ligatureItems).getD []

theorem Roster.ligatureItems_eq (t : Roster α) (builders : Builders) :
    t.ligatureItems builders = (Ligature.items builders.ligatures t.ligatures).1 :=
  Substitutions.ligatureItems_compile builders t.ligatures t.alternates t.rules

variable [Coordinate α]

/-- With lawful builders, wherever a record fits a text, the first item that fits has the longest
sequence, and shows the first glyph of the repertoire that replaces this sequence. -/
theorem first_ligature_item (o : RosterOptions) (r : Repertoire) (t : Roster α)
    {builders : Builders} (hlawful : builders.IsLawful) (hc : (o.compile r).outcome = .ok t) :
    ∃ n, Numbering.assign r = .ok n ∧
      ((t.ligatureItems builders).map Ligature.sequence).Nodup ∧
      ∀ (text : List GlyphId) (p : Nat),
        ((∃ l ∈ t.ligatureItems builders, l.FitsAt text p) ↔
          ∃ m ∈ n.records r, m.FitsAt text p) ∧
        ∀ l, (t.ligatureItems builders).find? (fun l => l.FitsAt text p) = some l →
          (∀ m ∈ n.records r, m.FitsAt text p → m.sequence.length ≤ l.sequence.length) ∧
          ∃ before g after, r.glyphs = before ++ g :: after ∧ l.replacement = n.source g.key ∧
            (∃ word ∈ g.texts, (n.ligatureOf g word).sequence = l.sequence) ∧
            ∀ g' ∈ before, ∀ word ∈ g'.texts, (n.ligatureOf g' word).sequence ≠ l.sequence := by
  obtain ⟨n, entries, hn, -, -, rfl⟩ := RosterOptions.compile_eq_ok.mp hc
  have h := hlawful.ligatures
  have hmem : ∀ m, m ∈ (o.rosterOf n r entries).ligatures ↔ m ∈ n.records r := by
    intro m
    rw [← n.ligatures_linksAll]
    exact List.mem_mergeSort
  -- a record that fits has an item of the same sequence, so that item fits as well
  have hitem : ∀ (text : List GlyphId) (p : Nat), ∀ m ∈ n.records r, m.FitsAt text p →
      ∃ l ∈ (Ligature.items builders.ligatures (o.rosterOf n r entries).ligatures).1,
        l.FitsAt text p ∧ l.sequence = m.sequence := by
    intro text p m hm hfits
    obtain ⟨l, hl, hsame⟩ := Ligature.exists_item h ((hmem m).mpr hm) (Numbering.sequence_ne_nil hm)
    exact ⟨l, hl, by rwa [Ligature.FitsAt, hsame], hsame⟩
  rw [Roster.ligatureItems_eq]
  refine ⟨n, hn, Ligature.nodup_sequences_items h _, fun text p =>
    ⟨⟨?_, ?_⟩, fun l hfirst => ⟨?_, ?_⟩⟩⟩
  · rintro ⟨l, hl, hfits⟩
    exact ⟨l, (hmem l).mp (Ligature.mem_of_mem_items h hl), hfits⟩
  · rintro ⟨m, hm, hfits⟩
    obtain ⟨l, hl, hlfits, -⟩ := hitem text p m hm hfits
    exact ⟨l, hl, hlfits⟩
  · intro m hm hfits
    obtain ⟨k, hk, hkfits, hsame⟩ := hitem text p m hm hfits
    rw [← hsame]
    exact Ligature.length_le_of_find?_items h hfirst hk hkfits
  · have hkept := ((Ligature.mem_items_iff h).mp (List.mem_of_find?_eq_some hfirst)).2
    rw [o.find?_ligatures_rosterOf] at hkept
    exact Numbering.find?_records_eq_some hkept

/-- Two glyphs that replace the same text, and texts with unknown keys that come to the same. -/
def sampleTies : Repertoire where
  glyphs := [.ofKey "a", .ofKey "b", { Glyph.ofKey "c" with ligatures := some ["a", "ab", "ax"] },
    { Glyph.ofKey "d" with ligatures := some ["ab", "ay", "aba"] }]
  distinct := by decide

theorem compile_sampleTies :
    ∃ t : Roster Int, (RosterOptions.compile {} sampleTies).outcome = .ok t ∧
      t.ligatureItems .standard = [⟨[1, 2, 1], 4⟩, ⟨[1, 2], 3⟩, ⟨[1, 0], 3⟩, ⟨[1], 3⟩] ∧
      ∃ n, Numbering.assign sampleTies = .ok n ∧
        ∀ m ∈ n.records sampleTies, m.FitsAt [2, 1, 2, 2] 1 → m.sequence.length ≤ 2 := by
  have hrun : (RosterOptions.compile {} sampleTies : Report (Roster Int)).outcome.map
      (·.ligatureItems .standard) = .ok [⟨[1, 2, 1], 4⟩, ⟨[1, 2], 3⟩, ⟨[1, 0], 3⟩, ⟨[1], 3⟩] := by
    cbv
  obtain ⟨t, ht, hitems⟩ := map_eq_ok.mp hrun
  obtain ⟨n, hn, -, hfits⟩ := first_ligature_item {} sampleTies t Builders.isLawful_standard ht
  have hfirst : (t.ligatureItems .standard).find? (fun l => l.FitsAt [2, 1, 2, 2] 1) =
      some ⟨[1, 2], 3⟩ := by
    rw [hitems]
    decide
  exact ⟨t, ht, hitems, n, hn, ((hfits [2, 1, 2, 2] 1).2 _ hfirst).1⟩

end Gridface
