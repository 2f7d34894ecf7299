import Gridface.Proofs.Roster.Ids

/-!
# Glyphs in another order

The order of a repertoire decides which ids are left for glyphs that ask for none. Where every glyph
asks for its id, the same glyphs in another order make the same font.
-/

namespace Gridface

variable {α : Type} {r r' : Repertoire} {n n' : Numbering}

/-- Every glyph asks for its id. -/
def Repertoire.AllPinned (r : Repertoire) : Prop := ∀ g ∈ r.glyphs, g.index.isSome

/-! ## The ids -/

namespace Numbering

theorem granted_perm {gs gs' : List Glyph} (h : gs.Perm gs') : Granted gs ↔ Granted gs' := by
  have hasked : (asked gs).Perm (asked gs') := h.filterMap Glyph.index
  rw [granted_iff, granted_iff, hasked.nodup_iff]
  simp only [hasked.mem_iff]

theorem exists_assign_of_perm (hperm : r.glyphs.Perm r'.glyphs) (h : assign r = .ok n) :
    ∃ n', assign r' = .ok n' := by
  obtain ⟨hgranted, hsize, -⟩ := assign_eq_ok.mp h
  refine ⟨_, assign_eq_ok.mpr ⟨(granted_perm hperm).mp hgranted, ?_, rfl⟩⟩
  rw [Repertoire.size, ← hperm.length_eq]
  exact hsize

theorem Numbers.find?_eq_of_perm (h : n.Numbers r) (h' : n'.Numbers r')
    (hperm : r.glyphs.Perm r'.glyphs) (hpinned : r.AllPinned) : n.find? = n'.find? := by
  funext key
  have hkeys : key ∈ r.keys ↔ key ∈ r'.keys := (hperm.map Glyph.key).mem_iff
  by_cases hkey : key ∈ r.keys
  · obtain ⟨g, hg, rfl⟩ := List.mem_map.mp hkey
    obtain ⟨index, hindex⟩ := Option.isSome_iff_exists.mp (hpinned g hg)
    rw [h.find?_asked g hg index hindex, h'.find?_asked g (hperm.mem_iff.mp hg) index hindex]
  · rw [h.find?_eq_none_iff.mpr hkey, h'.find?_eq_none_iff.mpr (hkeys.not.mp hkey)]

theorem source_congr (h : n.find? = n'.find?) : n.source = n'.source := by
  funext key
  rw [source, source, h]

/-- What the glyphs replace is told by the ids of their keys. -/
theorem linksAll_congr (h : n.find? = n'.find?) : n.linksAll = n'.linksAll := by
  have hmissing : n.missing = n'.missing := by
    funext glyph key
    rw [missing, missing, h]
  have hlinks : n.linksOf = n'.linksOf := by
    funext g id
    unfold linksOf ligaturesFor
    rw [source_congr h, hmissing]
  funext pairs
  unfold linksAll
  rw [hlinks]

end Numbering

/-! ## The roster -/

/-- The rosters differ only in the order of their substitutions. -/
structure Roster.Reordered (t t' : Roster α) : Prop where
  entries_eq : t.entries = t'.entries
  glyphCount_eq : t.glyphCount = t'.glyphCount
  rules_eq : t.rules = t'.rules
  ligatures_perm : t.ligatures.Perm t'.ligatures
  alternates_perm : t.alternates.Perm t'.alternates
  unresolved_perm : t.unresolved.Perm t'.unresolved

theorem exists_entries_of_perm {f : Glyph → Except Fault (Entry α)} {entries : List (Entry α)}
    (h : entries.map .ok = r.glyphs.map f) (hperm : r.glyphs.Perm r'.glyphs) :
    ∃ entries', entries'.map .ok = r'.glyphs.map f ∧ entries.Perm entries' := by
  obtain ⟨entries', hrun⟩ : ∃ entries', r'.glyphs.mapM f = .ok entries' := by
    refine exists_mapM_eq_ok fun g hg => ?_
    obtain ⟨e, -, he⟩ := exists_of_map_ok h (hperm.mem_iff.mpr hg)
    exact ⟨e, he⟩
  have h' := mapM_eq_ok.mp hrun
  refine ⟨entries', h', ?_⟩
  have hmap : (entries.map (Except.ok (ε := Fault))).Perm (entries'.map .ok) := by
    rw [h, h']
    exact hperm.map f
  exact (List.map_perm_map_iff fun _ _ => Except.ok.inj).mp hmap

namespace RosterOptions

variable {o : RosterOptions}

theorem rosterOf_congr (h : n.find? = n'.find?) (entries : List (Entry α)) :
    o.rosterOf n r entries = o.rosterOf n' r entries := by
  unfold rosterOf
  rw [Numbering.source_congr h, Numbering.linksAll_congr h]

theorem reordered_rosterOf (n : Numbering) (hperm : r.glyphs.Perm r'.glyphs)
    {entries entries' : List (Entry α)} (hentries : entries.Perm entries')
    (hids : (entries.map Entry.id).Nodup) :
    (o.rosterOf n r entries).Reordered (o.rosterOf n r' entries') := by
  have hsorted : (o.rosterOf n r entries).entries = (o.rosterOf n r' entries').entries :=
    mergeSort_eq_of_perm hentries hids
  have hpairs := hperm.map fun g => (g, n.source g.key)
  constructor
  case entries_eq => exact hsorted
  case glyphCount_eq => rw [Roster.glyphCount, Roster.glyphCount, hsorted]
  case rules_eq =>
    show (o.style.rules ((o.rosterOf n r entries).entries.map _)).1 = _
    rw [hsorted]
    rfl
  case ligatures_perm =>
    have hflat := hpairs.flatMap_right fun p => (n.linksOf p.1 p.2).ligatures
    exact ((List.mergeSort_perm _ _).trans hflat).trans (List.mergeSort_perm _ _).symm
  case alternates_perm => exact hpairs.flatMap_right fun p => (n.linksOf p.1 p.2).alternates
  case unresolved_perm => exact hpairs.flatMap_right fun p => (n.linksOf p.1 p.2).unresolved

variable [Coordinate α]

/-- What is compiled in one order is compiled in the other. -/
theorem exists_compile_of_perm (hperm : r.glyphs.Perm r'.glyphs) (hpinned : r.AllPinned)
    {t : Roster α} (h : (o.compile r).outcome = .ok t) :
    ∃ t', (o.compile r').outcome = .ok t' ∧ t.Reordered t' := by
  obtain ⟨n, entries, hn, hentries, haccept, rfl⟩ := compile_eq_ok.mp h
  obtain ⟨n', hn'⟩ := Numbering.exists_assign_of_perm hperm hn
  have hnumbers := Numbering.numbers_of_assign hn
  have hfind := hnumbers.find?_eq_of_perm (Numbering.numbers_of_assign hn') hperm hpinned
  obtain ⟨entries', hentries', hsame⟩ := exists_entries_of_perm hentries hperm
  have hreordered := reordered_rosterOf (o := o) n hperm hsame (hnumbers.nodup_ids hentries)
  rw [rosterOf_congr hfind entries'] at hreordered
  rw [Numbering.source_congr hfind] at hentries'
  refine ⟨_, compile_eq_ok.mpr ⟨n', entries', hn', hentries', fun hrefuse => ?_, rfl⟩, hreordered⟩
  have hnil := hreordered.unresolved_perm
  rw [haccept hrefuse] at hnil
  exact hnil.symm.eq_nil

end RosterOptions

variable [Coordinate α]

theorem pairwise_ligatures_of_compile {o : RosterOptions} {t : Roster α}
    (h : (o.compile r).outcome = .ok t) :
    t.ligatures.Pairwise fun a b => b.sequence.length ≤ a.sequence.length := by
  obtain ⟨n, entries, -, -, -, rfl⟩ := RosterOptions.compile_eq_ok.mp h
  exact pairwise_ge_mergeSort (fun l : Ligature => l.sequence.length) _

/-- Where every glyph asks for its id, the same glyphs in another order make the same font, up to
the order of the substitutions, or make none either. -/
theorem compile_reordered (o : RosterOptions) (hperm : r.glyphs.Perm r'.glyphs)
    (hpinned : r.AllPinned) :
    ((∃ t : Roster α, (o.compile r).outcome = .ok t) ↔
      ∃ t' : Roster α, (o.compile r').outcome = .ok t') ∧
    ∀ t t' : Roster α, (o.compile r).outcome = .ok t → (o.compile r').outcome = .ok t' →
      t.Reordered t' ∧
      (t.ligatures.Pairwise fun a b => b.sequence.length ≤ a.sequence.length) ∧
      t'.ligatures.Pairwise fun a b => b.sequence.length ≤ a.sequence.length := by
  have hpinned' : r'.AllPinned := fun g hg => hpinned g (hperm.mem_iff.mpr hg)
  refine ⟨⟨?_, ?_⟩, fun t t' h h' => ?_⟩
  · rintro ⟨t, h⟩
    obtain ⟨t', h', -⟩ := RosterOptions.exists_compile_of_perm hperm hpinned h
    exact ⟨t', h'⟩
  · rintro ⟨t', h'⟩
    obtain ⟨t, h, -⟩ := RosterOptions.exists_compile_of_perm hperm.symm hpinned' h'
    exact ⟨t, h⟩
  · obtain ⟨t'', h'', hreordered⟩ := RosterOptions.exists_compile_of_perm hperm hpinned h
    cases h'.symm.trans h''
    exact ⟨hreordered, pairwise_ligatures_of_compile h, pairwise_ligatures_of_compile h'⟩

/-- The first glyph replaces two texts, the second is an alternate for a key without a glyph, and
both have one name. -/
def sampleTwoPinned : List Glyph :=
  [{ Glyph.ofKey "a" with index := some 5, ligatures := some ["b", "bax"] },
    { key := "b", name := "a", index := some 2, alternate := some "y" }]

theorem compile_sampleTwoPinned :
    ∃ t t' : Roster Int,
      (RosterOptions.compile {} ⟨sampleTwoPinned, by decide⟩).outcome = .ok t ∧
      (RosterOptions.compile {} ⟨sampleTwoPinned.reverse, by decide⟩).outcome = .ok t' ∧
      t.entries.map Entry.id = [2, 5] ∧
      t.unresolved = [⟨"a", "x"⟩, ⟨"b", "y"⟩] ∧ t'.unresolved = [⟨"b", "y"⟩, ⟨"a", "x"⟩] ∧
      t.Reordered t' := by
  have hrun : (RosterOptions.compile {} ⟨sampleTwoPinned, by decide⟩ :
      Report (Roster Int)).outcome.map (fun t => (t.entries.map Entry.id, t.unresolved)) =
      .ok ([2, 5], [⟨"a", "x"⟩, ⟨"b", "y"⟩]) := by
    cbv
  have hrun' : (RosterOptions.compile {} ⟨sampleTwoPinned.reverse, by decide⟩ :
      Report (Roster Int)).outcome.map Roster.unresolved = .ok [⟨"b", "y"⟩, ⟨"a", "x"⟩] := by
    cbv
  obtain ⟨t, ht, hall⟩ := map_eq_ok.mp hrun
  obtain ⟨hids, hunresolved⟩ := Prod.mk.inj hall
  obtain ⟨t', ht', hunresolved'⟩ := map_eq_ok.mp hrun'
  have hperm : (Repertoire.mk sampleTwoPinned (by decide)).glyphs.Perm
      (Repertoire.mk sampleTwoPinned.reverse (by decide)).glyphs :=
    sampleTwoPinned.reverse_perm.symm
  obtain ⟨-, hboth⟩ := compile_reordered (α := Int) {} hperm
    (by unfold Repertoire.AllPinned; decide)
  exact ⟨t, t', ht, ht', hids, hunresolved, hunresolved', (hboth t t' ht ht').1⟩

end Gridface
