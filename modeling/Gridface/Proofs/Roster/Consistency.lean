import Gridface.Proofs.Cartouche.Rules
import Gridface.Proofs.Roster.Compile
import Gridface.Proofs.Sorting
import Mathlib

/-!
# Consistency of rosters

A roster has one entry for each glyph, one ligature for each text that is not empty and one
alternate for each glyph that is one. The ids that it mentions are those of its entries, and the
missing glyph stands just for what is left unresolved.
-/

namespace Gridface

variable {α : Type} {t : Roster α}

/-! ## The number of glyphs -/

/-- With ascending ids the last entry has the greatest id. -/
theorem glyphCount_eq_max (h : t.entries.Pairwise fun a b => a.id < b.id) :
    t.glyphCount = (t.entries.map Entry.id).max?.getD 0 + 1 := by
  unfold Roster.glyphCount
  rcases t.entries.eq_nil_or_concat' with hnil | ⟨init, last, hconcat⟩
  · rw [hnil]
    rfl
  · have hmax : (t.entries.map Entry.id).max? = some last.id := by
      rw [List.max?_eq_some_iff, hconcat]
      refine ⟨List.mem_map_of_mem List.mem_concat_self, fun id hid => ?_⟩
      obtain ⟨e, he, rfl⟩ := List.mem_map.mp hid
      rw [hconcat, List.pairwise_append] at h
      rcases List.mem_append.mp he with he | he
      · exact Nat.le_of_lt (h.2.2 e he last List.mem_cons_self)
      · rw [List.mem_singleton.mp he]
    rw [hmax, hconcat, List.getLast?_concat]
    rfl

theorem glyphCount_lt_size (h : ∀ e ∈ t.entries, e.id ≤ GlyphId.greatest) :
    t.glyphCount < UInt16.size := by
  unfold Roster.glyphCount
  split
  · rename_i e he
    exact Nat.lt_succ_of_le (Nat.succ_le_succ (h e (List.mem_of_getLast? he)))
  · decide

variable [Coordinate α] {o : RosterOptions} {r : Repertoire} {n : Numbering}

/-! ## What is consistent -/

/-- The entry is that of the glyph, under the id that the glyph is numbered with. -/
structure Entry.Shows (e : Entry α) (g : Glyph) (m : Metrics) (n : Numbering) : Prop where
  key_eq : e.key = g.key
  name_eq : e.name = g.name
  codePoint_eq : e.codePoint = g.codePoint
  advance_eq : e.advance = if g.zeroAdvance then 0 else m.unitsPerEm
  outline_eq : g.outline m = .ok e.outline
  id_eq : n.find? g.key = some e.id

/-- A glyph of the roster has the id. -/
def Roster.HasId (t : Roster α) (id : GlyphId) : Prop := ∃ e ∈ t.entries, e.id = id

/-- The roster holds what the glyphs say, and refers to nothing outside itself. -/
structure Roster.Consistent (t : Roster α) (o : RosterOptions) (r : Repertoire) (n : Numbering) :
    Prop where
  assigned : Numbering.assign r = .ok n
  ascending : t.entries.Pairwise fun a b => a.id < b.id
  range : ∀ e ∈ t.entries, 0 < e.id ∧ e.id ≤ GlyphId.greatest
  shown : ∃ entries, entries.Perm t.entries ∧
    List.Forall₂ (fun g e => e.Shows g o.metrics n) r.glyphs entries
  glyphCount_lt : t.glyphCount < UInt16.size
  glyphCount_eq : t.glyphCount = (t.entries.map Entry.id).max?.getD 0 + 1
  ligatures_perm : t.ligatures.Perm (n.records r)
  alternates_eq : t.alternates = r.glyphs.filterMap fun g =>
    g.alternate.map fun key => { source := n.source key, replacement := n.source g.key }
  sequences : ∀ l ∈ t.ligatures, ∀ id ∈ l.sequence, id = GlyphId.notdef ∨ t.HasId id
  sources : ∀ a ∈ t.alternates, a.source = GlyphId.notdef ∨ t.HasId a.source
  rules : ∀ rule ∈ t.rules, ∀ set ∈ rule.input :: (rule.backtrack ++ rule.lookahead),
    ∀ id ∈ set, t.HasId id
  /-- The missing glyph is mentioned as often as a key is left unresolved. -/
  count_notdef : (t.ligatures.flatMap Ligature.sequence ++
    t.alternates.map Alternate.source).count GlyphId.notdef = t.unresolved.length

/-! ## Entries -/

theorem Numbering.Numbers.find?_source (h : n.Numbers r) {g : Glyph} (hg : g ∈ r.glyphs) :
    n.find? g.key = some (n.source g.key) :=
  (find?_eq_some_iff (h.keys_eq ▸ r.distinct)).mpr (h.mem_source (List.mem_map_of_mem hg))

theorem forall₂_shows (h : n.Numbers r) {entries : List (Entry α)}
    (hentries : entries.map .ok = r.glyphs.map fun g => g.entry o.metrics (n.source g.key)) :
    List.Forall₂ (fun g e => e.Shows g o.metrics n) r.glyphs entries := by
  have hmem := (List.forall₂_and_left _ _).mpr
    ⟨fun g (hg : g ∈ r.glyphs) => h.find?_source hg, forall₂_of_map_ok hentries⟩
  refine hmem.imp fun g e hge => ?_
  obtain ⟨hfind, hentry⟩ := hge
  obtain ⟨outline, houtline, rfl⟩ := Glyph.entry_eq_ok.mp hentry
  exact ⟨rfl, rfl, rfl, rfl, houtline, hfind⟩

theorem ids_of_forall₂_shows {m : Metrics} {gs : List Glyph} {entries : List (Entry α)}
    (h : List.Forall₂ (fun g e => e.Shows g m n) gs entries) :
    entries.map Entry.id = gs.map fun g => n.source g.key := by
  induction h with
  | nil => rfl
  | cons hshows _ ih =>
      rw [List.map_cons, List.map_cons, ih, Numbering.source, hshows.id_eq]
      rfl

/-! ## The missing glyph -/

/-- The ids that the substitutions ask for, in order. -/
def Links.sources (l : Links) : List GlyphId :=
  l.ligatures.flatMap Ligature.sequence ++ l.alternates.map Alternate.source

theorem Links.sources_append (a b : Links) : (a ++ b).sources.Perm (a.sources ++ b.sources) := by
  rw [append_eq, sources, sources, sources, List.flatMap_append, List.map_append]
  simp only [List.append_assoc]
  refine List.Perm.append_left _ ?_
  rw [← List.append_assoc, ← List.append_assoc]
  exact List.perm_append_comm.append_right _

/-- A glyph's substitutions ask for what it mentions. -/
theorem Numbering.sources_linksOf (n : Numbering) (g : Glyph) (id : GlyphId) :
    (n.linksOf g id).sources = g.mentions.map n.source := by
  have hligatures : ∀ texts : List String,
      (texts.flatMap (n.ligaturesFor id)).flatMap Ligature.sequence =
        (texts.flatMap spelling).map n.source := by
    intro texts
    rw [List.flatMap_assoc, List.map_flatMap]
    refine List.flatMap_congr fun text _ => ?_
    unfold ligaturesFor spelling
    cases text.toList with
    | nil => rfl
    | cons c cs => simp
  simp [Links.sources, linksOf, Glyph.mentions, hligatures, Function.comp_def]

theorem Numbering.Numbers.count_source (h : n.Numbers r) (glyph : String) (keys : List String) :
    (keys.map n.source).count GlyphId.notdef = (keys.flatMap (n.missing glyph)).length := by
  induction keys with
  | nil => rfl
  | cons key keys ih =>
      rw [List.map_cons, List.flatMap_cons, List.length_append, ← ih, h.missing_eq]
      by_cases hkey : key ∈ r.keys
      · have hne : n.source key ≠ GlyphId.notdef := Nat.ne_of_gt (h.source_pos hkey)
        rw [List.count_cons_of_ne hne, if_pos hkey, List.length_nil, Nat.zero_add]
      · rw [h.source_eq_notdef_iff.mpr hkey, List.count_cons_self, if_neg hkey,
          List.length_singleton, Nat.add_comm]

/-- Glyph by glyph, the missing glyph is asked for as often as a key is left unresolved. -/
theorem Numbering.Numbers.count_sources (h : n.Numbers r) (pairs : List (Glyph × GlyphId)) :
    (n.linksAll pairs).sources.count GlyphId.notdef = (n.linksAll pairs).unresolved.length := by
  induction pairs with
  | nil => rfl
  | cons p pairs ih =>
      obtain ⟨g, id⟩ := p
      have hglyph : (n.linksOf g id).sources.count GlyphId.notdef =
          (n.linksOf g id).unresolved.length := by
        rw [n.sources_linksOf]
        exact h.count_source g.key g.mentions
      rw [linksAll_cons, (Links.sources_append _ _).count_eq, List.count_append, hglyph, ih,
        Links.append_eq, List.length_append]

/-! ## Ids -/

namespace Roster.Compiled

theorem hasId_source (h : t.Compiled o r n) (key : String) :
    n.source key = GlyphId.notdef ∨ t.HasId (n.source key) := by
  by_cases hkey : key ∈ r.keys
  · obtain ⟨g, hg, rfl⟩ := List.mem_map.mp hkey
    obtain ⟨e, he, -, -, hid⟩ := h.find?_key hg
    exact Or.inr ⟨e, he, hid⟩
  · exact Or.inl (h.numbers.source_eq_notdef_iff.mpr hkey)

theorem hasId_of_mem_rule (h : t.Compiled o r n) {rule : ContextRule} (hrule : rule ∈ t.rules)
    {set : GlyphSet} (hset : set ∈ rule.input :: (rule.backtrack ++ rule.lookahead)) {id : GlyphId}
    (hid : id ∈ set) : t.HasId id := by
  rw [h.rules_eq] at hrule
  obtain ⟨name, hname⟩ := CartoucheStyle.exists_name_of_mem_rule hrule hset hid
  obtain ⟨e, he, hpair⟩ := List.mem_map.mp hname
  exact ⟨e, he, (Prod.mk.inj hpair).2⟩

end Roster.Compiled

/-! ## Consistency -/

theorem alternates_linksAll (n : Numbering) (r : Repertoire) :
    (n.linksAll (r.glyphs.map fun g => (g, n.source g.key))).alternates =
      r.glyphs.filterMap fun g => g.alternate.map fun key =>
        { source := n.source key, replacement := n.source g.key } := by
  simp only [Numbering.linksAll, Numbering.linksOf, List.flatMap_map]
  induction r.glyphs with
  | nil => rfl
  | cons g gs ih =>
      rw [List.flatMap_cons, List.filterMap_cons, ih]
      cases g.alternate <;> rfl

/-- A roster is consistent with the repertoire that it is compiled from. -/
theorem consistent_of_compile (h : (o.compile r).outcome = .ok t) : ∃ n, t.Consistent o r n := by
  obtain ⟨n, entries, hn, hentries, haccept, rfl⟩ := RosterOptions.compile_eq_ok.mp h
  have hc := Roster.compiled_rosterOf hn hentries haccept
  have hshown := forall₂_shows hc.numbers hentries
  have hids : (entries.map Entry.id).Nodup := by
    have hnodup := hc.numbers.ids_eq ▸ hc.numbers.nodup
    rw [Repertoire.keys, List.map_map] at hnodup
    rw [ids_of_forall₂_shows hshown]
    exact hnodup
  have hascending : (o.rosterOf n r entries).entries.Pairwise fun a b => a.id < b.id :=
    pairwise_lt_mergeSort hids
  have hrange : ∀ e ∈ (o.rosterOf n r entries).entries, 0 < e.id ∧ e.id ≤ GlyphId.greatest := by
    intro e he
    obtain ⟨g, hg, -, -, hid⟩ := hc.glyph_of_mem he
    rw [hid]
    exact hc.numbers.range _
      (List.mem_map_of_mem (hc.numbers.mem_source (List.mem_map_of_mem hg)))
  have hligatures : (o.rosterOf n r entries).ligatures.Perm (n.records r) := by
    rw [← n.ligatures_linksAll]
    exact List.mergeSort_perm _ _
  refine ⟨n, hn, hascending, hrange, ⟨entries, (List.mergeSort_perm _ _).symm, hshown⟩,
    glyphCount_lt_size fun e he => (hrange e he).2, glyphCount_eq_max hascending, hligatures,
    alternates_linksAll n r, fun l hl id hid => ?_, fun a ha => ?_,
    fun rule hrule set hset id hid => hc.hasId_of_mem_rule hrule hset hid, ?_⟩
  · obtain ⟨g, hg, text, -, rfl⟩ := Numbering.mem_records_iff.mp (hligatures.mem_iff.mp hl)
    obtain ⟨key, -, rfl⟩ := List.mem_map.mp hid
    exact hc.hasId_source key
  · obtain ⟨g, -, key, -, rfl⟩ := hc.mem_alternates_iff.mp ha
    exact hc.hasId_source key
  · have hperm : ((o.rosterOf n r entries).ligatures.flatMap Ligature.sequence ++
        (o.rosterOf n r entries).alternates.map Alternate.source).Perm
        (n.linksAll (r.glyphs.map fun g => (g, n.source g.key))).sources :=
      ((List.mergeSort_perm _ _).flatMap_right _).append_right _
    rw [hperm.count_eq]
    exact hc.numbers.count_sources _

/-- The first glyph asks for an id and replaces a text with an unknown key, besides the empty text;
the second is an alternate for the first. -/
def sampleLinks : Repertoire where
  glyphs := [{ Glyph.ofKey "a" with index := some 5, ligatures := some ["bx", ""] },
    { Glyph.ofKey "b" with alternate := some "a" }]
  distinct := by decide

theorem consistent_sampleLinks :
    ∃ t : Roster Int, (RosterOptions.compile {} sampleLinks).outcome = .ok t ∧
      t.entries.map Entry.id = [1, 5] ∧ t.ligatures = [⟨[1, 0], 5⟩] ∧ t.alternates = [⟨5, 1⟩] ∧
      t.unresolved = [⟨"a", "x"⟩] ∧ ∃ n, t.Consistent {} sampleLinks n := by
  have hrun : (RosterOptions.compile {} sampleLinks : Report (Roster Int)).outcome.map
      (fun t => (t.entries.map Entry.id, t.ligatures, t.alternates, t.unresolved)) =
      .ok ([1, 5], [⟨[1, 0], 5⟩], [⟨5, 1⟩], [⟨"a", "x"⟩]) := by
    cbv
  obtain ⟨t, ht, hall⟩ := map_eq_ok.mp hrun
  obtain ⟨hids, hrest⟩ := Prod.mk.inj hall
  obtain ⟨hligatures, hrest⟩ := Prod.mk.inj hrest
  obtain ⟨halternates, hunresolved⟩ := Prod.mk.inj hrest
  exact ⟨t, ht, hids, hligatures, halternates, hunresolved, consistent_of_compile ht⟩

end Gridface
