import Gridface.Proofs.Roster.References

/-!
# What a roster is compiled from

Every entry of a roster comes from a glyph of the repertoire, under the id that the glyph is
numbered with, and every substitution of the roster from what a glyph says of itself.
-/

namespace Gridface

variable {α : Type} [Coordinate α] {o : RosterOptions} {r : Repertoire} {n : Numbering}

/-! ## Entries and links of some glyphs -/

/-- The outline of the glyph; one that is not drawn has none. -/
def Glyph.outline (m : Metrics) (g : Glyph) : Except Fault (Outline α) :=
  match g.bitmap with
  | some bitmap => bitmap.outline m
  | none => .ok []

/-- The entry of the glyph with the given outline. -/
def Glyph.entryWith (m : Metrics) (g : Glyph) (id : GlyphId) (outline : Outline α) : Entry α where
  key := g.key
  name := g.name
  id := id
  codePoint := g.codePoint
  advance := if g.zeroAdvance then 0 else m.unitsPerEm
  outline := outline

theorem Glyph.entry_eq_ok {m : Metrics} {g : Glyph} {id : GlyphId} {e : Entry α} :
    g.entry m id = .ok e ↔ ∃ outline, g.outline m = .ok outline ∧ g.entryWith m id outline = e := by
  unfold entry Glyph.outline entryWith
  cases g.bitmap with
  | none => simp [bind, Except.bind, pure, Except.pure]
  | some bitmap =>
      cases hb : bitmap.outline (α := α) m with
      | error e => simp [hb, bind, Except.bind]
      | ok outline => simp [hb, bind, Except.bind, pure, Except.pure]

/-- The substitutions of some glyphs under their ids, in order. -/
def Numbering.linksAll (n : Numbering) (pairs : List (Glyph × GlyphId)) : Links where
  ligatures := pairs.flatMap fun p => (n.linksOf p.1 p.2).ligatures
  alternates := pairs.flatMap fun p => (n.linksOf p.1 p.2).alternates
  unresolved := pairs.flatMap fun p => (n.linksOf p.1 p.2).unresolved

theorem Numbering.linksAll_cons (g : Glyph) (id : GlyphId) (pairs : List (Glyph × GlyphId)) :
    n.linksAll ((g, id) :: pairs) = n.linksOf g id ++ n.linksAll pairs := rfl

namespace RosterOptions

theorem compileAll_eq_ok {pairs : List (Glyph × GlyphId)} {entries : List (Entry α)}
    {links : Links} :
    (o.compileAll n pairs).outcome = .ok (entries, links) ↔
      entries.map .ok = pairs.map (fun p => p.1.entry o.metrics p.2) ∧
        (o.policy = .refuse → links.unresolved = []) ∧ links = n.linksAll pairs := by
  induction pairs generalizing entries links with
  | nil =>
      simp only [compileAll, Report.outcome_pure, Except.ok.injEq, Prod.mk.injEq, List.map_nil,
        List.map_eq_nil_iff]
      constructor
      · rintro ⟨rfl, rfl⟩
        exact ⟨rfl, fun _ => rfl, rfl⟩
      · rintro ⟨rfl, -, rfl⟩
        exact ⟨rfl, rfl⟩
  | cons p pairs ih =>
      obtain ⟨g, id⟩ := p
      simp only [compileAll, Report.bind_eq_ok, Report.outcome_liftM, Report.outcome_pure,
        UnknownKeyPolicy.outcome_links, UnknownKeyPolicy.judge_eq_ok, ih, Prod.exists,
        Except.ok.injEq, Prod.mk.injEq, List.map_cons, Numbering.linksAll_cons]
      constructor
      · rintro ⟨e, he, links, ⟨haccept, rfl⟩, es, rest, ⟨hes, haccepts, rfl⟩, rfl, rfl⟩
        refine ⟨by rw [List.map_cons, he, hes], fun hrefuse => ?_, rfl⟩
        rw [Links.append_eq, haccept hrefuse, haccepts hrefuse, List.append_nil]
      · rintro ⟨hentries, haccept, rfl⟩
        obtain ⟨e, es, rfl, he, hes⟩ := List.map_eq_cons_iff.mp hentries
        have hboth : o.policy = .refuse →
            (n.linksOf g id).unresolved = [] ∧ (n.linksAll pairs).unresolved = [] :=
          fun hrefuse => List.append_eq_nil_iff.mp (haccept hrefuse)
        exact ⟨e, he.symm, _, ⟨fun h => (hboth h).1, rfl⟩, es, _,
          ⟨hes, fun h => (hboth h).2, rfl⟩, rfl, rfl⟩

end RosterOptions

/-! ## Ligatures by text -/

/-- The texts that the glyph replaces, apart from empty ones. -/
def Glyph.texts (g : Glyph) : List String :=
  (g.ligatures.getD []).filter fun text => !text.toList.isEmpty

/-- The ligature that replaces a text by the glyph. -/
def Numbering.ligatureOf (n : Numbering) (g : Glyph) (text : String) : Ligature where
  sequence := (spelling text).map n.source
  replacement := n.source g.key

/-- The ligatures of all glyphs, in the order of the repertoire. -/
def Numbering.records (n : Numbering) (r : Repertoire) : List Ligature :=
  r.glyphs.flatMap fun g => g.texts.map (n.ligatureOf g)

theorem Numbering.mem_records_iff {l : Ligature} :
    l ∈ n.records r ↔ ∃ g ∈ r.glyphs, ∃ text ∈ g.texts, n.ligatureOf g text = l := by
  simp [records]

theorem Numbering.ligatures_linksOf (n : Numbering) (g : Glyph) :
    (n.linksOf g (n.source g.key)).ligatures = g.texts.map (n.ligatureOf g) := by
  show (g.ligatures.getD []).flatMap (n.ligaturesFor _) = _
  unfold Glyph.texts
  induction g.ligatures.getD [] with
  | nil => rfl
  | cons text texts ih =>
      rw [List.flatMap_cons, ih]
      by_cases htext : text.toList.isEmpty
      · simp [ligaturesFor, htext]
      · simp [ligaturesFor, htext, ligatureOf]

theorem Numbering.ligatures_linksAll (n : Numbering) (r : Repertoire) :
    (n.linksAll (r.glyphs.map fun g => (g, n.source g.key))).ligatures = n.records r := by
  simp [linksAll, records, List.flatMap_map, ligatures_linksOf]

/-! ## The roster of a repertoire -/

/-- The roster of some entries and links. -/
def RosterOptions.rosterFrom (o : RosterOptions) (parts : List (Entry α) × Links) : Roster α :=
  let entries := parts.1.mergeSort fun a b => a.id ≤ b.id
  { metrics := o.metrics
    entries
    ligatures := parts.2.ligatures.mergeSort fun a b => b.sequence.length ≤ a.sequence.length
    alternates := parts.2.alternates
    rules := (o.style.rules (entries.map fun e => (e.name, e.id))).1
    unresolved := parts.2.unresolved }

/-- What notices a build makes has no part in its outcome. -/
theorem RosterOptions.outcome_compile (o : RosterOptions) (r : Repertoire) :
    (o.compile r : Report (Roster α)).outcome =
      Numbering.assign r >>= fun n =>
      (o.compileAll n (r.glyphs.zip (n.ids.map Prod.snd))).outcome >>= fun parts =>
      .ok (o.rosterFrom parts) := by
  simp only [compile, Report.outcome_bind, Report.outcome_liftM, Report.outcome_noteAll,
    Report.outcome_pure]
  rfl

/-- The roster of a repertoire that is numbered by `n`, with the entries of its glyphs. -/
def RosterOptions.rosterOf (o : RosterOptions) (n : Numbering) (r : Repertoire)
    (entries : List (Entry α)) : Roster α :=
  o.rosterFrom (entries, n.linksAll (r.glyphs.map fun g => (g, n.source g.key)))

theorem Numbering.Numbers.zip_ids (h : n.Numbers r) :
    r.glyphs.zip (n.ids.map Prod.snd) = r.glyphs.map fun g => (g, n.source g.key) := by
  have hzip := List.zip_map' (f := id) (g := n.source ∘ Glyph.key) (l := r.glyphs)
  rw [List.map_id] at hzip
  rw [h.ids_eq, Repertoire.keys, List.map_map, hzip]
  rfl

/-- A repertoire is compiled if it can be numbered, every glyph has an outline and the policy does
not refuse what is left unresolved. -/
theorem RosterOptions.compile_eq_ok {t : Roster α} :
    (o.compile r).outcome = .ok t ↔
      ∃ n entries, Numbering.assign r = .ok n ∧
        entries.map .ok = r.glyphs.map (fun g => g.entry o.metrics (n.source g.key)) ∧
        (o.policy = .refuse → t.unresolved = []) ∧ t = o.rosterOf n r entries := by
  simp only [compile, Report.bind_eq_ok, Report.outcome_liftM, Report.outcome_pure,
    compileAll_eq_ok, Prod.exists, Report.outcome_noteAll]
  constructor
  · rintro ⟨n, hn, entries, links, ⟨hentries, haccept, rfl⟩, -, -, ht⟩
    rw [(Numbering.numbers_of_assign hn).zip_ids, List.map_map] at hentries
    rw [(Numbering.numbers_of_assign hn).zip_ids] at haccept ht
    cases ht
    exact ⟨n, entries, hn, hentries, haccept, rfl⟩
  · rintro ⟨n, entries, hn, hentries, haccept, rfl⟩
    refine ⟨n, hn, entries, _, ⟨?_, ?_, rfl⟩, (), trivial, ?_⟩
    · rw [(Numbering.numbers_of_assign hn).zip_ids, List.map_map]
      exact hentries
    · rw [(Numbering.numbers_of_assign hn).zip_ids]
      exact haccept
    · rw [(Numbering.numbers_of_assign hn).zip_ids]
      rfl

namespace Roster

/-- How the roster comes from the glyphs of the repertoire, which `n` numbers. -/
structure Compiled (t : Roster α) (o : RosterOptions) (r : Repertoire) (n : Numbering) : Prop where
  numbers : n.Numbers r
  mem_entries_iff : ∀ e, e ∈ t.entries ↔
    ∃ g ∈ r.glyphs, g.entry o.metrics (n.source g.key) = .ok e
  drawn : ∀ g ∈ r.glyphs, ∃ e ∈ t.entries, g.entry o.metrics (n.source g.key) = .ok e
  alternates_eq : t.alternates =
    r.glyphs.flatMap fun g => (n.linksOf g (n.source g.key)).alternates
  rules_eq : t.rules = (o.style.rules (t.entries.map fun e => (e.name, e.id))).1
  unresolved_eq : t.unresolved =
    r.glyphs.flatMap fun g => (n.linksOf g (n.source g.key)).unresolved
  accepted : o.policy = .refuse → t.unresolved = []

theorem compiled_rosterOf {entries : List (Entry α)} (hn : Numbering.assign r = .ok n)
    (hentries : entries.map .ok = r.glyphs.map fun g => g.entry o.metrics (n.source g.key))
    (haccept : o.policy = .refuse → (o.rosterOf n r entries).unresolved = []) :
    (o.rosterOf n r entries).Compiled o r n := by
  have hsorted : ∀ e, e ∈ (o.rosterOf n r entries).entries ↔ e ∈ entries := by
    intro e
    exact List.mem_mergeSort
  refine ⟨Numbering.numbers_of_assign hn, fun e => ?_, fun g hg => ?_, ?_, rfl, ?_, haccept⟩
  · rw [hsorted]
    exact mem_iff_of_map_ok hentries
  · obtain ⟨e, he, hentry⟩ := exists_of_map_ok hentries hg
    exact ⟨e, (hsorted e).mpr he, hentry⟩
  · exact List.flatMap_map ..
  · exact List.flatMap_map ..

theorem compiled_of_compile {t : Roster α} (h : (o.compile r).outcome = .ok t) :
    ∃ n, t.Compiled o r n := by
  obtain ⟨n, entries, hn, hentries, haccept, rfl⟩ := RosterOptions.compile_eq_ok.mp h
  exact ⟨n, compiled_rosterOf hn hentries haccept⟩

namespace Compiled

variable {t : Roster α}

theorem mem_alternates_iff (h : t.Compiled o r n) {a : Alternate} :
    a ∈ t.alternates ↔ ∃ g ∈ r.glyphs, ∃ key, g.alternate = some key ∧
      a = { source := n.source key, replacement := n.source g.key } := by
  simp [h.alternates_eq, Numbering.linksOf, eq_comm]

/-- What a glyph replaces is what it is said to be an alternate for. -/
theorem replaced_by_iff (h : t.Compiled o r n) {g : Glyph} (hg : g ∈ r.glyphs) {id : GlyphId} :
    { source := id, replacement := n.source g.key } ∈ t.alternates ↔
      ∃ key, g.alternate = some key ∧ id = n.source key := by
  rw [h.mem_alternates_iff]
  constructor
  · rintro ⟨g', hg', key, halt, he⟩
    obtain ⟨hsource, hsame⟩ := Alternate.mk.inj he
    have hkey := h.numbers.source_inj (List.mem_map_of_mem hg) hsame.symm
    obtain rfl := List.inj_on_of_nodup_map r.distinct hg' hg hkey
    exact ⟨key, halt, hsource⟩
  · rintro ⟨key, halt, rfl⟩
    exact ⟨g, hg, key, halt, rfl⟩

/-- What is left unresolved are the mentions of keys that no glyph has. -/
theorem mem_unresolved_iff (h : t.Compiled o r n) {ref : Reference} :
    ref ∈ t.unresolved ↔
      ∃ g ∈ r.glyphs, g.key = ref.glyph ∧ ref.key ∈ g.mentions ∧ ref.key ∉ r.keys := by
  simp only [h.unresolved_eq, Numbering.linksOf, List.mem_flatMap, h.numbers.missing_eq]
  constructor
  · rintro ⟨g, hg, key, hkey, hmem⟩
    split at hmem
    · cases hmem
    · rename_i hnot
      obtain rfl := List.mem_singleton.mp hmem
      exact ⟨g, hg, rfl, hkey, hnot⟩
  · rintro ⟨g, hg, hglyph, hkey, hnot⟩
    refine ⟨g, hg, ref.key, hkey, ?_⟩
    rw [if_neg hnot, List.mem_singleton, hglyph]

/-- Every entry is that of a glyph. -/
theorem glyph_of_mem (h : t.Compiled o r n) {e : Entry α} (he : e ∈ t.entries) :
    ∃ g ∈ r.glyphs, e.key = g.key ∧ e.name = g.name ∧ e.id = n.source g.key := by
  obtain ⟨g, hg, hentry⟩ := (h.mem_entries_iff e).mp he
  obtain ⟨outline, -, rfl⟩ := Glyph.entry_eq_ok.mp hentry
  exact ⟨g, hg, rfl, rfl, rfl⟩

/-- Every glyph is found under its key. -/
theorem find?_key (h : t.Compiled o r n) {g : Glyph} (hg : g ∈ r.glyphs) :
    ∃ e ∈ t.entries, t.find? g.key = some e ∧ e.name = g.name ∧ e.id = n.source g.key := by
  obtain ⟨e, he, hentry⟩ := h.drawn g hg
  obtain ⟨outline, -, hwith⟩ := Glyph.entry_eq_ok.mp hentry
  have hkey : e.key = g.key := by rw [← hwith]; rfl
  obtain ⟨e', hfind⟩ : ∃ e', t.find? g.key = some e' := by
    cases hfind : t.find? g.key with
    | none => exact absurd (List.find?_eq_none.mp hfind e he) (by simp [hkey])
    | some e' => exact ⟨e', rfl⟩
  have hmem := List.mem_of_find?_eq_some hfind
  obtain ⟨g', hg', hentry'⟩ := (h.mem_entries_iff e').mp hmem
  obtain ⟨outline', -, rfl⟩ := Glyph.entry_eq_ok.mp hentry'
  have hfound := List.find?_some hfind
  have hsame : g'.key = g.key := beq_iff_eq.mp hfound
  obtain rfl := List.inj_on_of_nodup_map r.distinct hg' hg hsame
  exact ⟨_, hmem, hfind, rfl, rfl⟩

end Compiled

end Roster

end Gridface
