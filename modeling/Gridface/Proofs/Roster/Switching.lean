import Gridface.Proofs.Cartouche.Rules
import Gridface.Proofs.Roster.Alternates

/-!
# The alternates that the cartouche rules apply

The rules find forms by name, and apply to a glyph the last of its alternates. Both agree on the
forms that are made for words; a form that is drawn by hand has to be said to be an alternate.
-/

namespace Gridface

variable {α : Type} [Coordinate α]

/-! ## The last alternate -/

/-- What the last of the alternates for a glyph replaces it by. -/
def Roster.lastAlternate? (t : Roster α) (id : GlyphId) : Option GlyphId :=
  (t.alternates.filter (·.source == id)).getLast?.map Alternate.replacement

/-- The key of the last glyph that is said to be an alternate for `key`. -/
def Repertoire.lastAlternate? (r : Repertoire) (key : String) : Option String :=
  (r.glyphs.filter (·.alternate == some key)).getLast?.map Glyph.key

namespace Roster.Compiled

variable {t : Roster α} {o : RosterOptions} {r : Repertoire} {n : Numbering}

/-- The alternates for a glyph come from the glyphs that are said to be one, in order. -/
theorem replacements_eq (h : t.Compiled o r n) {key : String} (hkey : key ∈ r.keys) :
    (t.alternates.filter (·.source == n.source key)).map Alternate.replacement =
      (r.glyphs.filter (·.alternate == some key)).map fun g => n.source g.key := by
  rw [h.alternates_eq]
  generalize r.glyphs = gs
  induction gs with
  | nil => rfl
  | cons g gs ih =>
      rw [List.flatMap_cons, List.filter_append, List.map_append, ih]
      cases halt : g.alternate with
      | none => simp [Numbering.linksOf, halt]
      | some other =>
          by_cases he : other = key
          · simp [Numbering.linksOf, halt, he]
          · have hne : n.source other ≠ n.source key :=
              fun hs => he (h.numbers.source_inj hkey hs)
            simp [Numbering.linksOf, halt, he, hne]

/-- The last alternate for a glyph is the last glyph that is said to be one. -/
theorem lastAlternate?_eq (h : t.Compiled o r n) {key : String} (hkey : key ∈ r.keys) :
    t.lastAlternate? (n.source key) = (r.lastAlternate? key).map n.source := by
  rw [Roster.lastAlternate?, Repertoire.lastAlternate?, ← List.getLast?_map,
    h.replacements_eq hkey, List.getLast?_map, Option.map_map]
  rfl

theorem lastAlternate?_eq_some_iff (h : t.Compiled o r n) {key other : String}
    (hkey : key ∈ r.keys) (hother : other ∈ r.keys) :
    t.lastAlternate? (n.source key) = some (n.source other) ↔
      r.lastAlternate? key = some other := by
  rw [h.lastAlternate?_eq hkey, Option.map_eq_some_iff]
  constructor
  · rintro ⟨last, hlast, he⟩
    rw [hlast, h.numbers.source_inj hother he]
  · intro hlast
    exact ⟨other, hlast, rfl⟩

/-- A glyph that a rule replaces has a form by name. -/
theorem exists_form (h : t.Compiled o r n) {rule : ContextRule} (hrule : rule ∈ t.rules)
    {e : Entry α} (he : e ∈ t.entries) (hid : e.id ∈ rule.input) :
    ∃ f ∈ t.entries, f.name = o.style.formName e.name := by
  rw [h.rules_eq] at hrule
  obtain ⟨name, form, hname, hform⟩ := CartoucheStyle.exists_form_of_mem_input hrule hid
  obtain ⟨e', he', hpair⟩ := List.mem_map.mp (mem_of_idNamed? hname)
  obtain ⟨f, hf, hpairForm⟩ := List.mem_map.mp (mem_of_idNamed? hform)
  obtain ⟨hname', hid'⟩ := Prod.mk.inj hpair
  obtain ⟨hformName, -⟩ := Prod.mk.inj hpairForm
  obtain ⟨w, hw, -, hwname, hwid⟩ := h.glyph_of_mem he
  obtain ⟨w', hw', -, hwname', hwid'⟩ := h.glyph_of_mem he'
  -- the name behind the id is that of the entry, since ids tell the glyphs
  have hsame : w'.key = w.key :=
    h.numbers.source_inj (List.mem_map_of_mem hw) (by rw [← hwid', hid', hwid])
  obtain rfl := List.inj_on_of_nodup_map r.distinct hw' hw hsame
  exact ⟨f, hf, by rw [hformName, ← hname', hwname, hwname']⟩

end Roster.Compiled

/-- A form whose name is no key before is the last alternate for its word. -/
theorem lastAlternate?_form {s : CartoucheStyle} {r r' : Repertoire}
    (hs : (r.synthesize s).outcome = .ok r')
    (hnames : ((r.glyphs.filter s.wantsForm).map Glyph.name).Nodup) {g : Glyph} (hg : g ∈ r.glyphs)
    (hwants : s.wantsForm g = true) (hnew : s.formName g.name ∉ r.keys) :
    r'.lastAlternate? g.name = some (s.formName g.name) := by
  obtain ⟨forms, old, hforms, -, hglyphs⟩ := Repertoire.glyphs_synthesize hs hnames
  obtain ⟨f, hf, hform⟩ := Repertoire.exists_form hforms hg hwants
  obtain ⟨hkey, -, halternate, -⟩ := CartoucheStyle.form_of_eq_ok hform
  let fresh := (forms.filter fun f => f.key ∉ r.keys).filter (·.alternate == some g.name)
  have hmem : f ∈ fresh := by
    simp [fresh, hf, hkey, halternate, hnew]
  have hall : ∀ x ∈ fresh, x.key = s.formName g.name := by
    intro x hx
    obtain ⟨hx, halt⟩ := List.mem_filter.mp hx
    obtain ⟨w, -, -, hw⟩ := (Repertoire.mem_forms_iff hforms).mp (List.mem_filter.mp hx).1
    obtain ⟨hkey', -, halternate', -⟩ := CartoucheStyle.form_of_eq_ok hw
    rw [halternate', beq_iff_eq, Option.some.injEq] at halt
    rw [hkey', halt]
  rw [Repertoire.lastAlternate?, hglyphs, List.filter_append, List.getLast?_append]
  cases hlast : fresh.getLast? with
  | none =>
      rw [List.getLast?_eq_none_iff.mp hlast] at hmem
      cases hmem
  | some x =>
      have hx := hall x (List.mem_of_getLast? hlast)
      rw [Option.some_or, Option.map_some, hx]

/-! ## What the rules replace -/

/-- The rules replace glyphs that have forms by name. The alternate that is applied is the form just
when the form is the last glyph that is said to be an alternate; for a word that a form is made
for, the form is one of its alternates, and the last one if its name was no key before. -/
theorem context_rules_alternate (o : RosterOptions) (r r' : Repertoire) (t : Roster α)
    (hnames : ∀ g ∈ r.glyphs, g.name = g.key) (hs : (r.synthesize o.style).outcome = .ok r')
    (hc : (o.compile r').outcome = .ok t) :
    ∀ rule ∈ t.rules, ∀ e ∈ t.entries, e.id ∈ rule.input →
      ∃ f ∈ t.entries, f.name = o.style.formName e.name ∧
        (t.lastAlternate? e.id = some f.id ↔ r'.lastAlternate? e.key = some f.key) ∧
        ∀ g ∈ r.glyphs, g.key = e.key → o.style.wantsForm g = true →
          { source := e.id, replacement := f.id } ∈ t.alternates ∧
          (o.style.formName g.name ∉ r.keys → t.lastAlternate? e.id = some f.id) := by
  intro rule hrule e he hid
  obtain ⟨n, h⟩ := Roster.compiled_of_compile hc
  obtain ⟨f, hf, hnamed⟩ := h.exists_form hrule he hid
  obtain ⟨w, hw, hwkey, hwname, hwid⟩ := h.glyph_of_mem he
  obtain ⟨x, hx, hxkey, hxname, hxid⟩ := h.glyph_of_mem hf
  have hnames' := Repertoire.name_eq_key_synthesize hnames hs
  have hxform : x.key = o.style.formName w.key := by
    rw [← hnames' x hx, ← hnames' w hw, ← hxname, ← hwname, hnamed]
  have hlast : t.lastAlternate? e.id = some f.id ↔ r'.lastAlternate? e.key = some f.key := by
    rw [hwid, hxid, hwkey, hxkey]
    exact h.lastAlternate?_eq_some_iff (List.mem_map_of_mem hw) (List.mem_map_of_mem hx)
  refine ⟨f, hf, hnamed, hlast, fun g hg hgkey hwants => ?_⟩
  have hwanted := Repertoire.nodup_names_of_named_by_key hnames o.style.wantsForm
  have hgname : g.name = w.key := by rw [hnames g hg, hgkey, hwkey]
  obtain ⟨y, hy, hyform⟩ := Repertoire.mem_synthesize_of_form hs hwanted hg hwants
  obtain ⟨hykey, -, halternate, -⟩ := CartoucheStyle.form_of_eq_ok hyform
  have hyx : y.key = x.key := by rw [hykey, hxform, hgname]
  obtain rfl := List.inj_on_of_nodup_map r'.distinct hy hx hyx
  constructor
  · rw [hwid, hxid]
    exact (h.replaced_by_iff hx).mpr ⟨g.name, halternate, by rw [hgname]⟩
  · intro hnew
    rw [hlast, hwkey, hxkey, hykey, ← hgname]
    exact lastAlternate?_form hs hwanted hg hwants hnew

/-- An opener and a closer that forms are made for, and a joiner whose form is drawn by hand but not
said to be an alternate. -/
def sampleJoiner : Repertoire where
  glyphs := [sampleWord "tp.s" "tp.s", sampleWord "tp.e" "tp.e", .ofKey "j", .ofKey "j.cart"]
  distinct := by decide

/-- The sample joiner with the forms of the opener and the closer. -/
def sampleJoinerForms : Repertoire where
  glyphs := sampleJoiner.glyphs ++ [sampleWordForm "tp.s", sampleWordForm "tp.e"]
  distinct := by decide

/-- The options by which the sample joiner may stand between the opener and the closer. -/
def joinerOptions : RosterOptions where
  style := { opener := some "tp.s", closer := some "tp.e", joiners := ["j"] }

theorem synthesize_sampleJoiner :
    (sampleJoiner.synthesize joinerOptions.style).outcome = .ok sampleJoinerForms := rfl

theorem compile_sampleJoinerForms :
    ∃ t : Roster Int, (joinerOptions.compile sampleJoinerForms).outcome = .ok t ∧
      t.alternates = [⟨1, 5⟩, ⟨2, 6⟩] ∧
      t.rules = CartoucheStyle.chainRules ⟨1, 5, 2⟩ (GlyphSet.ofList [3]) (GlyphSet.ofList [4]) ∧
      t.entries.map (fun e => (e.key, e.id)) = [("tp.s", 1), ("tp.e", 2), ("j", 3),
        ("j.cart", 4), ("tp.s.cart", 5), ("tp.e.cart", 6)] := by
  have hrun : (joinerOptions.compile sampleJoinerForms : Report (Roster Int)).outcome.map
      (fun t => (t.alternates, t.rules, t.entries.map fun e => (e.key, e.id))) =
      .ok ([⟨1, 5⟩, ⟨2, 6⟩],
        CartoucheStyle.chainRules ⟨1, 5, 2⟩ (GlyphSet.ofList [3]) (GlyphSet.ofList [4]),
        [("tp.s", 1), ("tp.e", 2), ("j", 3), ("j.cart", 4), ("tp.s.cart", 5),
          ("tp.e.cart", 6)]) := by
    cbv
  obtain ⟨t, ht, hall⟩ := map_eq_ok.mp hrun
  obtain ⟨halternates, hrest⟩ := Prod.mk.inj hall
  obtain ⟨hrules, hentries⟩ := Prod.mk.inj hrest
  exact ⟨t, ht, halternates, hrules, hentries⟩

theorem named_by_key_sampleJoiner : ∀ g ∈ sampleJoiner.glyphs, g.name = g.key := by
  decide

/-- A rule replaces a joiner that has no alternate, if nothing says that its form is one. -/
theorem sampleJoiner_without_alternate :
    (∀ g ∈ sampleJoiner.glyphs, g.name = g.key) ∧
    ∃ r' : Repertoire, ∃ t : Roster Int,
      (sampleJoiner.synthesize joinerOptions.style).outcome = .ok r' ∧
      (joinerOptions.compile r').outcome = .ok t ∧
      ∃ rule ∈ t.rules, ∃ e ∈ t.entries, e.id ∈ rule.input ∧
        ∀ a ∈ t.alternates, a.source ≠ e.id := by
  obtain ⟨t, ht, halternates, hrules, hentries⟩ := compile_sampleJoinerForms
  have hjoiner : ("j", 3) ∈ t.entries.map fun e => (e.key, e.id) := by
    rw [hentries]
    decide
  obtain ⟨e, he, hpair⟩ := List.mem_map.mp hjoiner
  obtain ⟨-, hid⟩ := Prod.mk.inj hpair
  refine ⟨named_by_key_sampleJoiner, sampleJoinerForms, t, synthesize_sampleJoiner, ht, ?_⟩
  rw [hrules, halternates]
  refine ⟨_, List.mem_cons_self, e, he, ?_, ?_⟩
  · rw [hid]
    decide
  · rw [hid]
    decide

theorem sampleJoiner_opener_switched :
    ∃ t : Roster Int, (joinerOptions.compile sampleJoinerForms).outcome = .ok t ∧
      ∃ e ∈ t.entries, ∃ f ∈ t.entries, e.id = 1 ∧
        f.name = joinerOptions.style.formName e.name ∧ t.lastAlternate? e.id = some f.id := by
  obtain ⟨t, ht, -, hrules, hentries⟩ := compile_sampleJoinerForms
  have hopener : ("tp.s", 1) ∈ t.entries.map fun e => (e.key, e.id) := by
    rw [hentries]
    decide
  obtain ⟨e, he, hpair⟩ := List.mem_map.mp hopener
  obtain ⟨hkey, hid⟩ := Prod.mk.inj hpair
  have hrule : ⟨[], GlyphSet.ofList [1], [GlyphSet.ofList [3]]⟩ ∈ t.rules := by
    rw [hrules]
    decide
  have hinput : e.id ∈ GlyphSet.ofList [1] := by
    rw [hid]
    decide
  obtain ⟨f, hf, hname, -, hform⟩ :=
    context_rules_alternate joinerOptions sampleJoiner sampleJoinerForms t named_by_key_sampleJoiner
      synthesize_sampleJoiner ht _ hrule e he hinput
  obtain ⟨-, hlast⟩ :=
    hform (sampleWord "tp.s" "tp.s") List.mem_cons_self hkey.symm (by decide +kernel)
  exact ⟨t, ht, e, he, f, hf, hid, hname, hlast (by decide +kernel)⟩

end Gridface
