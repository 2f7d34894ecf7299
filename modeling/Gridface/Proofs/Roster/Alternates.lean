import Gridface.Proofs.Cartouche.Synthesis
import Gridface.Proofs.Roster.Compile
import Mathlib

/-!
# Forms as alternates of their words

A form says by name which word it is an alternate for, but references are by key.
-/

namespace Gridface

variable {α : Type} [Coordinate α]

/-- The form of a word is an alternate for the word just when the word's name is its key. If the
name is no key at all, the form is an alternate for the missing glyph, which a strict policy
refuses. -/
theorem form_alternate_iff (s : CartoucheStyle) (o : RosterOptions) (r r' : Repertoire)
    (t : Roster α) (hnames : ((r.glyphs.filter s.isWord).map Glyph.name).Nodup)
    (hfresh : ∀ g ∈ r.glyphs, s.isWord g = true → s.formName g.name ∉ r.keys)
    (hs : (r.synthesize s).outcome = .ok r') (hc : (o.compile r').outcome = .ok t)
    (g : Glyph) (hg : g ∈ r.glyphs) (hwants : s.wantsForm g = true) :
    ∃ word form, t.find? g.key = some word ∧ t.find? (s.formName g.name) = some form ∧
      ({ source := word.id, replacement := form.id } ∈ t.alternates ↔ g.name = g.key) ∧
      ({ source := GlyphId.notdef, replacement := form.id } ∈ t.alternates ↔ g.name ∉ r.keys) ∧
      ({ glyph := s.formName g.name, key := g.name } ∈ t.unresolved ↔ g.name ∉ r.keys) ∧
      (o.policy = .refuse → g.name ∈ r.keys) := by
  obtain ⟨n, h⟩ := Roster.compiled_of_compile hc
  have hwanted := Repertoire.nodup_names_of_words hnames
  obtain ⟨f, hf, hform⟩ := Repertoire.mem_synthesize_of_form hs hwanted hg hwants
  obtain ⟨hkey, -, halternate, -⟩ := CartoucheStyle.form_of_eq_ok hform
  have hstays : s.spelled g ∈ r'.glyphs := by
    refine Repertoire.spelled_mem_synthesize hs hwanted hg fun w hw hwants' he => ?_
    have hkeyed : g.key ∈ r.keys := List.mem_map_of_mem hg
    exact hfresh w hw (CartoucheStyle.isWord_of_wantsForm hwants') (he ▸ hkeyed)
  have hgkey : (s.spelled g).key ∈ r'.keys := List.mem_map_of_mem hstays
  rw [CartoucheStyle.spelled_key] at hgkey
  have hkeys : g.name ∈ r'.keys ↔ g.name ∈ r.keys :=
    Repertoire.name_mem_keys_synthesize_iff hs hwanted (CartoucheStyle.isWord_of_wantsForm hwants)
  obtain ⟨word, -, hfindWord, -, hwordId⟩ := h.find?_key hstays
  obtain ⟨form, -, hfindForm, -, hformId⟩ := h.find?_key hf
  have hreplaced : ∀ id, { source := id, replacement := form.id } ∈ t.alternates ↔
      id = n.source g.name := by
    intro id
    rw [hformId, h.replaced_by_iff hf, halternate]
    simp
  have hunresolved : { glyph := s.formName g.name, key := g.name } ∈ t.unresolved ↔
      g.name ∉ r'.keys := by
    rw [h.mem_unresolved_iff]
    constructor
    · rintro ⟨_, -, -, -, hnot⟩
      exact hnot
    · intro hnot
      exact ⟨f, hf, hkey, by simp [Glyph.mentions, halternate], hnot⟩
  rw [hkey] at hfindForm
  refine ⟨word, form, hfindWord, hfindForm, ?_, ?_, ?_, ?_⟩
  · rw [hreplaced, hwordId]
    constructor
    · intro he
      exact h.numbers.source_inj hgkey he.symm
    · intro he
      rw [he]
      rfl
  · rw [hreplaced, eq_comm, h.numbers.source_eq_notdef_iff, hkeys]
  · rw [hunresolved, hkeys]
  · intro hrefuse
    by_contra hnot
    have hmem := hunresolved.mpr (hkeys.not.mpr hnot)
    rw [h.accepted hrefuse] at hmem
    cases hmem

/-- One set pixel in the top left corner. -/
def cornerPixel : Bitmap := ⟨1, 1, 0, 0, [true], rfl⟩

/-- The cartouche frame with its top row set. -/
def topRow : Bitmap := ⟨8, 7, 0, 0, List.replicate 8 true ++ List.replicate 48 false, rfl⟩

/-- A word with the given key and name. -/
def sampleWord (key name : String) : Glyph where
  key := key
  name := name
  bitmap := some cornerPixel
  ligatures := some []
  role := some .opening

/-- The form of a word with the given name. -/
def sampleWordForm (name : String) : Glyph where
  key := name ++ ".cart"
  name := name ++ ".cart"
  bitmap := some topRow
  alternate := some name
  role := some .inside

/-- A word that is keyed apart from its name, and one that is not. -/
def sampleWords : Repertoire where
  glyphs := [sampleWord "a" "tp.a", sampleWord "tp.b" "tp.b"]
  distinct := by decide

/-- The sample words with their forms. -/
def sampleWordForms : Repertoire where
  glyphs := [sampleWord "a" "tp.a", sampleWord "tp.b" "tp.b", sampleWordForm "tp.a",
    sampleWordForm "tp.b"]
  distinct := by decide

theorem synthesize_sampleWords : (sampleWords.synthesize {}).outcome = .ok sampleWordForms := rfl

theorem compile_sampleWordForms :
    ∃ t : Roster Int, (RosterOptions.compile {} sampleWordForms).outcome = .ok t ∧
      t.alternates = [⟨0, 3⟩, ⟨2, 4⟩] ∧ (t.find? "a").map Entry.id = some 1 ∧
      (t.find? "tp.a.cart").map Entry.id = some 3 := by
  have hrun : (RosterOptions.compile {} sampleWordForms : Report (Roster Int)).outcome.map
      (fun t => (t.alternates, (t.find? "a").map Entry.id, (t.find? "tp.a.cart").map Entry.id)) =
      .ok ([⟨0, 3⟩, ⟨2, 4⟩], some 1, some 3) := by
    cbv
  obtain ⟨t, ht, hall⟩ := map_eq_ok.mp hrun
  obtain ⟨halternates, hids⟩ := Prod.mk.inj hall
  obtain ⟨hword, hform⟩ := Prod.mk.inj hids
  exact ⟨t, ht, halternates, hword, hform⟩

theorem nodup_names_sampleWords :
    ((sampleWords.glyphs.filter (CartoucheStyle.isWord {})).map Glyph.name).Nodup := by
  decide +kernel

theorem fresh_forms_sampleWords : ∀ g ∈ sampleWords.glyphs, CartoucheStyle.isWord {} g = true →
    CartoucheStyle.formName {} g.name ∉ sampleWords.keys := by
  decide +kernel

/-- The form of a word that is keyed apart from its name is no alternate for the word. -/
theorem sampleWords_form_not_alternate :
    ((sampleWords.glyphs.filter (CartoucheStyle.isWord {})).map Glyph.name).Nodup ∧
    (∀ g ∈ sampleWords.glyphs, CartoucheStyle.isWord {} g = true →
      CartoucheStyle.formName {} g.name ∉ sampleWords.keys) ∧
    ∃ r' : Repertoire, ∃ t : Roster Int, (sampleWords.synthesize {}).outcome = .ok r' ∧
      (RosterOptions.compile {} r').outcome = .ok t ∧
      ∃ g ∈ sampleWords.glyphs, CartoucheStyle.wantsForm {} g = true ∧
        ∃ word form, t.find? g.key = some word ∧
          t.find? (CartoucheStyle.formName {} g.name) = some form ∧
          { source := word.id, replacement := form.id } ∉ t.alternates := by
  obtain ⟨t, ht, halternates, hword, hform⟩ := compile_sampleWordForms
  obtain ⟨word, hfindWord, hwordId⟩ := Option.map_eq_some_iff.mp hword
  obtain ⟨form, hfindForm, hformId⟩ := Option.map_eq_some_iff.mp hform
  refine ⟨nodup_names_sampleWords, fresh_forms_sampleWords, sampleWordForms, t,
    synthesize_sampleWords, ht, sampleWord "a" "tp.a", List.mem_cons_self, by decide +kernel,
    word, form, hfindWord, hfindForm, ?_⟩
  rw [hwordId, hformId, halternates]
  decide

theorem sampleWords_form_alternate :
    ∃ t : Roster Int, (RosterOptions.compile {} sampleWordForms).outcome = .ok t ∧
      ∃ word form, t.find? "tp.b" = some word ∧ t.find? "tp.b.cart" = some form ∧
        { source := word.id, replacement := form.id } ∈ t.alternates := by
  obtain ⟨t, ht, -⟩ := compile_sampleWordForms
  obtain ⟨word, form, hword, hform, halternate, -⟩ :=
    form_alternate_iff {} {} sampleWords sampleWordForms t nodup_names_sampleWords
      fresh_forms_sampleWords synthesize_sampleWords ht (sampleWord "tp.b" "tp.b")
      (by decide +kernel) (by decide +kernel)
  exact ⟨t, ht, word, form, hword, hform, halternate.mpr rfl⟩

end Gridface
