import Gridface.Proofs.Cartouche.Synthesis

/-!
# Synthesis a second time

The words that are left after synthesis are spelled out already, and each finds its form where it
has been put. A form is no word, so nothing is made of it.
-/

namespace Gridface

variable {s : CartoucheStyle} {r r' : Repertoire} {g f : Glyph} {forms : List Glyph}

namespace CartoucheStyle

/-! ## Words and forms -/

/-- However the names are made up, that of a form is never that of a word. -/
theorem not_namesWord_form (h : s.form g = .ok f) : ¬s.NamesWord f.name := by
  obtain ⟨-, hname, -, -⟩ := form_of_eq_ok h
  rintro ⟨-, hsuffix⟩
  rw [hname] at hsuffix
  exact hsuffix (isFormName_iff.mp (isFormName_formName g.name))

theorem wantsForm_form (h : s.form g = .ok f) : s.wantsForm f = false := by
  have hnone : s.word? f.name = none := word?_eq_none_iff.mpr (not_namesWord_form h)
  rw [wantsForm, isWord, hnone]
  rfl

theorem spelled_form (h : s.form g = .ok f) : s.spelled f = f :=
  spelled_of_kept (Or.inl (word?_eq_none_iff.mpr (not_namesWord_form h)))

/-- The ligature that spells a word does not show in its form. -/
theorem form_spelled (s : CartoucheStyle) (g : Glyph) : s.form (s.spelled g) = s.form g := rfl

theorem spelled_spelled (s : CartoucheStyle) (g : Glyph) :
    s.spelled (s.spelled g) = s.spelled g := by
  apply spelled_of_kept
  cases hword : s.word? g.name with
  | none => exact Or.inl hword
  | some word =>
      right
      show s.ligaturesOf g ≠ none
      cases hown : g.ligatures with
      | none => simp [ligaturesOf, hown, hword]
      | some texts => simp [ligaturesOf, hown]

end CartoucheStyle

namespace Repertoire

/-! ## Filing what is filed already -/

theorem put_of_mem {gs : List Glyph} (hnodup : (gs.map Glyph.key).Nodup) (hg : g ∈ gs) :
    put g gs = gs := by
  induction gs with
  | nil => cases hg
  | cons h gs ih =>
      rw [List.map_cons, List.nodup_cons] at hnodup
      obtain ⟨hnew, hnodup⟩ := hnodup
      rcases List.mem_cons.mp hg with rfl | hg
      · rw [put, if_pos rfl]
      · have hne : h.key ≠ g.key := fun he => hnew (he ▸ List.mem_map_of_mem hg)
        rw [put, if_neg hne, ih hnodup hg]

theorem insert_of_mem (hg : g ∈ r.glyphs) : r.insert g = r := by
  obtain ⟨glyphs, distinct⟩ := r
  simp only [insert, put_of_mem distinct hg]

theorem foldl_insert_of_mem {gs : List Glyph} (h : ∀ g ∈ gs, g ∈ r.glyphs) :
    gs.foldl insert r = r := by
  induction gs with
  | nil => rfl
  | cons g gs ih =>
      obtain ⟨hg, hgs⟩ := List.forall_mem_cons.mp h
      rw [List.foldl_cons, insert_of_mem hg, ih hgs]

/-! ## The second time -/

theorem spelled_synthesize (hs : (r.synthesize s).outcome = .ok r')
    (hnames : ((r.glyphs.filter s.wantsForm).map Glyph.name).Nodup) : r'.spelled s = r' := by
  have hsame : ∀ f ∈ r'.glyphs, s.spelled f = f := by
    intro f hf
    rcases (mem_synthesize_iff hs hnames).mp hf with ⟨g, -, -, hform⟩ | ⟨g, -, rfl, -⟩
    · exact CartoucheStyle.spelled_form hform
    · exact CartoucheStyle.spelled_spelled s g
  obtain ⟨glyphs, distinct⟩ := r'
  simp only [spelled, mapGlyphs, List.map_congr_left hsame, List.map_id']

/-- A word that is left after synthesis has its form among the glyphs. -/
theorem form_mem_synthesize (hs : (r.synthesize s).outcome = .ok r')
    (hnames : ((r.glyphs.filter s.wantsForm).map Glyph.name).Nodup) (hg : g ∈ r'.glyphs)
    (hwants : s.wantsForm g = true) : ∃ f ∈ r'.glyphs, s.form g = .ok f := by
  rcases (mem_synthesize_iff hs hnames).mp hg with ⟨w, -, -, hform⟩ | ⟨w, hw, rfl, -⟩
  · rw [CartoucheStyle.wantsForm_form hform] at hwants
    cases hwants
  · rw [CartoucheStyle.form_spelled]
    exact mem_synthesize_of_form hs hnames hw hwants

theorem forms_synthesize (hs : (r.synthesize s).outcome = .ok r')
    (hnames : ((r.glyphs.filter s.wantsForm).map Glyph.name).Nodup) :
    ∃ forms, r'.forms s = .ok forms ∧ ∀ f ∈ forms, f ∈ r'.glyphs := by
  have hall : ∀ g ∈ r'.glyphs.filter s.wantsForm, ∃ f, s.form g = .ok f := by
    intro g hg
    obtain ⟨hg, hwants⟩ := List.mem_filter.mp hg
    obtain ⟨f, -, hform⟩ := form_mem_synthesize hs hnames hg hwants
    exact ⟨f, hform⟩
  obtain ⟨forms, hforms⟩ := exists_mapM_eq_ok hall
  refine ⟨forms, hforms, fun f hf => ?_⟩
  obtain ⟨g, hg, hwants, hform⟩ := (mem_forms_iff hforms).mp hf
  obtain ⟨f', hf', hform'⟩ := form_mem_synthesize hs hnames hg hwants
  cases hform.symm.trans hform'
  exact hf'

/-- Synthesis changes nothing the second time, as long as no two words have one name: forms are no
words, whatever the prefix and the suffix are, and those of the words that are left stand where they
have been put, be it in the place of a word. -/
theorem synthesize_twice (hnames : ((r.glyphs.filter s.isWord).map Glyph.name).Nodup)
    (hs : (r.synthesize s).outcome = .ok r') :
    (r'.synthesize s).outcome = .ok r' ∧ ∀ g f, s.form g = .ok f → ¬s.NamesWord f.name := by
  refine ⟨?_, fun g f => CartoucheStyle.not_namesWord_form⟩
  have hwanted := nodup_names_of_words hnames
  obtain ⟨forms, hforms, hmem⟩ := forms_synthesize hs hwanted
  refine synthesize_eq_ok.mpr ⟨forms, hforms, ?_⟩
  rw [spelled_synthesize hs hwanted, foldl_insert_of_mem hmem]

/-- The form of the first word takes the place of the second word, whose own form comes last. -/
def sampleOverwritten : Repertoire where
  glyphs := [
    { key := "a", name := "tp.a", bitmap := some ⟨1, 1, 0, 0, [true], List.length_singleton⟩ },
    { key := "tp.a.cart", name := "tp.b",
      bitmap := some ⟨1, 1, 1, 0, [true], List.length_singleton⟩ }]
  distinct := by decide

theorem synthesize_sampleOverwritten :
    ∃ r', (sampleOverwritten.synthesize {}).outcome = .ok r' ∧
      r'.glyphs.map Glyph.name = ["tp.a", "tp.a.cart", "tp.b.cart"] ∧
      (r'.synthesize {}).outcome = .ok r' := by
  have hrun : (sampleOverwritten.synthesize {}).outcome.map (fun r => r.glyphs.map Glyph.name) =
      .ok ["tp.a", "tp.a.cart", "tp.b.cart"] := by
    decide +kernel
  obtain ⟨r', hr', hglyphs⟩ := map_eq_ok.mp hrun
  exact ⟨r', hr', hglyphs, (synthesize_twice (by decide +kernel) hr').1⟩

end Repertoire

end Gridface
