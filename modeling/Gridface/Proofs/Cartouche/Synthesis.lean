import Gridface.Cartouche.Synthesis
import Gridface.Proofs.Cartouche.Names
import Gridface.Proofs.Report
import Gridface.Proofs.Repertoire

/-!
# What synthesis makes of a repertoire

The glyphs after synthesis are the forms of the words, and those glyphs before it that no form takes
the place of, with their ligatures spelled out.
-/

namespace Gridface

variable {s : CartoucheStyle} {r r' : Repertoire} {g f : Glyph} {forms : List Glyph}

/-! ## The form of a word -/

namespace CartoucheStyle

/-- The form of a glyph that shows the given bitmap in the frame. -/
def formWith (s : CartoucheStyle) (g : Glyph) (framed : Bitmap) : Glyph where
  key := s.formName g.name
  name := s.formName g.name
  bitmap := some (if g.role.isNone then framed.inverted else framed)
  alternate := some g.name
  zeroAdvance := g.zeroAdvance
  role := some .inside

theorem form_eq_ok :
    s.form g = .ok f ↔ ∃ bitmap framed, g.bitmap = some bitmap ∧
      bitmap.frame g.name g.role = .ok framed ∧ s.formWith g framed = f := by
  unfold form formWith
  cases g.bitmap with
  | none => simp [throw, throwThe, MonadExceptOf.throw]
  | some bitmap =>
      cases hframe : bitmap.frame g.name g.role with
      | error e => simp [hframe, bind, Except.bind]
      | ok framed => simp [hframe, bind, Except.bind, pure, Except.pure]

/-- A form is known by the name of its word, and is an alternate for what that name names. -/
theorem form_of_eq_ok (h : s.form g = .ok f) :
    f.key = s.formName g.name ∧ f.name = s.formName g.name ∧ f.alternate = some g.name ∧
      f.ligatures = none := by
  obtain ⟨bitmap, framed, -, -, rfl⟩ := form_eq_ok.mp h
  exact ⟨rfl, rfl, rfl, rfl⟩

theorem keys_of_map_form {words : List Glyph} (h : forms.map .ok = words.map s.form) :
    forms.map Glyph.key = words.map fun g => s.formName g.name := by
  induction forms generalizing words with
  | nil =>
      obtain rfl : words = [] := List.map_eq_nil_iff.mp h.symm
      rfl
  | cons f forms ih =>
      obtain ⟨w, words, rfl, hw, hrest⟩ := List.map_eq_cons_iff.mp h.symm
      rw [List.map_cons, List.map_cons, ih hrest.symm, (form_of_eq_ok hw).1]

@[simp] theorem spelled_key (s : CartoucheStyle) (g : Glyph) : (s.spelled g).key = g.key := rfl

theorem spelled_of_word {word : String} (hword : s.word? g.name = some word)
    (hnone : g.ligatures = none) : s.spelled g = { g with ligatures := some [word] } := by
  rw [spelled, ligaturesOf, hnone, hword]
  rfl

theorem spelled_of_kept (h : s.word? g.name = none ∨ g.ligatures ≠ none) : s.spelled g = g := by
  have hligatures : s.ligaturesOf g = g.ligatures := by
    unfold ligaturesOf
    cases hown : g.ligatures with
    | some texts => rfl
    | none =>
        rw [h.resolve_right (not_not.mpr hown)]
        rfl
  rw [spelled, hligatures]

theorem isWord_of_wantsForm (h : s.wantsForm g = true) : s.isWord g = true :=
  (Bool.and_eq_true_iff.mp h).1

theorem isFormName_of_isWord (h : s.isWord g = true) : s.isFormName g.name = false := by
  unfold isWord word? at h
  split at h
  · cases h
  · rename_i hform
    exact eq_false_of_ne_true hform

end CartoucheStyle

/-! ## All forms -/

namespace Repertoire

theorem outcome_addForm (r : Repertoire) (f : Glyph) :
    (r.addForm f).outcome = .ok (r.insert f) := by
  unfold addForm
  split <;> rfl

theorem outcome_foldlM_addForm (r : Repertoire) (forms : List Glyph) :
    (forms.foldlM addForm r).outcome = .ok (forms.foldl insert r) := by
  induction forms generalizing r with
  | nil => rfl
  | cons f forms ih =>
      rw [List.foldlM_cons, Report.outcome_bind, outcome_addForm]
      exact ih _

theorem forms_eq_ok :
    r.forms s = .ok forms ↔ forms.map .ok = (r.glyphs.filter s.wantsForm).map s.form :=
  mapM_eq_ok

/-- The repertoire with the ligatures of words spelled out. -/
def spelled (s : CartoucheStyle) (r : Repertoire) : Repertoire :=
  r.mapGlyphs s.spelled (CartoucheStyle.spelled_key s)

theorem outcome_synthesize (s : CartoucheStyle) (r : Repertoire) :
    (r.synthesize s).outcome = (r.forms s).map fun forms => forms.foldl insert (r.spelled s) := by
  unfold synthesize
  rw [Report.outcome_bind, Report.outcome_liftM]
  cases r.forms s with
  | error e => rfl
  | ok forms => exact outcome_foldlM_addForm (r.spelled s) forms

theorem synthesize_eq_ok :
    (r.synthesize s).outcome = .ok r' ↔
      ∃ forms, r.forms s = .ok forms ∧ forms.foldl insert (r.spelled s) = r' := by
  rw [outcome_synthesize, map_eq_ok]

/-! ## The glyphs after synthesis -/

theorem keys_spelled (s : CartoucheStyle) (r : Repertoire) : (r.spelled s).keys = r.keys := by
  simp [spelled, mapGlyphs, keys, CartoucheStyle.spelled, Function.comp_def]

theorem keys_forms (h : r.forms s = .ok forms) :
    forms.map Glyph.key = (r.glyphs.filter s.wantsForm).map fun g => s.formName g.name :=
  CartoucheStyle.keys_of_map_form (forms_eq_ok.mp h)

theorem nodup_keys_forms (h : r.forms s = .ok forms)
    (hnames : ((r.glyphs.filter s.wantsForm).map Glyph.name).Nodup) :
    (forms.map Glyph.key).Nodup := by
  have hkeys := hnames.map (f := s.formName) fun _ _ => CartoucheStyle.formName_injective
  rw [List.map_map] at hkeys
  rw [keys_forms h]
  exact hkeys

theorem mem_forms_iff (h : r.forms s = .ok forms) :
    f ∈ forms ↔ ∃ g ∈ r.glyphs, s.wantsForm g = true ∧ s.form g = .ok f := by
  rw [mem_iff_of_map_ok (forms_eq_ok.mp h)]
  simp only [List.mem_filter, and_assoc]

theorem exists_form (h : r.forms s = .ok forms) (hg : g ∈ r.glyphs)
    (hwants : s.wantsForm g = true) : ∃ f ∈ forms, s.form g = .ok f :=
  exists_of_map_ok (forms_eq_ok.mp h) (List.mem_filter.mpr ⟨hg, hwants⟩)

theorem mem_keys_forms_iff (h : r.forms s = .ok forms) {key : String} :
    key ∈ forms.map Glyph.key ↔ ∃ w ∈ r.glyphs, s.wantsForm w = true ∧ s.formName w.name = key := by
  simp [keys_forms h, and_assoc]

theorem nodup_names_of_words (h : ((r.glyphs.filter s.isWord).map Glyph.name).Nodup) :
    ((r.glyphs.filter s.wantsForm).map Glyph.name).Nodup :=
  h.sublist ((List.monotone_filter_right _ fun _ => CartoucheStyle.isWord_of_wantsForm).map _)

/-- Names are distinct where they are keys. -/
theorem nodup_names_of_named_by_key (h : ∀ g ∈ r.glyphs, g.name = g.key) (p : Glyph → Bool) :
    ((r.glyphs.filter p).map Glyph.name).Nodup := by
  have hkeys : (r.glyphs.filter p).map Glyph.name = (r.glyphs.filter p).map Glyph.key :=
    List.map_congr_left fun g hg => h g (List.mem_filter.mp hg).1
  rw [hkeys]
  exact r.distinct.sublist (List.filter_sublist.map _)

/-- With names as keys, the glyphs after synthesis are named by their keys as well. -/
theorem name_eq_key_synthesize (hnames : ∀ g ∈ r.glyphs, g.name = g.key)
    (hs : (r.synthesize s).outcome = .ok r') : ∀ g ∈ r'.glyphs, g.name = g.key := by
  obtain ⟨forms, hforms, rfl⟩ := synthesize_eq_ok.mp hs
  intro g hg
  rcases mem_of_mem_foldl_insert hg with hform | hold
  · obtain ⟨w, -, -, hw⟩ := (mem_forms_iff hforms).mp hform
    obtain ⟨hkey, hname, -, -⟩ := CartoucheStyle.form_of_eq_ok hw
    rw [hkey, hname]
  · obtain ⟨w, hw, rfl⟩ := List.mem_map.mp hold
    exact hnames w hw

/-- A glyph after synthesis is a form, or a glyph before it that no form takes the place of. -/
theorem mem_synthesize_iff (hs : (r.synthesize s).outcome = .ok r')
    (hnames : ((r.glyphs.filter s.wantsForm).map Glyph.name).Nodup) :
    f ∈ r'.glyphs ↔
      (∃ g ∈ r.glyphs, s.wantsForm g = true ∧ s.form g = .ok f) ∨
      ∃ g ∈ r.glyphs, s.spelled g = f ∧
        ¬∃ w ∈ r.glyphs, s.wantsForm w = true ∧ s.formName w.name = f.key := by
  obtain ⟨forms, hforms, rfl⟩ := synthesize_eq_ok.mp hs
  have hspelled : f ∈ (r.spelled s).glyphs ↔ ∃ g ∈ r.glyphs, s.spelled g = f := List.mem_map
  rw [mem_foldl_insert_iff (nodup_keys_forms hforms hnames), mem_forms_iff hforms,
    mem_keys_forms_iff hforms, hspelled]
  refine or_congr Iff.rfl ⟨?_, ?_⟩
  · rintro ⟨⟨g, hg, he⟩, hkept⟩
    exact ⟨g, hg, he, hkept⟩
  · rintro ⟨g, hg, he, hkept⟩
    exact ⟨⟨g, hg, he⟩, hkept⟩

/-- The form of a word is among the glyphs. -/
theorem mem_synthesize_of_form (hs : (r.synthesize s).outcome = .ok r')
    (hnames : ((r.glyphs.filter s.wantsForm).map Glyph.name).Nodup) (hg : g ∈ r.glyphs)
    (hwants : s.wantsForm g = true) : ∃ f ∈ r'.glyphs, s.form g = .ok f := by
  obtain ⟨forms, hforms, -⟩ := synthesize_eq_ok.mp hs
  obtain ⟨f, -, hform⟩ := exists_form hforms hg hwants
  exact ⟨f, (mem_synthesize_iff hs hnames).mpr (Or.inl ⟨g, hg, hwants, hform⟩), hform⟩

/-- A glyph stays if its key is not the name of a form. -/
theorem spelled_mem_synthesize (hs : (r.synthesize s).outcome = .ok r')
    (hnames : ((r.glyphs.filter s.wantsForm).map Glyph.name).Nodup) (hg : g ∈ r.glyphs)
    (hkey : ∀ w ∈ r.glyphs, s.wantsForm w = true → s.formName w.name ≠ g.key) :
    s.spelled g ∈ r'.glyphs := by
  refine (mem_synthesize_iff hs hnames).mpr (Or.inr ⟨g, hg, rfl, ?_⟩)
  rintro ⟨w, hw, hwants, he⟩
  exact hkey w hw hwants he

/-- Forms whose names are no keys come behind all glyphs, which stay in order. -/
theorem glyphs_synthesize (hs : (r.synthesize s).outcome = .ok r')
    (hnames : ((r.glyphs.filter s.wantsForm).map Glyph.name).Nodup) :
    ∃ forms old, r.forms s = .ok forms ∧ old.map Glyph.key = r.keys ∧
      r'.glyphs = old ++ forms.filter fun f => f.key ∉ r.keys := by
  obtain ⟨forms, hforms, rfl⟩ := synthesize_eq_ok.mp hs
  obtain ⟨old, hkeys, hglyphs⟩ := glyphs_foldl_insert (r.spelled s) (nodup_keys_forms hforms hnames)
  rw [keys_spelled] at hkeys
  simp only [keys_spelled] at hglyphs
  exact ⟨forms, old, hforms, hkeys, hglyphs⟩

/-- Synthesis adds the keys of forms and no others. -/
theorem mem_keys_synthesize_iff (hs : (r.synthesize s).outcome = .ok r')
    (hnames : ((r.glyphs.filter s.wantsForm).map Glyph.name).Nodup) {key : String} :
    key ∈ r'.keys ↔
      key ∈ r.keys ∨ ∃ w ∈ r.glyphs, s.wantsForm w = true ∧ s.formName w.name = key := by
  obtain ⟨forms, old, hforms, hkeys, hglyphs⟩ := glyphs_synthesize hs hnames
  rw [keys, hglyphs, List.map_append, List.mem_append, hkeys, ← mem_keys_forms_iff hforms]
  by_cases hold : key ∈ r.keys
  · simp [hold]
  · simp only [hold, false_or, List.mem_map, List.mem_filter, decide_eq_true_eq]
    constructor
    · rintro ⟨f, ⟨hf, -⟩, rfl⟩
      exact ⟨f, hf, rfl⟩
    · rintro ⟨f, hf, rfl⟩
      exact ⟨f, ⟨hf, hold⟩, rfl⟩

/-- The name of a word is a key after synthesis only if it was one before: it names no form. -/
theorem name_mem_keys_synthesize_iff (hs : (r.synthesize s).outcome = .ok r')
    (hnames : ((r.glyphs.filter s.wantsForm).map Glyph.name).Nodup) (hword : s.isWord g = true) :
    g.name ∈ r'.keys ↔ g.name ∈ r.keys := by
  rw [mem_keys_synthesize_iff hs hnames, or_iff_left]
  rintro ⟨w, -, -, he⟩
  have hplain := CartoucheStyle.isFormName_of_isWord hword
  rw [← he, CartoucheStyle.isFormName_formName] at hplain
  cases hplain

end Repertoire

end Gridface
