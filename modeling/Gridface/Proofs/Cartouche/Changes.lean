import Gridface.Proofs.Cartouche.Synthesis
import Gridface.Proofs.Repertoire.Lookup

/-!
# What synthesis changes

Synthesis fails at the first word that no form can be made of. Otherwise it keeps the keys and adds
those of the forms; under the key of a form is the form of the last word that has it, and every
other glyph stays as it was, but for the ligature that spells a word. There is a notice for each
form that finds its key taken.
-/

namespace Gridface

variable {s : CartoucheStyle} {r r' : Repertoire} {g f : Glyph} {forms : List Glyph}

/-! ## Words that no form can be made of -/

/-- Why no form can be made of a glyph. -/
inductive Glyph.Unfit (g : Glyph) : Fault → Prop
  | undrawn (h : g.bitmap = none) : Unfit g (.missingGeometry g.name)
  | tooLarge {b : Bitmap} (h : g.bitmap = some b) (hfit : ¬b.Fits) :
      Unfit g (.frameOverflow g.name b.width b.height b.x b.y)

theorem Bitmap.frame_eq_error {name : String} {b : Bitmap} {role : Option Role} {e : Fault} :
    b.frame name role = .error e ↔
      ¬b.Fits ∧ e = .frameOverflow name b.width b.height b.x b.y := by
  unfold frame
  split
  · simp [*]
  · simp [*, eq_comm]

namespace CartoucheStyle

theorem form_eq_error {e : Fault} : s.form g = .error e ↔ g.Unfit e := by
  unfold form
  cases hbitmap : g.bitmap with
  | none =>
      constructor
      · intro h
        cases h
        exact .undrawn hbitmap
      · intro h
        cases h with
        | undrawn => rfl
        | tooLarge h => rw [hbitmap] at h; cases h
  | some b =>
      have hframe : g.Unfit e ↔ b.frame g.name g.role = .error e := by
        rw [Bitmap.frame_eq_error]
        constructor
        · intro h
          cases h with
          | undrawn h => rw [hbitmap] at h; cases h
          | tooLarge h hfit =>
              rw [hbitmap] at h
              cases h
              exact ⟨hfit, rfl⟩
        · rintro ⟨hfit, rfl⟩
          exact .tooLarge hbitmap hfit
      rw [hframe]
      cases hb : b.frame g.name g.role with
      | error e' => simp [hb, bind, Except.bind]
      | ok framed => simp [hb, bind, Except.bind, pure, Except.pure]

theorem form_ok_iff : (∃ f, s.form g = .ok f) ↔ ∀ e, ¬g.Unfit e := by
  simp only [← form_eq_error (s := s)]
  cases s.form g with
  | error e => simp
  | ok f => simp

theorem isWord_iff : s.isWord g = true ↔ s.NamesWord g.name := by
  rw [isWord, Option.isSome_iff_ne_none, Ne, word?_eq_none_iff, not_not]

theorem wantsForm_iff : s.wantsForm g = true ↔ s.NamesWord g.name ∧ g.role ≠ some .inside := by
  rw [wantsForm, Bool.and_eq_true, isWord_iff, bne_iff_ne]

end CartoucheStyle

/-! ## Notices -/

/-- The keys in `ks` that are taken when their turn comes: by an `old` one or an earlier one. -/
def takenKeys (old ks : List String) : List String :=
  (ks.zipIdx.filter fun p => p.1 ∈ old ∨ p.1 ∈ ks.take p.2).map Prod.fst

theorem takenKeys_cons (old ks : List String) (k : String) :
    takenKeys old (k :: ks) = (if k ∈ old then [k] else []) ++ takenKeys (old ++ [k]) ks := by
  have hrest : ((ks.zipIdx 1).filter fun p => p.1 ∈ old ∨ p.1 ∈ (k :: ks).take p.2).map Prod.fst =
      takenKeys (old ++ [k]) ks := by
    rw [takenKeys, List.zipIdx_succ, List.filter_map, List.map_map]
    refine congrArg _ (List.filter_congr fun p _ => ?_)
    simp [or_assoc]
  rw [takenKeys, List.zipIdx_cons, List.filter_cons, ← hrest]
  by_cases hk : k ∈ old
  · simp [hk]
  · simp [hk]

namespace Repertoire

theorem takenKeys_insert (r : Repertoire) (g : Glyph) (ks : List String) :
    takenKeys (r.insert g).keys ks = takenKeys (r.keys ++ [g.key]) ks := by
  have hmem : ∀ k, k ∈ (r.insert g).keys ↔ k ∈ r.keys ++ [g.key] := by
    intro k
    rw [keys_insert]
    by_cases hkey : g.key ∈ r.keys
    · rw [if_pos hkey, List.mem_append, List.mem_singleton]
      exact ⟨Or.inl, fun h => h.elim id fun he => he ▸ hkey⟩
    · rw [if_neg hkey]
  unfold takenKeys
  simp only [hmem]

theorem notices_addForm (r : Repertoire) (f : Glyph) :
    (r.addForm f).notices = if f.key ∈ r.keys then [.formReplaces f.key] else [] := by
  unfold addForm
  by_cases hkey : f.key ∈ r.keys
  · rw [if_pos hkey, if_pos (contains_iff.mpr hkey)]
    rfl
  · rw [if_neg hkey, if_neg (contains_iff.not.mpr hkey)]
    rfl

theorem notices_foldlM_addForm (r : Repertoire) (forms : List Glyph) :
    (forms.foldlM addForm r).notices =
      (takenKeys r.keys (forms.map Glyph.key)).map .formReplaces := by
  induction forms generalizing r with
  | nil => rfl
  | cons f forms ih =>
      rw [List.foldlM_cons, Report.notices_bind_of_ok (outcome_addForm r f), ih, notices_addForm,
        takenKeys_insert, List.map_cons, takenKeys_cons]
      by_cases hkey : f.key ∈ r.keys
      · simp [hkey]
      · simp [hkey]

theorem notices_synthesize_of_ok (h : r.forms s = .ok forms) :
    (r.synthesize s).notices = (takenKeys r.keys (forms.map Glyph.key)).map .formReplaces := by
  have hrun : (r.synthesize s).notices = (forms.foldlM addForm (r.spelled s)).notices := by
    unfold synthesize
    rw [Report.notices_bind_of_ok (a := forms) h, Report.notices_liftM, List.nil_append]
    rfl
  rw [hrun, notices_foldlM_addForm, keys_spelled]

theorem notices_synthesize_of_error {e : Fault} (h : r.forms s = .error e) :
    (r.synthesize s).notices = [] := by
  unfold synthesize
  rw [Report.notices_bind_of_error (e := e) h, Report.notices_liftM]

/-! ## Failure -/

theorem outcome_synthesize_of_error {e : Fault} :
    (r.synthesize s).outcome = .error e ↔ r.forms s = .error e := by
  rw [outcome_synthesize, map_eq_error]

/-- The first word that a form is wanted for, but cannot be made of, is to blame for `e`. -/
def FirstUnfit (s : CartoucheStyle) (gs : List Glyph) (e : Fault) : Prop :=
  ∃ before w after, gs = before ++ w :: after ∧
    (∀ g ∈ before, s.wantsForm g = true → ∀ e, ¬g.Unfit e) ∧ s.wantsForm w = true ∧ w.Unfit e

theorem forms_eq_error {e : Fault} : r.forms s = .error e ↔ FirstUnfit s r.glyphs e := by
  unfold forms
  rw [mapM_eq_error]
  simp only [CartoucheStyle.form_ok_iff, CartoucheStyle.form_eq_error]
  constructor
  · rintro ⟨before, w, after, hsplit, hbefore, hw⟩
    -- glyphs that want no form may stand between the last good word and the bad one
    obtain ⟨gs₁, gs₂, hglyphs, rfl, hgs₂⟩ := List.filter_eq_append_iff.mp hsplit
    obtain ⟨idle, rest, rfl, hidle, hwants, -⟩ := List.filter_eq_cons_iff.mp hgs₂
    refine ⟨gs₁ ++ idle, w, rest, by rw [hglyphs, List.append_assoc], fun g hg hg' => ?_, hwants,
      hw⟩
    rcases List.mem_append.mp hg with hg | hg
    · exact hbefore g (List.mem_filter.mpr ⟨hg, hg'⟩)
    · exact absurd hg' (hidle g hg)
  · rintro ⟨before, w, after, hsplit, hbefore, hwants, hw⟩
    refine ⟨before.filter s.wantsForm, w, after.filter s.wantsForm, ?_, fun g hg => ?_, hw⟩
    · rw [hsplit, List.filter_append, List.filter_cons_of_pos hwants]
    · obtain ⟨hg, hg'⟩ := List.mem_filter.mp hg
      exact hbefore g hg hg'

theorem exists_firstUnfit_iff (s : CartoucheStyle) (gs : List Glyph) :
    (∃ e, FirstUnfit s gs e) ↔ ∃ w ∈ gs, s.wantsForm w = true ∧ ∃ e, w.Unfit e := by
  constructor
  · rintro ⟨e, before, w, after, rfl, -, hwants, hw⟩
    exact ⟨w, by simp, hwants, e, hw⟩
  · induction gs with
    | nil => simp
    | cons g gs ih =>
        rintro ⟨w, hw, hwants, e, hunfit⟩
        by_cases hg : s.wantsForm g = true ∧ ∃ e, g.Unfit e
        · obtain ⟨hg, e, he⟩ := hg
          exact ⟨e, [], g, gs, rfl, by simp, hg, he⟩
        · have hmem : w ∈ gs := by
            rcases List.mem_cons.mp hw with rfl | hmem
            · exact absurd ⟨hwants, e, hunfit⟩ hg
            · exact hmem
          obtain ⟨e', before, w', after, rfl, hbefore, hw'⟩ := ih ⟨w, hmem, hwants, e, hunfit⟩
          refine ⟨e', g :: before, w', after, rfl, List.forall_mem_cons.mpr ⟨?_, hbefore⟩, hw'⟩
          exact fun hwant e he => hg ⟨hwant, e, he⟩

/-! ## Success -/

/-- The keys of the forms, in the order of the words. -/
def formKeys (s : CartoucheStyle) (r : Repertoire) : List String :=
  (r.glyphs.filter s.wantsForm).map fun w => s.formName w.name

/-- What `r` becomes when forms are added. -/
structure Synthesized (s : CartoucheStyle) (r r' : Repertoire) : Prop where
  keys_eq : r'.keys = r.keys ++ newKeys r.keys (r.formKeys s)
  /-- Of several words with one name the last counts. -/
  form : ∀ key ∈ r.formKeys s, ∃ w f,
    (r.glyphs.filter s.wantsForm).findRev? (fun w => s.formName w.name == key) = some w ∧
      s.form w = .ok f ∧ r'.find? key = some f
  spelled : ∀ g ∈ r.glyphs, g.key ∉ r.formKeys s → s.NamesWord g.name → g.ligatures = none →
    ∃ word, g.name = s.wordPrefix ++ word ∧
      r'.find? g.key = some { g with ligatures := some [word] }
  kept : ∀ g ∈ r.glyphs, g.key ∉ r.formKeys s → ¬s.NamesWord g.name ∨ g.ligatures ≠ none →
    r'.find? g.key = some g

theorem find?_foldl_forms (s : CartoucheStyle) (r : Repertoire) (forms : List Glyph)
    (key : String) :
    (forms.foldl insert (r.spelled s)).find? key =
      (forms.findRev? (·.key == key)).or ((r.find? key).map s.spelled) := by
  rw [find?_foldl_insert, spelled, find?_mapGlyphs]

theorem exists_last_word {key : String} (hkey : key ∈ r.formKeys s) :
    ∃ w, (r.glyphs.filter s.wantsForm).findRev? (fun w => s.formName w.name == key) = some w := by
  obtain ⟨w, hw, hname⟩ := List.mem_map.mp hkey
  rw [List.findRev?_eq_find?_reverse, ← Option.isSome_iff_exists, List.find?_isSome]
  exact ⟨w, List.mem_reverse.mpr hw, beq_iff_eq.mpr hname⟩

theorem find?_of_not_mem_formKeys (h : r.forms s = .ok forms) {key : String}
    (hkey : key ∉ r.formKeys s) :
    (forms.foldl insert (r.spelled s)).find? key = (r.find? key).map s.spelled := by
  have hnone : forms.findRev? (·.key == key) = none := by
    rw [List.findRev?_eq_find?_reverse, List.find?_eq_none]
    intro f hf hfkey
    rw [formKeys, ← keys_forms h] at hkey
    exact hkey (beq_iff_eq.mp hfkey ▸ List.mem_map_of_mem (List.mem_reverse.mp hf))
  rw [find?_foldl_forms, hnone, Option.none_or]

theorem synthesized (h : r.forms s = .ok forms) :
    Synthesized s r (forms.foldl insert (r.spelled s)) where
  keys_eq := by
    rw [keys_foldl_insert, keys_spelled, keys_forms h]
    rfl
  form := by
    intro key hkey
    obtain ⟨w, hw⟩ := exists_last_word hkey
    have hlast := findRev?_of_map_ok (forms_eq_ok.mp h) (p := fun w => s.formName w.name == key)
      (q := fun f => f.key == key) fun w f hform => by
        rw [(CartoucheStyle.form_of_eq_ok hform).1]
    rw [hw, Option.map_some] at hlast
    obtain ⟨f, hf, hform⟩ := Option.map_eq_some_iff.mp hlast
    exact ⟨w, f, hw, hform.symm, by rw [find?_foldl_forms, hf, Option.some_or]⟩
  spelled := by
    intro g hg hkey hword hnone
    obtain ⟨word, hword'⟩ : ∃ word, s.word? g.name = some word :=
      Option.isSome_iff_exists.mp (CartoucheStyle.isWord_iff.mpr hword)
    obtain ⟨-, hname⟩ := CartoucheStyle.word?_eq_some_iff.mp hword'
    refine ⟨word, hname, ?_⟩
    rw [find?_of_not_mem_formKeys h hkey, find?_key hg, Option.map_some,
      CartoucheStyle.spelled_of_word hword' hnone]
  kept := by
    intro g hg hkey hkept
    rw [find?_of_not_mem_formKeys h hkey, find?_key hg, Option.map_some,
      CartoucheStyle.spelled_of_kept (hkept.imp_left CartoucheStyle.word?_eq_none_iff.mpr)]

/-- Synthesis fails just for the first word that cannot be drawn in the frame, and then says
nothing. Otherwise it adds forms, and there is a notice for each that finds its key taken. -/
theorem synthesize_changes (s : CartoucheStyle) (r : Repertoire) :
    (∀ g, s.wantsForm g = true ↔ s.NamesWord g.name ∧ g.role ≠ some .inside) ∧
    ((∃ e, (r.synthesize s).outcome = .error e) ↔
      ∃ w ∈ r.glyphs, s.wantsForm w = true ∧ ∃ e, w.Unfit e) ∧
    (∀ e, (r.synthesize s).outcome = .error e ↔ FirstUnfit s r.glyphs e) ∧
    (∀ e, (r.synthesize s).outcome = .error e → (r.synthesize s).notices = []) ∧
    ∀ r', (r.synthesize s).outcome = .ok r' → Synthesized s r r' ∧
      (r.synthesize s).notices = (takenKeys r.keys (r.formKeys s)).map .formReplaces := by
  have hfailed : ∀ e, (r.synthesize s).outcome = .error e ↔ FirstUnfit s r.glyphs e := fun e =>
    outcome_synthesize_of_error.trans forms_eq_error
  refine ⟨fun g => CartoucheStyle.wantsForm_iff, ?_, hfailed, fun e he => ?_, fun r' hr' => ?_⟩
  · simp only [hfailed, exists_firstUnfit_iff]
  · exact notices_synthesize_of_error (outcome_synthesize_of_error.mp he)
  · obtain ⟨forms, hforms, rfl⟩ := synthesize_eq_ok.mp hr'
    refine ⟨synthesized hforms, ?_⟩
    rw [notices_synthesize_of_ok hforms, keys_forms hforms]
    rfl

/-- Two words with one name, only one of which is to be spelled out, and a glyph under the key of
their form. -/
def sampleTwins : Repertoire where
  glyphs := [
    { key := "a", name := "tp.a", bitmap := some ⟨1, 1, 0, 0, [true], List.length_singleton⟩ },
    { key := "b", name := "tp.a", bitmap := some ⟨1, 1, 1, 0, [true], List.length_singleton⟩,
      ligatures := some [] },
    .ofKey "tp.a.cart"]
  distinct := by decide

theorem synthesize_sampleTwins :
    ∃ r', (sampleTwins.synthesize {}).outcome = .ok r' ∧ r'.keys = ["a", "b", "tp.a.cart"] ∧
      Synthesized {} sampleTwins r' ∧ (sampleTwins.synthesize {}).notices =
        [.formReplaces "tp.a.cart", .formReplaces "tp.a.cart"] := by
  have hrun : (sampleTwins.synthesize {}).outcome.map keys = .ok ["a", "b", "tp.a.cart"] := by
    decide +kernel
  obtain ⟨r', hr', hkeys⟩ := map_eq_ok.mp hrun
  obtain ⟨-, -, -, -, hok⟩ := synthesize_changes {} sampleTwins
  obtain ⟨hsynthesized, hnotices⟩ := hok r' hr'
  exact ⟨r', hr', hkeys, hsynthesized, hnotices.trans (by decide)⟩

end Repertoire

end Gridface
