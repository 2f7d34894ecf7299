import Gridface.Proofs.Numbering.Outcome
import Gridface.Proofs.Repertoire.Filing

/-!
# Runs of edits

Whatever is done to a repertoire, every glyph stays filed under its own key, a key that is there
keeps its place, and the numbering lists the ids in the order of the glyphs.
-/

namespace Gridface

variable {r : Repertoire} {n : Numbering} {e : Edit} {es : List Edit}

namespace Filing

/-- The filing after some edits. -/
def afterAll (files : Filing Glyph) (es : List Edit) : Filing Glyph := es.foldl edited files

theorem afterAll_concat (files : Filing Glyph) (es : List Edit) (e : Edit) :
    files.afterAll (es ++ [e]) = (files.afterAll es).edited e := by
  rw [afterAll, List.foldl_append]
  rfl

theorem edited_of_error {files : Filing Glyph} {fault : Fault} (h : files.edit e = .error fault) :
    files.edited e = files := by
  rw [edited, h]
  rfl

end Filing

namespace Repertoire

/-- The repertoire after some edits. -/
def afterAll (r : Repertoire) (es : List Edit) : Repertoire := es.foldl edited r

/-! ## Keys -/

theorem keys_edit {r' : Repertoire} (h : (r.edit e).outcome = .ok r') : r.keys <+: r'.keys := by
  cases e with
  | merge o layers =>
      cases h
      rw [merge_eq_mergeAll, keys_mergeAll]
      exact List.prefix_append _ _
  | mergeSheet o sheet =>
      rw [outcome_mergeSheet] at h
      obtain ⟨layers, -, rfl⟩ := map_eq_ok.mp h
      rw [merge_eq_mergeAll, keys_mergeAll]
      exact List.prefix_append _ _
  | insert g =>
      cases h
      rw [keys_insert]
      split
      · exact List.prefix_rfl
      · exact List.prefix_append _ _
  | update key f =>
      cases h
      rw [change, keys_mapGlyphs]
  | synthesize s =>
      obtain ⟨forms, -, rfl⟩ := synthesize_eq_ok.mp h
      rw [keys_foldl_insert, keys_spelled]
      exact List.prefix_append _ _

theorem keys_edited (r : Repertoire) (e : Edit) : r.keys <+: (r.edited e).keys := by
  unfold edited
  cases h : (r.edit e).outcome with
  | error fault => exact List.prefix_rfl
  | ok r' => exact keys_edit h

/-- A key stays where it is, and new ones come behind it. -/
theorem keys_afterAll (r : Repertoire) (es : List Edit) : r.keys <+: (r.afterAll es).keys := by
  induction es generalizing r with
  | nil => exact List.prefix_rfl
  | cons e es ih => exact (keys_edited r e).trans (ih (r.edited e))

/-! ## Failures -/

/-- Only a malformed cel or a word that no form can be made of makes an edit fail. -/
theorem edit_eq_error {fault : Fault} (h : (r.edit e).outcome = .error fault) :
    (∃ o sheet, e = .mergeSheet o sheet ∧ sheet.layers = .error fault) ∨
      ∃ s, e = .synthesize s ∧ r.forms s = .error fault := by
  cases e with
  | merge o layers => cases h
  | mergeSheet o sheet =>
      rw [outcome_mergeSheet] at h
      exact Or.inl ⟨o, sheet, rfl, map_eq_error.mp h⟩
  | insert g => cases h
  | update key f => cases h
  | synthesize s =>
      have hforms : (r.synthesize s).outcome = .error fault := h
      rw [outcome_synthesize] at hforms
      exact Or.inr ⟨s, rfl, map_eq_error.mp hforms⟩

/-! ## The filing after a run -/

theorem afterAll_filed (r : Repertoire) (es : List Edit) :
    r.filed.afterAll es = (r.afterAll es).filed := by
  unfold Filing.afterAll afterAll
  induction es generalizing r with
  | nil => rfl
  | cons e es ih => rw [List.foldl_cons, edited_filed, ih, List.foldl_cons]

end Repertoire

/-! ## What every run upholds -/

/-- The filing holds the glyphs of the repertoire, each under its own key. -/
structure Filing.Upheld (files : Filing Glyph) (r : Repertoire) : Prop where
  values_eq : files.map Prod.snd = r.glyphs
  nodup : files.keys.Nodup
  own_key : ∀ p ∈ files, p.2.key = p.1
  covers : ∀ p ∈ files, ∀ b, p.2.bitmap = some b → b.pixels.length = b.width * b.height

/-- The glyphs of the repertoire and the ids of the numbering can be walked over at once. -/
structure Numbering.Lockstep (n : Numbering) (r : Repertoire) : Prop where
  /-- No id is lost when all are filed under their keys. -/
  ids_eq : Filing.ofPairs n.ids = n.ids
  keys_eq : ∀ k : Nat, n.ids[k]?.map Prod.fst = r.glyphs[k]?.map Glyph.key
  glyphs_eq : (r.glyphs.zip n.ids).map Prod.fst = r.glyphs
  find?_eq : ∀ p ∈ r.glyphs.zip n.ids, p.2.1 = p.1.key ∧ n.find? p.1.key = some p.2.2

namespace Repertoire

theorem upheld_filed (r : Repertoire) : r.filed.Upheld r where
  values_eq := values_filedGlyphs r.glyphs
  nodup := keys_filed r ▸ r.distinct
  own_key := by
    intro p hp
    obtain ⟨g, -, rfl⟩ := List.mem_map.mp hp
    rfl
  covers := fun _ _ b _ => b.covers

theorem lockstep_of_assign (h : Numbering.assign r = .ok n) : n.Lockstep r := by
  have hkeys : n.ids.map Prod.fst = r.glyphs.map Glyph.key :=
    (Numbering.numbers_of_assign h).keys_eq
  have hnodup : (n.ids.map Prod.fst).Nodup := hkeys ▸ r.distinct
  have hsame : ∀ k : Nat, n.ids[k]?.map Prod.fst = r.glyphs[k]?.map Glyph.key := by
    intro k
    rw [← List.getElem?_map, ← List.getElem?_map, hkeys]
  refine ⟨Filing.ofPairs_eq hnodup, hsame, ?_, ?_⟩
  · have hlength := congrArg List.length hkeys
    rw [List.length_map, List.length_map] at hlength
    exact List.map_fst_zip hlength.ge
  · intro p hp
    obtain ⟨k, hk⟩ := List.mem_iff_getElem?.mp hp
    obtain ⟨hg, hid⟩ := List.getElem?_zip_eq_some.mp hk
    have hkey := hsame k
    rw [hg, hid, Option.map_some, Option.map_some, Option.some_inj] at hkey
    refine ⟨hkey, (Numbering.find?_eq_some_iff hnodup).mpr ?_⟩
    rw [← hkey]
    exact List.mem_of_getElem? hid

/-- Over any run of edits, from nothing or from annotations, the filing that they are carried out on
entry by entry is that of the repertoire: every glyph is filed under its own key, keys keep their
order, and an edit that fails changes nothing. -/
theorem run_of_edits {a : Option Annotations} (h : start a = .ok r) (es : List Edit) :
    ∃ files, Filing.start a = .ok files ∧
      (files.afterAll es).Upheld (r.afterAll es) ∧
      (∀ more, (files.afterAll es).keys <+: (files.afterAll (es ++ more)).keys) ∧
      (∀ e, (files.afterAll es).edit e = ((r.afterAll es).edit e).outcome.map filed) ∧
      (∀ e fault, (files.afterAll es).edit e = .error fault →
        files.afterAll (es ++ [e]) = files.afterAll es ∧
          ((∃ o sheet, e = .mergeSheet o sheet ∧ sheet.layers = .error fault) ∨
            ∃ s, e = .synthesize s ∧ (r.afterAll es).forms s = .error fault)) ∧
      ∀ n, Numbering.assign (r.afterAll es) = .ok n → n.Lockstep (r.afterAll es) := by
  refine ⟨r.filed, ?_, ?_, fun more => ?_, fun e => ?_, fun e fault hfault => ?_, ?_⟩
  · rw [start_filed, h]
    rfl
  · rw [afterAll_filed]
    exact upheld_filed _
  · rw [afterAll_filed, afterAll_filed, keys_filed, keys_filed, afterAll, afterAll,
      List.foldl_append]
    exact keys_afterAll _ more
  · rw [afterAll_filed, edit_filed]
  · refine ⟨by rw [Filing.afterAll_concat, Filing.edited_of_error hfault], ?_⟩
    rw [afterAll_filed, edit_filed] at hfault
    exact edit_eq_error (map_eq_error.mp hfault)
  · exact fun n => lockstep_of_assign

/-- A glyph that asks for an id. -/
def sampleIndexed : Annotations := ⟨[("tp.a", { index := some 7 })], by decide⟩

/-- A form cannot be made as long as the word is not drawn, and a glyph that is changed keeps its
key. -/
def sampleEdits : List Edit := [
  .synthesize {},
  .merge {} [⟨"tp.a", ⟨1, 1, 0, 0, [true], List.length_singleton⟩⟩],
  .update "tp.a" fun g => { g with key := "z", name := "tp.b" },
  .mergeSheet {} ⟨[⟨"x", 1, 1, 2, 2, [1]⟩]⟩,
  .synthesize {},
  .insert (.ofKey "c")]

theorem run_of_sampleEdits :
    ∃ r files, start (some sampleIndexed) = .ok r ∧ Filing.start (some sampleIndexed) = .ok files ∧
      Filing.Upheld (Filing.afterAll files sampleEdits) (r.afterAll sampleEdits) ∧
      (r.afterAll sampleEdits).keys = ["tp.a", "tp.b.cart", "c"] := by
  obtain ⟨r, hr⟩ : ∃ r, start (some sampleIndexed) = .ok r := ⟨_, rfl⟩
  obtain ⟨files, hfiles, hupheld, -⟩ := run_of_edits hr sampleEdits
  cases hr
  exact ⟨_, files, rfl, hfiles, hupheld, by decide +kernel⟩

end Repertoire

end Gridface
