import Gridface.Proofs.Repertoire.Lookup
import Gridface.Proofs.Report
import Gridface.Repertoire.Merge

/-!
# Merging in closed form

What becomes of the glyph under a key when layers are merged one after the other: its pixels are
those of the last layer with the key, and its code point is the one that it had or else, if a layer
asks for that, the first character of the key. Merging the same layers again changes nothing.
-/

namespace Gridface

variable {r : Repertoire} {a : Annotations}

/-! ## Drawings -/

/-- A layer with the options of its sheet. -/
abbrev Drawing : Type := MergeOptions × Layer

namespace Drawing

variable {ds : List Drawing} {k : String}

/-- The key of the glyph that is drawn. -/
def key (d : Drawing) : String := d.1.keyOf d.2.name

/-- The last drawing with the given key. -/
def last? (ds : List Drawing) (k : String) : Option Drawing := ds.findRev? (·.key == k)

/-- Whether a drawing with the given key asks for a code point. -/
def asks (ds : List Drawing) (k : String) : Bool :=
  ds.any fun d => d.key == k && d.1.autoCodePoint

theorem last?_concat (ds : List Drawing) (d : Drawing) (k : String) :
    last? (ds ++ [d]) k = if d.key = k then some d else last? ds k := by
  rw [last?, findRev?_concat]
  simp only [beq_iff_eq, last?]

theorem asks_concat (ds : List Drawing) (d : Drawing) (k : String) :
    asks (ds ++ [d]) k = (asks ds k || (d.key == k && d.1.autoCodePoint)) := by
  simp [asks]

theorem last?_of_not_mem (h : k ∉ ds.map Drawing.key) : last? ds k = none := by
  rw [last?, List.findRev?_eq_find?_reverse, List.find?_eq_none]
  intro d hd he
  exact h (beq_iff_eq.mp he ▸ List.mem_map_of_mem (List.mem_reverse.mp hd))

theorem asks_of_not_mem (h : k ∉ ds.map Drawing.key) : asks ds k = false := by
  rw [asks, List.any_eq_false]
  intro d hd he
  exact h (beq_iff_eq.mp (Bool.and_eq_true_iff.mp he).1 ▸ List.mem_map_of_mem hd)

end Drawing

@[simp] theorem MergeOptions.key_draw (o : MergeOptions) (b : Bitmap) (g : Glyph) :
    (o.draw b g).key = g.key := rfl

/-- The glyph after some drawings, of which only those with its key matter. -/
def Glyph.redrawn (g : Glyph) (ds : List Drawing) : Glyph :=
  { g with
    bitmap := ((Drawing.last? ds g.key).map (·.2.bitmap)).or g.bitmap
    codePoint :=
      if Drawing.asks ds g.key then g.codePoint.or g.key.toList.head? else g.codePoint }

theorem Glyph.redrawn_of_not_mem {g : Glyph} {ds : List Drawing}
    (h : g.key ∉ ds.map Drawing.key) : g.redrawn ds = g := by
  rw [redrawn, Drawing.last?_of_not_mem h, Drawing.asks_of_not_mem h]
  rfl

theorem Glyph.redrawn_concat {g : Glyph} {ds : List Drawing} {d : Drawing} (hd : d.key = g.key) :
    g.redrawn (ds ++ [d]) = d.1.draw d.2.bitmap (g.redrawn ds) := by
  rw [redrawn, Drawing.last?_concat, Drawing.asks_concat, redrawn, MergeOptions.draw, hd]
  cases d.1.autoCodePoint with
  | false => simp
  | true =>
      cases Drawing.asks ds g.key with
      | false => simp
      | true => cases g.codePoint <;> simp

theorem Glyph.redrawn_concat_of_ne {g : Glyph} {ds : List Drawing} {d : Drawing}
    (hd : d.key ≠ g.key) : g.redrawn (ds ++ [d]) = g.redrawn ds := by
  rw [redrawn, Drawing.last?_concat, Drawing.asks_concat, if_neg hd, beq_eq_false_iff_ne.mpr hd,
    Bool.false_and, Bool.or_false, redrawn]

theorem Glyph.redrawn_redrawn (g : Glyph) (ds : List Drawing) :
    (g.redrawn ds).redrawn ds = g.redrawn ds := by
  unfold redrawn
  cases Drawing.last? ds g.key with
  | none => cases Drawing.asks ds g.key <;> cases g.codePoint <;> simp
  | some d => cases Drawing.asks ds g.key <;> cases g.codePoint <;> simp

namespace Repertoire

/-! ## Layers of several sheets -/

/-- Merges drawings, in order. -/
def mergeAll (r : Repertoire) (ds : List Drawing) : Repertoire :=
  ds.foldl (fun r d => r.mergeLayer d.1 d.2) r

theorem merge_eq_mergeAll (o : MergeOptions) (r : Repertoire) (layers : List Layer) :
    r.merge o layers = r.mergeAll (layers.map (o, ·)) := by
  rw [merge, mergeAll, List.foldl_map]

theorem mergeAll_append (r : Repertoire) (ds ds' : List Drawing) :
    r.mergeAll (ds ++ ds') = (r.mergeAll ds).mergeAll ds' :=
  List.foldl_append

/-- The glyph that a layer is drawn into. -/
def orNew (r : Repertoire) (key : String) : Glyph := (r.find? key).getD (Glyph.ofKey key)

theorem key_orNew (r : Repertoire) (key : String) : (r.orNew key).key = key := by
  unfold orNew
  cases hfind : r.find? key with
  | none => rfl
  | some g => exact key_of_find? hfind

theorem orNew_key {g : Glyph} (h : g ∈ r.glyphs) : r.orNew g.key = g := by
  rw [orNew, find?_key h]
  rfl

theorem orNew_insert (r : Repertoire) (g : Glyph) (key : String) :
    (r.insert g).orNew key = if key = g.key then g else r.orNew key := by
  rw [orNew, find?_insert]
  split
  · rfl
  · rfl

theorem ext_orNew {r' : Repertoire} (hkeys : r.keys = r'.keys)
    (hglyphs : ∀ key, r.orNew key = r'.orNew key) : r = r' := by
  refine ext_find? hkeys fun key hkey => ?_
  obtain ⟨g, hg⟩ := mem_keys_iff.mp hkey
  obtain ⟨g', hg'⟩ := mem_keys_iff.mp (hkeys ▸ hkey)
  have hsame := hglyphs key
  rw [orNew, orNew, hg, hg'] at hsame
  rw [hg, hg']
  exact congrArg some hsame

theorem mergeLayer_eq (r : Repertoire) (d : Drawing) :
    r.mergeLayer d.1 d.2 = r.insert (d.1.draw d.2.bitmap (r.orNew d.key)) := rfl

theorem keys_mergeAll (r : Repertoire) (ds : List Drawing) :
    (r.mergeAll ds).keys = r.keys ++ newKeys r.keys (ds.map Drawing.key) :=
  keys_foldl Drawing.key (fun r d => ⟨_, mergeLayer_eq r d, key_orNew r d.key⟩) r ds

theorem orNew_mergeLayer (r : Repertoire) (d : Drawing) (key : String) :
    (r.mergeLayer d.1 d.2).orNew key =
      if key = d.key then d.1.draw d.2.bitmap (r.orNew key) else r.orNew key := by
  rw [mergeLayer_eq, orNew_insert, MergeOptions.key_draw, key_orNew]
  by_cases hkey : key = d.key
  · rw [hkey]
  · rw [if_neg hkey, if_neg hkey]

/-- The last drawings of a glyph settle what becomes of it. -/
theorem orNew_mergeAll (r : Repertoire) (ds : List Drawing) (key : String) :
    (r.mergeAll ds).orNew key = (r.orNew key).redrawn ds := by
  induction ds using List.reverseRecOn with
  | nil => exact (Glyph.redrawn_of_not_mem List.not_mem_nil).symm
  | append_singleton ds d ih =>
      have hlast : r.mergeAll (ds ++ [d]) = (r.mergeAll ds).mergeLayer d.1 d.2 :=
        mergeAll_append r ds [d]
      rw [hlast, orNew_mergeLayer, ih]
      by_cases hd : key = d.key
      · rw [if_pos hd, Glyph.redrawn_concat]
        rw [key_orNew, hd]
      · rw [if_neg hd, Glyph.redrawn_concat_of_ne]
        rw [key_orNew]
        exact Ne.symm hd

/-- Merging the same layers again changes nothing. -/
theorem mergeAll_mergeAll (r : Repertoire) (ds : List Drawing) :
    (r.mergeAll ds).mergeAll ds = r.mergeAll ds := by
  have hold : ∀ key ∈ ds.map Drawing.key, key ∈ (r.mergeAll ds).keys := by
    intro key hkey
    rw [keys_mergeAll, List.mem_append, mem_newKeys_iff]
    by_cases hr : key ∈ r.keys
    · exact Or.inl hr
    · exact Or.inr ⟨hkey, hr⟩
  refine ext_orNew ?_ fun key => ?_
  · rw [keys_mergeAll, newKeys_eq_nil hold, List.append_nil]
  · rw [orNew_mergeAll, orNew_mergeAll, Glyph.redrawn_redrawn]

end Repertoire

/-! ## Annotated glyphs -/

/-- The attributes given to the glyph with the given key: none at all if the key is not annotated.
-/
def Annotations.overridesOf (a : Annotations) (key : String) : Overrides :=
  (a.entries.lookup key).getD {}

/-- The keys that are annotated, in the order of the document. -/
def Annotations.keys (a : Annotations) : List String := a.entries.map Prod.fst

/-- The code points that are given are those of characters. -/
def Annotations.Valid (a : Annotations) : Prop :=
  ∀ e ∈ a.entries, ∀ value, e.2.codePoint = some value → value.isValidChar

/-- The glyph with the given key, which nothing is drawn into. -/
def Overrides.glyph (o : Overrides) (key : String) : Glyph where
  key := key
  name := o.name.getD key
  codePoint := o.codePoint.map Char.ofNat
  index := o.index
  ligatures := o.ligatures
  alternate := o.alternate
  zeroAdvance := o.zeroAdvance.getD false
  role := o.role

theorem Overrides.toGlyph_eq_ok {o : Overrides} {key : String}
    (h : ∀ value, o.codePoint = some value → value.isValidChar) :
    o.toGlyph key = .ok (o.glyph key) := by
  unfold toGlyph glyph
  cases hvalue : o.codePoint with
  | none => rfl
  | some value => simp [character, h value hvalue, bind, Except.bind, pure, Except.pure]

namespace Repertoire

theorem ofAnnotations_eq_ok (h : a.Valid) :
    ∃ r, ofAnnotations a = .ok r ∧ r.glyphs = a.entries.map fun e => e.2.glyph e.1 := by
  have hglyphs : (a.entries.mapM fun e => e.2.toGlyph e.1) =
      .ok (a.entries.map fun e => e.2.glyph e.1) := by
    rw [mapM_eq_ok, List.map_map]
    exact List.map_congr_left fun e he => (Overrides.toGlyph_eq_ok (h e he)).symm
  refine ⟨ofList (a.entries.map fun e => e.2.glyph e.1), ?_, glyphs_ofList ?_⟩
  · rw [ofAnnotations, hglyphs]
    rfl
  · rw [List.map_map]
    exact a.distinct

theorem keys_of_glyphs_eq (h : r.glyphs = a.entries.map fun e => e.2.glyph e.1) :
    r.keys = a.keys := by
  rw [keys, h, List.map_map]
  rfl

theorem orNew_of_glyphs_eq (h : r.glyphs = a.entries.map fun e => e.2.glyph e.1) (key : String) :
    r.orNew key = (a.overridesOf key).glyph key := by
  unfold orNew Annotations.overridesOf
  cases hlookup : a.entries.lookup key with
  | some o =>
      have hmem := (lookup_eq_some_iff_mem a.distinct).mp hlookup
      have hfind : r.find? key = some (o.glyph key) := by
        rw [find?_eq_some_iff, h]
        exact ⟨List.mem_map_of_mem (f := fun e : String × Overrides => e.2.glyph e.1) hmem, rfl⟩
      rw [hfind]
      rfl
  | none =>
      have hnot : key ∉ r.keys := by
        rw [keys_of_glyphs_eq h]
        intro hkey
        obtain ⟨e, he, rfl⟩ := List.mem_map.mp hkey
        rw [(lookup_eq_some_iff_mem a.distinct).mpr he] at hlookup
        cases hlookup
      rw [find?_eq_none_iff.mpr hnot]
      rfl

end Repertoire

end Gridface
