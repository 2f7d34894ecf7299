import Gridface.Project
import Gridface.Proofs.Repertoire.Merging

/-!
# What the sheets of a project draw

The glyphs of a project are told by its inputs alone: the keys are the annotated ones and then those
of the cels in order of first mention, the pixels are those of the last cel with the key, and all
else is what the annotations say. Only a code point that they leave open can come from a sheet.
-/

namespace Gridface

/-! ## Cels -/

namespace Cel

/-- The bitmap has the size, the place and the pixels of the cel. -/
structure DrawnAs (cel : Cel) (b : Bitmap) : Prop where
  width_eq : b.width = cel.width
  height_eq : b.height = cel.height
  x_eq : b.x = cel.x - 1
  y_eq : b.y = cel.y - 1
  pixels_eq : b.pixels = cel.values.map (· == 1)

theorem toLayer_eq_ok {cel : Cel} {layer : Layer} (h : cel.toLayer = .ok layer) :
    layer.name = cel.layer ∧ cel.DrawnAs layer.bitmap := by
  unfold toLayer at h
  cases hx : Position.checked (cel.x - canvasMargin) with
  | error e =>
      rw [hx] at h
      cases h
  | ok x =>
      cases hy : Position.checked (cel.y - canvasMargin) with
      | error e =>
          rw [hx, hy] at h
          cases h
      | ok y =>
          obtain ⟨-, rfl⟩ := Position.checked_eq_ok_iff.mp hx
          obtain ⟨-, rfl⟩ := Position.checked_eq_ok_iff.mp hy
          rw [hx, hy] at h
          by_cases hcovers : (cel.values.map (· == 1)).length = cel.width * cel.height
          · simp only [Bitmap.ofPixels?, hcovers, dif_pos] at h
            cases h
            exact ⟨rfl, rfl, rfl, rfl, rfl, rfl⟩
          · simp only [Bitmap.ofPixels?, hcovers, dif_neg, not_false_eq_true] at h
            cases h

end Cel

/-! ## Contributions -/

/-- A cel that becomes a layer, with the options of its sheet. -/
abbrev Contribution : Type := MergeOptions × Cel

namespace Contribution

variable {cs : List Contribution} {ds : List Drawing}

/-- The key of the glyph that the cel draws. -/
def key (c : Contribution) : String := c.1.keyOf c.2.layer

/-- The last contribution to the glyph with the given key. -/
def last? (cs : List Contribution) (k : String) : Option Contribution := cs.findRev? (·.key == k)

/-- What is drawn, if the cel is well-formed. -/
def drawing (c : Contribution) : Except Fault Drawing := c.2.toLayer.map (c.1, ·)

/-- The contributions of sheets, in order: a cel whose name begins with two hyphens is none,
whatever the prefix of its sheet. -/
def ofSheets (sheets : List (Sheet × MergeOptions)) : List Contribution :=
  sheets.flatMap fun s =>
    (s.1.cels.filter fun c => ¬['-', '-'] <+: c.layer.toList).map fun c => (s.2, c)

theorem ofSheets_append (before after : List (Sheet × MergeOptions)) :
    ofSheets (before ++ after) = ofSheets before ++ ofSheets after :=
  List.flatMap_append

theorem drawing_eq_ok {c : Contribution} {d : Drawing} (h : c.drawing = .ok d) :
    d.1 = c.1 ∧ d.key = c.key ∧ c.2.DrawnAs d.2.bitmap := by
  obtain ⟨layer, hlayer, rfl⟩ := map_eq_ok.mp h
  obtain ⟨hname, hdrawn⟩ := Cel.toLayer_eq_ok hlayer
  exact ⟨rfl, congrArg c.1.keyOf hname, hdrawn⟩

theorem keys_eq (h : ds.map .ok = cs.map drawing) : ds.map Drawing.key = cs.map key := by
  induction cs generalizing ds with
  | nil => rw [List.map_eq_nil_iff.mp h]; rfl
  | cons c cs ih =>
      obtain ⟨d, ds, rfl, hd, hds⟩ := List.map_eq_cons_iff.mp h
      rw [List.map_cons, List.map_cons, ih hds, (drawing_eq_ok hd.symm).2.1]

theorem asks_iff (h : ds.map .ok = cs.map drawing) {k : String} :
    Drawing.asks ds k = true ↔ ∃ c ∈ cs, c.key = k ∧ c.1.autoCodePoint = true := by
  simp only [Drawing.asks, List.any_eq_true, Bool.and_eq_true, beq_iff_eq]
  constructor
  · rintro ⟨d, hd, hkey, hasks⟩
    obtain ⟨c, hc, hcd⟩ := (mem_iff_of_map_ok h).mp hd
    obtain ⟨hoptions, hsame, -⟩ := drawing_eq_ok hcd
    exact ⟨c, hc, hsame ▸ hkey, hoptions ▸ hasks⟩
  · rintro ⟨c, hc, hkey, hasks⟩
    obtain ⟨d, hd, hcd⟩ := exists_of_map_ok h hc
    obtain ⟨hoptions, hsame, -⟩ := drawing_eq_ok hcd
    exact ⟨d, hd, hsame ▸ hkey, hoptions ▸ hasks⟩

theorem last?_drawing (h : ds.map .ok = cs.map drawing) (k : String) :
    (Drawing.last? ds k).map .ok = (last? cs k).map drawing :=
  findRev?_of_map_ok h fun c d hd => by rw [(drawing_eq_ok hd).2.1]

theorem layers_eq_ok {s : Sheet} {o : MergeOptions} {layers : List Layer}
    (h : s.layers = .ok layers) :
    (layers.map (o, ·)).map .ok = (ofSheets [(s, o)]).map drawing := by
  have hscratch : (s.cels.filter fun c => !c.isScratch) =
      s.cels.filter fun c => ¬['-', '-'] <+: c.layer.toList := by
    refine List.filter_congr fun c _ => ?_
    rw [Cel.isScratch, Cel.scratchMark, Bool.eq_iff_iff, Bool.not_eq_true', decide_eq_true_iff,
      Bool.eq_false_iff, Ne, List.isPrefixOf_iff_prefix]
  rw [Sheet.layers, hscratch, mapM_eq_ok] at h
  rw [ofSheets, List.flatMap_singleton, List.map_map, List.map_map]
  have hpairs := congrArg (List.map (Except.map (Prod.mk o))) h
  rw [List.map_map, List.map_map] at hpairs
  exact hpairs

end Contribution

namespace Project

variable {p : Project} {r : Repertoire}

/-- The contributions of the project's sheets. -/
def contributions (p : Project) : List Contribution := Contribution.ofSheets p.sheets

/-- The repertoire that the annotations and the sheets of a project stand for. -/
structure Draws (p : Project) (r : Repertoire) : Prop where
  keys_eq : r.keys =
    p.annotations.keys ++ newKeys p.annotations.keys (p.contributions.map Contribution.key)
  bitmap_eq_none : ∀ g ∈ r.glyphs, Contribution.last? p.contributions g.key = none →
    g.bitmap = none
  bitmap_eq_some : ∀ g ∈ r.glyphs, ∀ c, Contribution.last? p.contributions g.key = some c →
    ∃ b, g.bitmap = some b ∧ c.2.DrawnAs b
  codePoint_given : ∀ g ∈ r.glyphs, ∀ value,
    (p.annotations.overridesOf g.key).codePoint = some value →
    g.codePoint = some (Char.ofNat value)
  codePoint_asked : ∀ g ∈ r.glyphs, (p.annotations.overridesOf g.key).codePoint = none →
    (∃ c ∈ p.contributions, c.key = g.key ∧ c.1.autoCodePoint = true) →
    g.codePoint = g.key.toList.head?
  codePoint_open : ∀ g ∈ r.glyphs, (p.annotations.overridesOf g.key).codePoint = none →
    (¬∃ c ∈ p.contributions, c.key = g.key ∧ c.1.autoCodePoint = true) →
    g.codePoint = none
  name_eq : ∀ g ∈ r.glyphs, g.name = (p.annotations.overridesOf g.key).name.getD g.key
  index_eq : ∀ g ∈ r.glyphs, g.index = (p.annotations.overridesOf g.key).index
  ligatures_eq : ∀ g ∈ r.glyphs, g.ligatures = (p.annotations.overridesOf g.key).ligatures
  alternate_eq : ∀ g ∈ r.glyphs, g.alternate = (p.annotations.overridesOf g.key).alternate
  zeroAdvance_eq : ∀ g ∈ r.glyphs,
    g.zeroAdvance = (p.annotations.overridesOf g.key).zeroAdvance.getD false
  role_eq : ∀ g ∈ r.glyphs, g.role = (p.annotations.overridesOf g.key).role

/-- Sheets whose layers are all well-formed are merged as one list of drawings. -/
theorem foldlM_merge {sheets : List (Sheet × MergeOptions)}
    (hlayers : ∀ s ∈ sheets, ∃ layers, s.1.layers = .ok layers) (r : Repertoire) :
    ∃ ds : List Drawing, ds.map .ok = (Contribution.ofSheets sheets).map Contribution.drawing ∧
      sheets.foldlM (fun r s => return r.merge s.2 (← s.1.layers)) r =
        (.ok (r.mergeAll ds) : Except Fault Repertoire) := by
  induction sheets generalizing r with
  | nil => exact ⟨[], rfl, rfl⟩
  | cons s sheets ih =>
      obtain ⟨⟨layers, hs⟩, hrest⟩ := List.forall_mem_cons.mp hlayers
      obtain ⟨ds, hds, hfold⟩ := ih hrest (r.merge s.2 layers)
      refine ⟨layers.map (s.2, ·) ++ ds, ?_, ?_⟩
      · rw [List.map_append, Contribution.layers_eq_ok hs, hds, ← List.map_append,
          ← Contribution.ofSheets_append, List.singleton_append]
      · rw [List.foldlM_cons, hs, Repertoire.mergeAll_append, ← Repertoire.merge_eq_mergeAll]
        exact hfold

theorem draws_mergeAll {ds : List Drawing}
    (hr : r.glyphs = p.annotations.entries.map fun e => e.2.glyph e.1)
    (hds : ds.map .ok = p.contributions.map Contribution.drawing) : p.Draws (r.mergeAll ds) := by
  have hglyph : ∀ g ∈ (r.mergeAll ds).glyphs,
      g = ((p.annotations.overridesOf g.key).glyph g.key).redrawn ds := by
    intro g hg
    rw [← Repertoire.orNew_of_glyphs_eq hr, ← Repertoire.orNew_mergeAll, Repertoire.orNew_key hg]
  have hlast := fun k => Contribution.last?_drawing hds k
  have hasks := fun k => Contribution.asks_iff hds (k := k)
  constructor
  case keys_eq =>
    rw [Repertoire.keys_mergeAll, Repertoire.keys_of_glyphs_eq hr, Contribution.keys_eq hds]
  case bitmap_eq_none =>
    intro g hg hnone
    have hdrawing := hlast g.key
    rw [hnone, Option.map_none, Option.map_eq_none_iff] at hdrawing
    rw [hglyph g hg]
    show ((Drawing.last? ds g.key).map (·.2.bitmap)).or none = none
    rw [hdrawing]
    rfl
  case bitmap_eq_some =>
    intro g hg c hc
    have hdrawing := hlast g.key
    rw [hc, Option.map_some, Option.map_eq_some_iff] at hdrawing
    obtain ⟨d, hd, hcd⟩ := hdrawing
    refine ⟨d.2.bitmap, ?_, (Contribution.drawing_eq_ok hcd.symm).2.2⟩
    rw [hglyph g hg]
    show ((Drawing.last? ds g.key).map (·.2.bitmap)).or none = some d.2.bitmap
    rw [hd]
    rfl
  case codePoint_given =>
    intro g hg value hvalue
    rw [hglyph g hg]
    show (if Drawing.asks ds g.key = true then _ else _) = _
    simp only [Overrides.glyph, hvalue, Option.map_some, Option.some_or, ite_self]
  case codePoint_asked =>
    intro g hg hopen hasked
    rw [hglyph g hg]
    show (if Drawing.asks ds g.key = true then _ else _) = _
    rw [if_pos ((hasks g.key).mpr hasked)]
    simp only [Overrides.glyph, hopen, Option.map_none, Option.none_or]
    rfl
  case codePoint_open =>
    intro g hg hopen hnot
    rw [hglyph g hg]
    show (if Drawing.asks ds g.key = true then _ else _) = _
    rw [if_neg fun hasked => hnot ((hasks g.key).mp hasked)]
    simp only [Overrides.glyph, hopen, Option.map_none]
  case name_eq => exact fun g hg => congrArg Glyph.name (hglyph g hg)
  case index_eq => exact fun g hg => congrArg Glyph.index (hglyph g hg)
  case ligatures_eq => exact fun g hg => congrArg Glyph.ligatures (hglyph g hg)
  case alternate_eq => exact fun g hg => congrArg Glyph.alternate (hglyph g hg)
  case zeroAdvance_eq => exact fun g hg => congrArg Glyph.zeroAdvance (hglyph g hg)
  case role_eq => exact fun g hg => congrArg Glyph.role (hglyph g hg)

/-- If the annotated code points are characters and all layers are well-formed, the project has the
glyphs that its inputs stand for; and to merge the last sheet once more changes nothing. -/
theorem drawn_eq_ok (hcodes : p.annotations.Valid)
    (hlayers : ∀ s ∈ p.sheets, ∃ layers, s.1.layers = .ok layers) :
    ∃ r, p.drawn = .ok r ∧ p.Draws r ∧
      ∀ s ∈ p.sheets.getLast?, ∀ layers, s.1.layers = .ok layers → r.merge s.2 layers = r := by
  obtain ⟨r, hr, hglyphs⟩ := Repertoire.ofAnnotations_eq_ok hcodes
  obtain ⟨ds, hds, hfold⟩ := foldlM_merge hlayers r
  refine ⟨r.mergeAll ds, ?_, draws_mergeAll hglyphs hds, ?_⟩
  · rw [drawn, hr]
    exact hfold
  · intro s hs layers hslayers
    obtain ⟨before, hsplit⟩ := List.getLast?_eq_some_iff.mp hs
    rw [hsplit, Contribution.ofSheets_append, List.map_append,
      ← Contribution.layers_eq_ok hslayers] at hds
    obtain ⟨ds₁, ds₂, rfl, -, hds₂⟩ := List.map_eq_append_iff.mp hds
    obtain rfl : ds₂ = layers.map (s.2, ·) :=
      List.map_injective_iff.mpr (fun _ _ => Except.ok.inj) hds₂
    rw [Repertoire.merge_eq_mergeAll, Repertoire.mergeAll_append, Repertoire.mergeAll_mergeAll]

/-- Two sheets whose cels meet under one key, one of which asks for code points, with an annotated
code point and a scratch cel. -/
def sampleDrawn : Project where
  plan := { naming := { family := "Sample", style := "Regular", version := "1.0" } }
  annotations := ⟨[("xa", { codePoint := some 97 }), ("b", { name := some "bee" })], by decide⟩
  sheets := [
    (⟨[⟨"b", 1, 1, 1, 1, [1]⟩, ⟨"xa", 1, 1, 1, 1, [1]⟩, ⟨"--b", 1, 1, 2, 2, []⟩,
      ⟨"c", 1, 1, 1, 1, [2]⟩]⟩, { autoCodePoint := true }),
    (⟨[⟨"a", 3, 2, 1, 2, [0, 1]⟩, ⟨"", 1, 1, 0, 0, []⟩]⟩, { keyPrefix := some "x" })]

theorem drawn_sampleDrawn : ∃ r, sampleDrawn.drawn = .ok r ∧ sampleDrawn.Draws r ∧
    r.keys = ["xa", "b", "c", "x"] := by
  have hcodes : sampleDrawn.annotations.Valid := by
    intro e he value hvalue
    rcases List.mem_pair.mp he with rfl | rfl
    · cases hvalue
      decide
    · cases hvalue
  have hlayers : ∀ s ∈ sampleDrawn.sheets, ∃ layers, s.1.layers = .ok layers := by
    intro s hs
    rcases List.mem_pair.mp hs with rfl | rfl
    · exact ⟨_, rfl⟩
    · exact ⟨_, rfl⟩
  obtain ⟨r, hr, hdraws, -⟩ := drawn_eq_ok hcodes hlayers
  exact ⟨r, hr, hdraws, hdraws.keys_eq.trans (by decide)⟩

end Project

end Gridface
