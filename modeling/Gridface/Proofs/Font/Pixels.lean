import Gridface.Proofs.Font.Storage

/-!
# Pixels in a font

The pixels of a bitmap survive to the font: the glyph that carries the bitmap's outline has one
square for each set pixel, and the bitmap can be read off them. There is such a font just if the
font library stores the squares.
-/

namespace Gridface

variable {m : Metrics} {b : Bitmap} {t : Roster Int} {n : Naming} {library : FontLibrary}
  {e : Entry Int} {font : Font}

namespace Roster

/-- The library makes a font of everything in the roster but the outline of one entry. -/
structure Rest (t : Roster Int) (n : Naming) (library : FontLibrary) (e : Entry Int) : Prop where
  no_fault : t.fault? = none
  blank : library.obstacle? [] = none
  others : ∀ e' ∈ t.entries, e' ≠ e →
    ∃ g, FontGlyph.ofOutline library e'.id e'.name e'.advance e'.outline = .ok g
  maps : ∃ maps, CharacterMap.compile library.storageFault? t.mappings = .ok maps
  accepted : t.IsAccepted n library

theorem exists_glyph (h : (t.assemble n library).outcome = .ok font)
    (hdrawn : t.drawn? e.id = some e) :
    ∃ g, font.glyphs[e.id]? = some g ∧
      FontGlyph.ofOutline library e.id e.name e.advance e.outline = .ok g := by
  have hassembled := assembled_of_assemble h
  exact getElem?_fontGlyphs hassembled.glyphs hdrawn
    (lt_glyphCount hassembled.no_fault (drawn?_eq_some hdrawn).1)

theorem Rest.exists_font (h : t.Rest n library e)
    (he : ∃ g, FontGlyph.ofOutline library e.id e.name e.advance e.outline = .ok g) :
    ∃ font, (t.assemble n library).outcome = .ok font := by
  refine exists_assemble h.no_fault (exists_fontGlyphs h.blank fun e' he' => ?_) h.maps h.accepted
  by_cases hsame : e' = e
  · exact hsame ▸ he
  · exact h.others e' he' hsame

end Roster

namespace Bitmap

theorem squares_of_assemble (hscale : 0 < m.scale Int) (hfits : ∀ p ∈ b.filled, b.FitsUnits m p)
    (hdrawn : t.drawn? e.id = some e) (he : b.outline m = .ok e.outline)
    (h : (t.assemble n library).outcome = .ok font) :
    library.obstacle? (b.squares m) = none ∧
      ∃ g, font.glyphs[e.id]? = some g ∧ g.contours = b.squares m := by
  obtain ⟨g, hg, hok⟩ := Roster.exists_glyph h hdrawn
  obtain ⟨hiff, hcontours⟩ := ofOutline_squares library hscale hfits e.id e.name e.advance
  rw [outline_eq_ok hscale hfits] at he
  rw [← Except.ok.inj he] at hok
  exact ⟨hiff.mp ⟨g, hok⟩, g, hg, hcontours g hok⟩

/-- If a pixel has a whole number of units, all corners of set pixels are 16-bit numbers of them and
the indices of set pixels have 32 bits, the bitmap has an outline. Whatever the font library, the
glyph that carries the outline has a square for each set pixel, row by row, and shows the bitmap;
and a font with it can be assembled just if the library stores the squares. The standard library
stores them if they are few and neither too large nor too far from each other. -/
theorem pixels_in_font (hm : m.IsWhole) (hindexed : b.IsIndexed)
    (hfits : ∀ x y, b.HasPixel x y → b.FitsUnits m (x, y)) :
    (∀ x y, (x, y) ∈ b.filled ↔ b.HasPixel x y) ∧ b.filled.Pairwise Before ∧
      (FontLibrary.standard.obstacle? (b.squares m) = none ↔ b.Storable m) ∧
      ∃ o : Outline Int, b.outline m = .ok o ∧
        ∀ (t : Roster Int) (n : Naming) (library : FontLibrary) (e : Entry Int),
          t.drawn? e.id = some e → e.outline = o →
            (∀ font, (t.assemble n library).outcome = .ok font →
              ∃ g, font.glyphs[e.id]? = some g ∧ b.ShownBy m g.contours) ∧
            (t.Rest n library e → ((∃ font, (t.assemble n library).outcome = .ok font) ↔
              library.obstacle? (b.squares m) = none)) := by
  have hscale := hm.scale_pos
  have hfilled : ∀ p ∈ b.filled, b.FitsUnits m p := forall_filled hindexed hfits
  have houtline := outline_eq_ok hscale hfilled
  refine ⟨fun x y => mem_filled_iff hindexed, pairwise_filled hindexed,
    storable_iff hscale hfilled, _, houtline, fun t n library e hdrawn he => ?_⟩
  have hcarries : b.outline m = .ok e.outline := he ▸ houtline
  refine ⟨fun font hfont => ?_, fun hrest => ⟨?_, fun hstored => ?_⟩⟩
  · obtain ⟨-, g, hg, hcontours⟩ := squares_of_assemble hscale hfilled hdrawn hcarries hfont
    exact ⟨g, hg, hcontours ▸ shownBy_squares hscale hindexed⟩
  · rintro ⟨font, hfont⟩
    exact (squares_of_assemble hscale hfilled hdrawn hcarries hfont).1
  · refine hrest.exists_font ?_
    rw [he]
    exact (ofOutline_squares library hscale hfilled e.id e.name e.advance).1.mpr hstored

/-- With the default metrics everything near the em box fits. -/
theorem fitsUnits_of_near (hleft : -256 ≤ b.x) (hright : b.x + b.width ≤ 255) (htop : -248 ≤ b.y)
    (hbottom : b.y + b.height ≤ 263) : ∀ x y, b.HasPixel x y → b.FitsUnits {} (x, y) := by
  rintro x y ⟨hx, hy, -⟩
  have hscale : Metrics.scale Int {} = 128 := rfl
  have hcolumn : Position.wrapped x = x := Position.wrapped_eq (by omega)
  have hrow : Position.wrapped y = y := Position.wrapped_eq (by omega)
  constructor
  case toHasPosition =>
    constructor
    all_goals
      simp only [hcolumn, hrow, Position.InRange, Position.least, Position.greatest]
      omega
  all_goals
    simp only [FitsUnit, leastUnit, greatestUnit, hscale]
    omega

/-- The roster of one glyph. -/
def sampleInked (m : Metrics) (o : Outline Int) : Roster Int where
  metrics := m
  entries := [⟨"a", "a", 1, none, 0, o⟩]
  ligatures := []
  alternates := []
  rules := []
  unresolved := []

/-- Two pixels side by side and one below the second. -/
def sampleHook : Bitmap := ⟨2, 2, 1, 5, [true, true, false, true], rfl⟩

theorem sampleHook_in_font : ∃ o font, sampleHook.outline {} = .ok o ∧
    ((sampleInked {} o).assemble default).outcome = .ok font ∧
    font.glyphs[1]?.map FontGlyph.contours = some [
      [(128, 128), (128, 256), (256, 256), (256, 128)],
      [(256, 128), (256, 256), (384, 256), (384, 128)],
      [(256, 0), (256, 128), (384, 128), (384, 0)]] := by
  have hfits : ∀ x y, sampleHook.HasPixel x y → sampleHook.FitsUnits {} (x, y) :=
    fitsUnits_of_near (by decide) (by decide) (by decide) (by decide)
  have hindexed : sampleHook.IsIndexed := isIndexed_of_length (by decide)
  obtain ⟨-, -, -, o, ho, hfonts⟩ := pixels_in_font ⟨by decide, by decide⟩ hindexed hfits
  obtain ⟨hshown, -⟩ :=
    hfonts (sampleInked {} o) default .standard ⟨"a", "a", 1, none, 0, o⟩ rfl rfl
  have hrun : ((sampleHook.outline {} : Except Fault (Outline Int)).map fun o =>
      ((sampleInked {} o).assemble default).outcome.map Font.glyphCount) = .ok (.ok 2) := by
    decide +kernel
  obtain ⟨o', ho', hassemble⟩ := map_eq_ok.mp hrun
  cases ho.symm.trans ho'
  obtain ⟨font, hfont, -⟩ := map_eq_ok.mp hassemble
  obtain ⟨g, hg, hg'⟩ := hshown font hfont
  refine ⟨o, font, ho, hfont, ?_⟩
  rw [hg, Option.map_some, hg'.contours_eq]
  decide

/-! ## Pixels that are lost -/

/-- All corners of the pixels are 16-bit numbers of units, but no font with the outline shows the
bitmap. -/
def Lost (m : Metrics) (b : Bitmap) : Prop :=
  m.IsWhole ∧ (∀ x y, b.HasPixel x y → b.FitsUnits m (x, y)) ∧
    ∃ o : Outline Int, b.outline m = .ok o ∧
      ¬∃ font g, ((sampleInked m o).assemble default).outcome = .ok font ∧
        font.glyphs[1]? = some g ∧ b.ShownBy m g.contours

theorem squares_of_sampleInked (hscale : 0 < m.scale Int) (hfits : ∀ p ∈ b.filled, b.FitsUnits m p)
    (h : ((sampleInked m (Outline.squares (m.scale Int) (b.filled.map (m.corner b.x b.y)))).assemble
      n library).outcome = .ok font) :
    library.obstacle? (b.squares m) = none ∧
      ∃ g, font.glyphs[1]? = some g ∧ g.contours = b.squares m :=
  squares_of_assemble (e := ⟨"a", "a", 1, none, 0, _⟩) hscale hfits rfl
    (outline_eq_ok hscale hfits) h

theorem lost_of_not_storable (hm : m.IsWhole) (hindexed : b.IsIndexed)
    (hfits : ∀ x y, b.HasPixel x y → b.FitsUnits m (x, y)) (h : ¬b.Storable m) : Lost m b := by
  have hscale := hm.scale_pos
  have hfilled : ∀ p ∈ b.filled, b.FitsUnits m p := forall_filled hindexed hfits
  refine ⟨hm, hfits, _, outline_eq_ok hscale hfilled, ?_⟩
  rintro ⟨font, g, hfont, -⟩
  exact h ((storable_iff hscale hfilled).mp (squares_of_sampleInked hscale hfilled hfont).1)

/-- Metrics with one pixel, of 32768 units, in an em. -/
def sampleCoarse : Metrics := { unitsPerEm := 32768, pixelsPerEm := 1, flipAxis := 0 }

/-- The pixel to the left of the origin and below it. -/
def samplePixel : Bitmap := ⟨1, 1, -1, 1, [true], List.length_singleton⟩

/-- Metrics with one pixel, of 10000 units, in an em. -/
def sampleMedium : Metrics := { unitsPerEm := 10000, pixelsPerEm := 1, flipAxis := 0 }

/-- Two pixels with four others between them. -/
def sampleGap : Bitmap := ⟨6, 1, -3, 0, [true, false, false, false, false, true], rfl⟩

/-- A block of 128 rows and columns. -/
def sampleBlock : Bitmap := ⟨128, 128, 0, 0, List.replicate 16384 true, List.length_replicate⟩

/-- One set pixel among others. -/
def lonePixels (before after : Nat) : List Bool :=
  List.replicate before false ++ true :: List.replicate after false

theorem length_lonePixels (before after : Nat) :
    (lonePixels before after).length = before + (after + 1) := by
  rw [lonePixels, List.length_append, List.length_cons, List.length_replicate,
    List.length_replicate]

theorem getElem?_lonePixels {before after i : Nat} :
    (lonePixels before after)[i]? = some true ↔ i = before := by
  rw [lonePixels, List.getElem?_append, List.length_replicate]
  constructor
  · intro h
    split at h
    · cases List.eq_of_mem_replicate (List.mem_of_getElem? h)
    · cases hi : i - before with
      | zero => omega
      | succ k =>
          rw [hi, List.getElem?_cons_succ] at h
          cases List.eq_of_mem_replicate (List.mem_of_getElem? h)
  · rintro rfl
    rw [if_neg (Nat.lt_irrefl i), Nat.sub_self]
    rfl

theorem setIndices_lonePixels (before after : Nat) :
    setIndices (lonePixels before after) = [UInt32.ofNat before] := by
  have hblank : ∀ count start,
      ((List.replicate count false).zipIdx start).filter (·.1) = [] := by
    intro count start
    rw [List.filter_eq_nil_iff]
    intro p hp
    rw [List.eq_of_mem_replicate (List.fst_mem_of_mem_zipIdx hp)]
    exact Bool.false_ne_true
  rw [setIndices, lonePixels, List.zipIdx_append, List.filter_append, hblank, List.nil_append,
    List.zipIdx_cons, List.filter_cons_of_pos rfl, hblank, List.length_replicate, Nat.zero_add]
  rfl

/-- A grid in which only the first pixel of the last row is set; there are 2^32 pixels before it. -/
def sampleVast : Bitmap where
  width := 268435456
  height := 17
  x := 0
  y := 0
  pixels := lonePixels 4294967296 268435455
  covers := length_lonePixels _ _

theorem filled_sampleVast : sampleVast.filled = [(0, 0)] := by
  rw [filled, show sampleVast.pixels = lonePixels 4294967296 268435455 from rfl,
    setIndices_lonePixels]
  rfl

theorem hasPixel_sampleVast {x y : Nat} : sampleVast.HasPixel x y ↔ x = 0 ∧ y = 16 := by
  have hpixel : sampleVast.HasPixel x y ↔
      x < 268435456 ∧ y < 17 ∧ y * 268435456 + x = 4294967296 :=
    and_congr_right' (and_congr_right' getElem?_lonePixels)
  rw [hpixel]
  omega

theorem lost_sampleVast : Lost {} sampleVast := by
  have hscale : 0 < Metrics.scale Int {} := by decide
  have hfilled : ∀ p ∈ sampleVast.filled, sampleVast.FitsUnits {} p := by
    rw [filled_sampleVast]
    intro p hp
    rw [List.mem_singleton.mp hp]
    decide
  refine ⟨⟨by decide, by decide⟩, fun x y h => ?_, _, outline_eq_ok hscale hfilled, ?_⟩
  · obtain ⟨rfl, rfl⟩ := hasPixel_sampleVast.mp h
    decide
  · rintro ⟨font, g, hfont, hg, hshown⟩
    obtain ⟨-, g', hg', hcontours⟩ := squares_of_sampleInked hscale hfilled hfont
    cases hg.symm.trans hg'
    -- the pixel is drawn in the first row, so no contour has its corner
    obtain ⟨c, hc, hcorner⟩ := (hshown.hasPixel_iff (0, 16) (by decide) (by decide)).mp
      (hasPixel_sampleVast.mpr ⟨rfl, rfl⟩)
    rw [hcontours, squares, filled_sampleVast] at hc
    rw [List.mem_singleton.mp hc, Contour.lowerLeft?_square hscale] at hcorner
    exact absurd (Option.some.inj hcorner) (by decide)

/-- A side of 32768 units is too long, so is a way of 40000 units from one square to the next, and
the points of 16384 squares are too many. In a grid of more than 2^32 pixels a set pixel may be
drawn at the place of another one. -/
theorem pixels_not_in_font :
    Lost sampleCoarse samplePixel ∧ Lost sampleMedium sampleGap ∧ Lost {} sampleBlock ∧
      Lost {} sampleVast := by
  have hpixel : samplePixel.IsIndexed := isIndexed_of_length (by decide)
  have hgap : sampleGap.IsIndexed := isIndexed_of_length (by decide)
  have hblock : sampleBlock.IsIndexed :=
    isIndexed_of_length (sampleBlock.covers.trans_le (by decide))
  refine ⟨lost_of_not_storable ⟨by decide, by decide⟩ hpixel ?_ fun h => ?_,
    lost_of_not_storable ⟨by decide, by decide⟩ hgap ?_ fun h => ?_,
    lost_of_not_storable ⟨by decide, by decide⟩ hblock ?_ fun h => ?_, lost_sampleVast⟩
  · intro x y h
    obtain ⟨rfl, rfl⟩ : x = 0 ∧ y = 0 := ⟨Nat.lt_one_iff.mp h.1, Nat.lt_one_iff.mp h.2.1⟩
    decide
  · exact absurd (h.side (by decide)) (by decide)
  · intro x y h
    rcases List.mem_pair.mp ((mem_filled_iff hgap).mpr h) with hp | hp
    · obtain ⟨rfl, rfl⟩ := Prod.mk.inj hp
      decide
    · obtain ⟨rfl, rfl⟩ := Prod.mk.inj hp
      decide
  · exact absurd h.near (by decide)
  · exact fitsUnits_of_near (by decide) (by decide) (by decide) (by decide)
  · have hfew := h.few
    have hpixels : sampleBlock.pixels = List.replicate 16384 true := rfl
    rw [length_filled, hpixels, List.count_replicate_self] at hfew
    exact Nat.lt_irrefl _ hfew

end Bitmap

end Gridface
