import Gridface.Proofs.Font.Reading
import Gridface.Proofs.Font.Storage
import Gridface.Proofs.Outline.Boxes
import Gridface.Proofs.Outline.Contours
import Gridface.Proofs.Roster.Ids

/-!
# Glyphs keep their ids

Entries have ids with gaps between them. In the font, each glyph stands at its own id, and glyphs
without ink stand in the gaps.
-/

namespace Gridface

variable {α : Type}

/-! ## Entries by their ids -/

namespace Roster.Numbered

variable {t : Roster α} (h : t.Numbered)

include h

theorem drawn?_eq_some {e : Entry α} (he : e ∈ t.entries) : t.drawn? e.id = some e := by
  cases hdrawn : t.drawn? e.id with
  | none =>
      rw [drawn?, List.findRev?_eq_find?_reverse, List.find?_eq_none] at hdrawn
      exact absurd (beq_self_eq_true e.id) (hdrawn e (List.mem_reverse.mpr he))
  | some e' =>
      obtain ⟨he', hid⟩ := Roster.drawn?_eq_some hdrawn
      rw [h.eq_of_id he' he hid]

theorem fault?_eq_none : t.fault? = none := by
  rw [fault?, Option.map_eq_none_iff, List.find?_eq_none]
  intro e he
  rw [decide_eq_true_iff, Nat.min_eq_left h.glyphCount_le, Nat.not_le]
  exact h.lt_glyphCount he

end Roster.Numbered

variable [Coordinate α] {library : FontLibrary}

/-! ## Drawn glyphs -/

namespace FontGlyph

variable {id : GlyphId} {name : String} {advance : Nat} {outline : Outline α} {g : FontGlyph}

/-- The glyph has its ink, and a box, and its side bearing shows where the box begins. -/
structure Inked (g : FontGlyph) (box : Box) : Prop where
  has_contours : g.contours ≠ []
  box_eq : g.box = some box
  around : box.IsAround g.contours.flatten
  bearing : g.sideBearing = box.xMin

/-- The glyph has no ink. -/
structure Blank (g : FontGlyph) : Prop where
  contours_eq : g.contours = []
  box_eq : g.box = none
  bearing : g.sideBearing = 0

/-- The glyph shows an outline. -/
structure Draws (g : FontGlyph) (id : GlyphId) (name : String) (advance : Nat)
    (outline : Outline α) : Prop where
  id_eq : g.id = id
  name_eq : g.name = name
  advance_eq : g.advance = advance
  contours : ∃ cs, outline.contours = .ok cs ∧ g.contours = cs.map Contour.rounded
  ink : g.Blank ∨ ∃ box, g.Inked box

theorem ofOutline_eq_ok (h : ofOutline library id name advance outline = .ok g) :
    ∃ cs, outline.contours = .ok cs ∧
      library.obstacle? (cs.map Contour.rounded) = none ∧
      g = {
        id, name, advance
        contours := cs.map Contour.rounded
        box := Box.around? (cs.map Contour.rounded).flatten
        sideBearing :=
          ((Box.around? (cs.map Contour.rounded).flatten).map Box.xMin).getD 0 } := by
  unfold ofOutline at h
  cases hcs : outline.contours with
  | error flaw =>
      rw [hcs] at h
      cases h
  | ok cs =>
      rw [hcs] at h
      simp only at h
      cases hobstacle : library.obstacle? (cs.map Contour.rounded) with
      | some obstacle =>
          rw [hobstacle] at h
          cases h
      | none =>
          rw [hobstacle] at h
          cases h
          exact ⟨cs, rfl, hobstacle, rfl⟩

theorem exists_ofOutline {cs : List (Contour α)} (hcs : outline.contours = .ok cs)
    (hstored : library.obstacle? (cs.map Contour.rounded) = none) :
    ∃ g, ofOutline library id name advance outline = .ok g := by
  unfold ofOutline
  rw [hcs]
  simp only [hstored]
  exact ⟨_, rfl⟩

theorem draws_of_ofOutline (h : ofOutline library id name advance outline = .ok g) :
    g.Draws id name advance outline := by
  obtain ⟨cs, hcs, -, rfl⟩ := ofOutline_eq_ok h
  refine ⟨rfl, rfl, rfl, ⟨cs, hcs, rfl⟩, ?_⟩
  have hpoints : ∀ c ∈ cs.map Contour.rounded, c ≠ [] := by
    intro c hc
    obtain ⟨c', hc', rfl⟩ := List.mem_map.mp hc
    have hne := Outline.ne_nil_of_mem_contoursFrom hcs (fun c hc => nomatch hc) c' hc'
    exact fun hnil => hne (List.map_eq_nil_iff.mp hnil)
  generalize cs.map Contour.rounded = contours at hpoints
  cases contours with
  | nil => exact .inl ⟨rfl, rfl, rfl⟩
  | cons c contours =>
      right
      have hflat : (c :: contours).flatten ≠ [] := by
        intro hnil
        exact hpoints c List.mem_cons_self (List.flatten_eq_nil_iff.mp hnil c List.mem_cons_self)
      obtain ⟨box, hbox⟩ := Option.ne_none_iff_exists'.mp (mt Box.around?_eq_none_iff.mp hflat)
      refine ⟨box, List.cons_ne_nil c contours, hbox, (Box.around?_eq_some_iff.mp hbox).2, ?_⟩
      show (Option.map Box.xMin (Box.around? _)).getD 0 = box.xMin
      rw [hbox]
      rfl

end FontGlyph

/-! ## The glyph of each id -/

namespace Roster

variable {t : Roster α} {n : Naming} {id : GlyphId}

/-- The glyphs of the font are those of the entries, each at its id, and fillers between them. -/
structure KeepsIds (t : Roster α) (glyphs : List FontGlyph) : Prop where
  count : glyphs.length = t.glyphCount
  entry : ∀ e ∈ t.entries, ∃ g, glyphs[e.id]? = some g ∧ g.Draws e.id e.name e.advance e.outline
  filler : ∀ id < t.glyphCount, (∀ e ∈ t.entries, e.id ≠ id) → glyphs[id]? = some (t.filler id)

theorem Numbered.keepsIds (h : t.Numbered) {gs : List FontGlyph}
    (hgs : t.fontGlyphs library = .ok gs) : t.KeepsIds gs := by
  constructor
  case count => exact length_of_fontGlyphs hgs
  case entry =>
    intro e he
    obtain ⟨g, hg, hok⟩ := getElem?_fontGlyphs hgs (h.drawn?_eq_some he) (h.lt_glyphCount he)
    exact ⟨g, hg, FontGlyph.draws_of_ofOutline hok⟩
  case filler =>
    intro id hid hfree
    obtain ⟨g, hg, hok⟩ := exists_fontGlyph hgs hid
    rw [drawn?_eq_none hfree] at hok
    rw [hg, eq_filler_of_fontGlyph hok]

end Roster

/-- A roster that was built has room for each of its glyphs at its id. Any font of it, whatever the
library, has as many glyphs as the roster counts, each at its id, fillers elsewhere, and the tables
of the file count them alike. -/
theorem glyphs_at_ids {o : RosterOptions} {r : Repertoire} {t : Roster α}
    (h : (o.compile r).outcome = .ok t) :
    t.fault? = none ∧ (∀ e ∈ t.entries, e.id < t.slots.size) ∧
      ∀ (n : Naming) (library : FontLibrary) (font : Font),
        (t.assemble n library).outcome = .ok font →
          t.KeepsIds font.glyphs ∧ FontFile.Counts font t.glyphCount := by
  have hnumbered := numbered_of_compile h
  refine ⟨hnumbered.fault?_eq_none, fun e he => ?_, fun n library font hfont => ?_⟩
  · rw [Roster.size_slots]
    exact hnumbered.lt_glyphCount he
  · have hkeeps := hnumbered.keepsIds (Roster.assembled_of_assemble hfont).glyphs
    refine ⟨hkeeps, ?_⟩
    rw [← hkeeps.count]
    refine FontFile.counts font ?_
    rw [Font.glyphCount, hkeeps.count]
    exact hnumbered.glyphCount_le

/-- A glyph without a bitmap and, two ids later, a pixel left of the origin. -/
def sampleSparse : Repertoire where
  glyphs := [{ Glyph.ofKey "b" with
      index := some 3, bitmap := some ⟨1, 1, -1, 5, [true], List.length_singleton⟩ },
    { Glyph.ofKey "a" with index := some 1 }]
  distinct := by decide

theorem glyphs_of_sampleSparse :
    ∃ (t : Roster Int) (font : Font), (RosterOptions.compile {} sampleSparse).outcome = .ok t ∧
      (t.assemble default).outcome = .ok font ∧ t.glyphCount = 4 ∧
      font.glyphs.map (fun g => (g.name, g.advance, g.sideBearing, g.contours)) =
        [(".notdef", 1024, 0, []), ("a", 1024, 0, []), (".gap2", 0, 0, []),
          ("b", 1024, -128, [[(-128, 128), (-128, 256), (0, 256), (0, 128)]])] ∧
      t.KeepsIds font.glyphs ∧ FontFile.Counts font 4 := by
  have hrun : (RosterOptions.compile {} sampleSparse : Report (Roster Int)).outcome.map (fun t =>
      (((t.fontGlyphs .standard).map fun gs =>
          (gs.map fun g => (g.name, g.advance, g.sideBearing, g.contours),
            FontFile.hasLongGlyphName gs)),
        (CharacterMap.compile CharacterMap.storageFault? t.mappings).map List.length,
        (Substitutions.compile t.ligatures t.alternates t.rules).1)) =
      .ok (.ok ([(".notdef", 1024, 0, []), ("a", 1024, 0, []), (".gap2", 0, 0, []),
        ("b", 1024, -128, [[(-128, 128), (-128, 256), (0, 256), (0, 128)]])], false), .ok 0,
        none) := by
    cbv
  obtain ⟨t, ht, hparts⟩ := map_eq_ok.mp hrun
  obtain ⟨hglyphs, hparts⟩ := Prod.mk.inj hparts
  obtain ⟨hmaps, hnone⟩ := Prod.mk.inj hparts
  obtain ⟨maps, hmaps, -⟩ := map_eq_ok.mp hmaps
  obtain ⟨hfault, -, hall⟩ := glyphs_at_ids ht
  obtain ⟨font, hfont, hglyphs⟩ := Roster.exists_font_of_runs (n := default) hfault hglyphs
    ⟨maps, hmaps⟩ (by decide) hnone
  obtain ⟨hkeeps, hcounts⟩ := hall default .standard font hfont
  have hcount : t.glyphCount = 4 := by
    rw [← hkeeps.count, ← List.length_map, hglyphs]
    rfl
  exact ⟨t, font, ht, hfont, hcount, hglyphs, hkeeps, hcount ▸ hcounts⟩

end Gridface
