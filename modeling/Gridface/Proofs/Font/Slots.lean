import Gridface.Font.Assembly
import Gridface.Proofs.Report
import Mathlib.Data.List.Induction

/-!
# Glyphs by id

The glyph of a font at the place of an id is made of the last entry with that id. A font comes about
just if all its glyphs and its character maps do and the font library accepts the tables.
-/

namespace Gridface

/-- A glyph without ink. -/
def FontGlyph.blank (id : GlyphId) (name : String) (advance : Nat) : FontGlyph where
  id
  name
  advance
  sideBearing := 0
  box := none
  contours := []

namespace Roster

variable {α : Type} {t : Roster α} {n : Naming} {id : GlyphId}

/-! ## Slots -/

/-- The entry that is drawn for an id: the last one that has it. -/
def drawn? (t : Roster α) (id : GlyphId) : Option (Entry α) := t.entries.findRev? (·.id == id)

theorem drawn?_eq_some {e : Entry α} (h : t.drawn? id = some e) : e ∈ t.entries ∧ e.id = id := by
  rw [drawn?, List.findRev?_eq_find?_reverse] at h
  exact ⟨List.mem_reverse.mp (List.mem_of_find?_eq_some h), beq_iff_eq.mp (List.find?_some h :)⟩

theorem drawn?_eq_none (h : ∀ e ∈ t.entries, e.id ≠ id) : t.drawn? id = none := by
  cases hdrawn : t.drawn? id with
  | none => rfl
  | some e =>
      obtain ⟨he, hid⟩ := drawn?_eq_some hdrawn
      exact absurd hid (h e he)

theorem size_foldl_slots (es : List (Entry α)) (slots : Array (Option (Entry α))) :
    (es.foldl (fun slots e => slots.setIfInBounds e.id (some e)) slots).size = slots.size := by
  induction es generalizing slots with
  | nil => rfl
  | cons e es ih => rw [List.foldl_cons, ih, Array.size_setIfInBounds]

theorem size_slots (t : Roster α) : t.slots.size = t.glyphCount := by
  rw [slots, size_foldl_slots, Array.size_replicate]

theorem getElem?_slots (hid : id < t.glyphCount) : t.slots[id]? = some (t.drawn? id) := by
  unfold slots drawn?
  -- from the right: what is written to a place last stays there
  induction t.entries using List.reverseRecOn with
  | nil =>
      rw [List.foldl_nil, Array.getElem?_replicate, if_pos hid]
      rfl
  | append_singleton es e ih =>
      rw [List.foldl_append, List.foldl_cons, List.foldl_nil, Array.getElem?_setIfInBounds,
        size_foldl_slots, Array.size_replicate, findRev?_concat]
      by_cases he : e.id = id
      · rw [if_pos he, if_pos (he ▸ hid), if_pos (beq_iff_eq.mpr he)]
      · rw [if_neg he, ih, if_neg (fun hsame => he (beq_iff_eq.mp hsame))]

theorem zipIdx_slots (t : Roster α) :
    t.slots.toList.zipIdx = (List.range t.glyphCount).map fun id => (t.drawn? id, id) := by
  refine List.ext_getElem? fun id => ?_
  rw [List.getElem?_zipIdx, Array.getElem?_toList, List.getElem?_map]
  by_cases hid : id < t.glyphCount
  · rw [getElem?_slots hid, List.getElem?_range hid, Nat.zero_add]
    rfl
  · have hsize : t.slots.size ≤ id := by rw [size_slots]; exact Nat.le_of_not_lt hid
    rw [Array.getElem?_eq_none hsize, List.getElem?_eq_none (by rw [List.length_range]; omega)]
    rfl

theorem lt_glyphCount (h : t.fault? = none) {e : Entry α} (he : e ∈ t.entries) :
    e.id < t.glyphCount := by
  rw [fault?, Option.map_eq_none_iff, List.find?_eq_none] at h
  have hlt := h e he
  rw [decide_eq_true_iff, Nat.not_le] at hlt
  exact (Nat.lt_min.mp hlt).1

theorem glyphCount_pos (t : Roster α) : 0 < t.glyphCount := by
  unfold glyphCount
  split
  · exact Nat.succ_pos _
  · exact Nat.one_pos

variable [Coordinate α] {library : FontLibrary}

/-! ## Glyphs -/

theorem fontGlyphs_eq_ok {gs : List FontGlyph} :
    t.fontGlyphs library = .ok gs ↔
      gs.map .ok =
        (List.range t.glyphCount).map fun id => t.fontGlyph library id (t.drawn? id) := by
  rw [fontGlyphs, mapM_eq_ok, zipIdx_slots, List.map_map]
  rfl

theorem length_of_fontGlyphs {gs : List FontGlyph} (h : t.fontGlyphs library = .ok gs) :
    gs.length = t.glyphCount := by
  have hlength := congrArg List.length (fontGlyphs_eq_ok.mp h)
  rwa [List.length_map, List.length_map, List.length_range] at hlength

/-- The glyph that stands in for an id that no entry has. -/
def filler (t : Roster α) (id : GlyphId) : FontGlyph :=
  if id = GlyphId.notdef then .blank id notdefName t.metrics.unitsPerEm
  else .blank id (FontGlyph.gapName id) 0

theorem ofOutline_blank (library : FontLibrary) (id : GlyphId) (name : String) (advance : Nat) :
    FontGlyph.ofOutline library id name advance ([] : Outline α) =
      match library.obstacle? [] with
      | some obstacle => .error (obstacle.fault name)
      | none => .ok (.blank id name advance) := rfl

theorem fontGlyph_filler (hblank : library.obstacle? [] = none) (t : Roster α) (id : GlyphId) :
    t.fontGlyph library id none = .ok (t.filler id) := by
  unfold fontGlyph filler
  simp only [ofOutline_blank, hblank]
  split
  · rfl
  · rfl

theorem eq_filler_of_fontGlyph {g : FontGlyph} (h : t.fontGlyph library id none = .ok g) :
    g = t.filler id := by
  cases hblank : library.obstacle? [] with
  | none => exact Except.ok.inj (h.symm.trans (fontGlyph_filler hblank t id))
  | some obstacle =>
      unfold fontGlyph at h
      simp only [ofOutline_blank, hblank] at h
      split at h
      · cases h
      · cases h

theorem exists_fontGlyphs (hblank : library.obstacle? [] = none) (h : ∀ e ∈ t.entries,
    ∃ g, FontGlyph.ofOutline library e.id e.name e.advance e.outline = .ok g) :
    ∃ gs, t.fontGlyphs library = .ok gs := by
  rw [fontGlyphs, zipIdx_slots]
  refine exists_mapM_eq_ok fun slot hslot => ?_
  obtain ⟨id, -, rfl⟩ := List.mem_map.mp hslot
  cases hdrawn : t.drawn? id with
  | none => exact ⟨t.filler id, fontGlyph_filler hblank t id⟩
  | some e =>
      obtain ⟨hmem, rfl⟩ := drawn?_eq_some hdrawn
      exact h e hmem

theorem exists_fontGlyph {gs : List FontGlyph} (h : t.fontGlyphs library = .ok gs)
    (hid : id < t.glyphCount) :
    ∃ g, gs[id]? = some g ∧ t.fontGlyph library id (t.drawn? id) = .ok g := by
  have hat := congrArg (fun l => l[id]?) (fontGlyphs_eq_ok.mp h)
  simp only [List.getElem?_map, List.getElem?_range hid, Option.map_some] at hat
  obtain ⟨g, hg, hok⟩ := Option.map_eq_some_iff.mp hat
  exact ⟨g, hg, hok.symm⟩

/-- The glyph at the place of an entry's id is made of the entry, if no later one has the id. -/
theorem getElem?_fontGlyphs {gs : List FontGlyph} (h : t.fontGlyphs library = .ok gs) {e : Entry α}
    (hdrawn : t.drawn? e.id = some e) (hid : e.id < t.glyphCount) :
    ∃ g, gs[e.id]? = some g ∧
      FontGlyph.ofOutline library e.id e.name e.advance e.outline = .ok g := by
  obtain ⟨g, hg, hok⟩ := exists_fontGlyph h hid
  rw [hdrawn] at hok
  exact ⟨g, hg, hok⟩

/-! ## Fonts -/

theorem outcome_revision (n : Naming) : n.revision.outcome = .ok (n.revision?.getD 0) := by
  unfold Naming.revision
  cases n.revision? with
  | none => rfl
  | some revision => rfl

/-- The font is made of the roster. -/
structure Assembled (t : Roster α) (n : Naming) (library : FontLibrary) (font : Font) : Prop where
  no_fault : t.fault? = none
  glyphs : t.fontGlyphs library = .ok font.glyphs
  maps : CharacterMap.compile library.storageFault? t.mappings = .ok font.characterMaps
  extents : font.extents = .ofGlyphs font.glyphs
  averageAdvance : font.averageAdvance = t.averageAdvance
  firstChar : font.firstChar = t.codePoints.min?.getD 0
  lastChar : font.lastChar = t.codePoints.max?.getD 0
  names : font.names = n.records
  substitutions : font.substitutions =
    (Substitutions.compile t.ligatures t.alternates t.rules library.builders).1

theorem assembled_of_compileTables {font : Font}
    (h : (t.compileTables n library).outcome = .ok font) : t.Assembled n library font := by
  unfold compileTables at h
  cases hfault : t.fault? with
  | some fault =>
      rw [hfault] at h
      cases h
  | none =>
      rw [hfault] at h
      simp only [Report.bind_eq_ok, Report.outcome_liftM] at h
      obtain ⟨gs, hgs, maps, hmaps, revision, -, -, -, hfont⟩ := h
      cases hfont
      exact ⟨hfault, hgs, hmaps, rfl, rfl, rfl, rfl, rfl, rfl⟩

theorem assemble_eq_ok {font : Font} : (t.assemble n library).outcome = .ok font ↔
    (t.compileTables n library).outcome = .ok font ∧ library.flaw? font = none := by
  unfold assemble
  rw [Report.bind_eq_ok]
  constructor
  · rintro ⟨tables, htables, h⟩
    cases hflaw : library.flaw? tables with
    | some reason =>
        rw [hflaw] at h
        cases h
    | none =>
        rw [hflaw] at h
        cases h
        exact ⟨htables, hflaw⟩
  · rintro ⟨htables, hflaw⟩
    refine ⟨font, htables, ?_⟩
    rw [hflaw]
    rfl

theorem assembled_of_assemble {font : Font} (h : (t.assemble n library).outcome = .ok font) :
    t.Assembled n library font :=
  assembled_of_compileTables (assemble_eq_ok.mp h).1

/-- The library accepts the tables of the roster, if there are any. -/
def IsAccepted (t : Roster α) (n : Naming) (library : FontLibrary) : Prop :=
  ∀ font, (t.compileTables n library).outcome = .ok font → library.flaw? font = none

theorem exists_compileTables (hfault : t.fault? = none)
    (hglyphs : ∃ gs, t.fontGlyphs library = .ok gs)
    (hmaps : ∃ maps, CharacterMap.compile library.storageFault? t.mappings = .ok maps) :
    ∃ font, (t.compileTables n library).outcome = .ok font := by
  obtain ⟨gs, hgs⟩ := hglyphs
  obtain ⟨maps, hmaps⟩ := hmaps
  unfold compileTables
  rw [hfault]
  simp only [Report.bind_eq_ok, Report.outcome_liftM]
  exact ⟨_, gs, hgs, maps, hmaps, _, outcome_revision n, (), rfl, rfl⟩

theorem exists_assemble (hfault : t.fault? = none) (hglyphs : ∃ gs, t.fontGlyphs library = .ok gs)
    (hmaps : ∃ maps, CharacterMap.compile library.storageFault? t.mappings = .ok maps)
    (haccepted : t.IsAccepted n library) :
    ∃ font, (t.assemble n library).outcome = .ok font := by
  obtain ⟨font, hfont⟩ := exists_compileTables (n := n) hfault hglyphs hmaps
  exact ⟨font, assemble_eq_ok.mpr ⟨hfont, haccepted font hfont⟩⟩

end Roster

end Gridface
