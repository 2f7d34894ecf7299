import Gridface.Font.Library
import Gridface.Font.Naming
import Gridface.Roster

/-!
# Assembling a font

A roster becomes a font with one glyph for each id up to the greatest: the glyph that has the id, or
else a glyph without ink that stands in for it. The font library has to store all of it, and to
accept the font in the end.
-/

namespace Gridface

variable {α : Type} [Coordinate α]

/-! ## Glyphs -/

/-- The glyph with the given outline. -/
def FontGlyph.ofOutline (library : FontLibrary) (id : GlyphId) (name : String) (advance : Nat)
    (outline : Outline α) : Except Fault FontGlyph :=
  match outline.contours with
  | .error flaw => .error (.malformedOutline name flaw)
  | .ok contours =>
    let contours := contours.map Contour.rounded
    let box := Box.around? contours.flatten
    match library.obstacle? contours with
    | some obstacle => .error (obstacle.fault name)
    | none => .ok { id, name, advance, sideBearing := (box.map Box.xMin).getD 0, box, contours }

namespace Roster

/-- The first entry with an id beyond the last one, or one too great for 16 bits to count. -/
def fault? (r : Roster α) : Option Fault :=
  let count := min r.glyphCount greatestCount
  (r.entries.find? fun e => count ≤ e.id).map fun e => .idBeyondLast e.name e.id

/-- The entry of each id up to the last; of two entries with one id the later one counts. -/
def slots (r : Roster α) : Array (Option (Entry α)) :=
  r.entries.foldl (fun slots e => slots.setIfInBounds e.id (some e))
    (Array.replicate r.glyphCount none)

/-- The name of the glyph for what has no glyph. -/
def notdefName : String := ".notdef"

/-- The glyph for an id, from its entry if it has one. -/
def fontGlyph (r : Roster α) (library : FontLibrary) (id : GlyphId) (slot : Option (Entry α)) :
    Except Fault FontGlyph :=
  let blank : Outline α := []
  match slot with
  | some e => FontGlyph.ofOutline library id e.name e.advance e.outline
  | none =>
    if id = GlyphId.notdef then
      FontGlyph.ofOutline library id notdefName r.metrics.unitsPerEm blank
    else FontGlyph.ofOutline library id (FontGlyph.gapName id) 0 blank

/-- The glyphs of the font, in the order of their ids. -/
def fontGlyphs (r : Roster α) (library : FontLibrary) : Except Fault (List FontGlyph) :=
  r.slots.toList.zipIdx.mapM fun slot => r.fontGlyph library slot.2 slot.1

/-! ## Measures -/

/-- The mappings of the entries with a code point. -/
def mappings (r : Roster α) : List CharacterMap.Mapping :=
  r.entries.filterMap fun e => e.codePoint.map (·, e.id)

/-- The mean advance of the glyphs that move the pen, with one em added to them. -/
def averageAdvance (r : Roster α) : Nat :=
  let advances := (r.entries.map Entry.advance).filter (0 < ·) ++ [r.metrics.unitsPerEm]
  min (advances.foldl (· + ·) 0 / advances.length) greatestUnit.toNat

/-- The code points that are mapped, as far as 16 bits reach. -/
def codePoints (r : Roster α) : List Nat :=
  r.entries.filterMap fun e => e.codePoint.map fun c => min c.toNat greatestCount

end Roster

/-- The least of a value and perhaps another. -/
def leastOf (v : Int) (w : Option Int) : Int := w.elim v (min v)

/-- The greatest of a value and perhaps another. -/
def greatestOf (v : Int) (w : Option Int) : Int := w.elim v (max v)

/-- The measures with one more glyph taken into account. -/
def Extents.add (e : Extents) (g : FontGlyph) : Extents :=
  let e := { e with advanceMax := max e.advanceMax g.advance }
  match g.box with
  | none => e
  | some box =>
    { e with
      box := some (e.box.elim box (Box.union · box))
      minLeftBearing := some (leastOf box.xMin e.minLeftBearing)
      minRightBearing := some (leastOf (clampUnit (g.advance - box.xMax)) e.minRightBearing)
      maxExtent := some (greatestOf box.xMax e.maxExtent)
      maxPoints := max e.maxPoints (min g.pointCount greatestCount)
      maxContours := max e.maxContours (min g.contours.length greatestCount) }

/-- The measures of the given glyphs. -/
def Extents.ofGlyphs (glyphs : List FontGlyph) : Extents := glyphs.foldl Extents.add {}

/-! ## Fonts -/

/-- The version of a font as a number; one that is no number counts as zero. -/
def Naming.revision (n : Naming) : Report Int :=
  match n.revision? with
  | some revision => return revision
  | none => do
    Report.note (.unreadableVersion n.version)
    return 0

/-- What the tables of the font of a roster are to say. -/
def Roster.compileTables (r : Roster α) (n : Naming) (library : FontLibrary) : Report Font := do
  if let some fault := r.fault? then Report.fail fault
  let glyphs ← r.fontGlyphs library
  let characterMaps ← CharacterMap.compile library.storageFault? r.mappings
  let revision ← n.revision
  let (substitutions, notices) :=
    Substitutions.compile r.ligatures r.alternates r.rules library.builders
  Report.noteAll notices
  return {
    revision
    unitsPerEm := r.metrics.unitsPerEm
    lowestSize := r.metrics.pixelsPerEm
    ascender := min r.metrics.unitsPerEm greatestUnit.toNat
    extents := .ofGlyphs glyphs
    averageAdvance := r.averageAdvance
    firstChar := r.codePoints.min?.getD 0
    lastChar := r.codePoints.max?.getD 0
    names := n.records
    characterMaps
    glyphs
    substitutions
  }

/-- The font of a roster, if the library accepts its tables. -/
def Roster.assemble (r : Roster α) (n : Naming) (library : FontLibrary := .standard) :
    Report Font := do
  let font ← r.compileTables n library
  match library.flaw? font with
  | some reason => Report.fail (.invalidFont reason)
  | none => return font

end Gridface
