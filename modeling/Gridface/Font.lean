import Gridface.Outline.Contours
import Gridface.Substitution.Lookups

/-!
# Fonts

A compiled font: what its tables say, apart from how they are laid out in a file.
-/

namespace Gridface

/-- A rectangle in font units. -/
structure Box where
  xMin : Int
  yMin : Int
  xMax : Int
  yMax : Int
  deriving DecidableEq, Repr

namespace Box

/-- The least box around two boxes. -/
def union (a b : Box) : Box where
  xMin := min a.xMin b.xMin
  yMin := min a.yMin b.yMin
  xMax := max a.xMax b.xMax
  yMax := max a.yMax b.yMax

/-- The box of a single point. -/
def ofPoint (p : Int × Int) : Box := ⟨p.1, p.2, p.1, p.2⟩

/-- The least box around some points, if there are any. -/
def around? : List (Int × Int) → Option Box
  | [] => none
  | p :: ps => some (ps.foldl (fun box q => box.union (ofPoint q)) (ofPoint p))

/-- The box of a font without ink. -/
def zero : Box := ⟨0, 0, 0, 0⟩

end Box

/-- A glyph of a font. -/
structure FontGlyph where
  id : GlyphId
  name : String
  advance : Nat
  /-- The distance from the origin to the ink. -/
  sideBearing : Int
  /-- The least box around all points, if there are any. -/
  box : Option Box
  contours : List (Contour Int)
  deriving DecidableEq, Repr

namespace FontGlyph

/-- The name of the glyph that stands in for an id that no glyph has. -/
def gapName (id : GlyphId) : String := s!".gap{id}"

/-- Whether the glyph only stands in for an id that no glyph has. -/
def isGap (g : FontGlyph) : Bool :=
  g.name == gapName g.id && g.advance == 0 && g.sideBearing == 0 && g.contours.isEmpty

/-- The number of points of the glyph. -/
def pointCount (g : FontGlyph) : Nat := g.contours.flatten.length

end FontGlyph

/-- A name by which the font is known. -/
structure NameRecord where
  nameId : Nat
  text : String
  deriving DecidableEq, Repr

namespace NameRecord

/-- Names are given for Windows. -/
def platform : Nat := 3

/-- Names are in Unicode. -/
def encoding : Nat := 1

/-- Names are in English as of the United States. -/
def language : Nat := 0x409

end NameRecord

/-- A map from characters to glyphs, for one platform and encoding. -/
structure CharacterMap where
  platform : Nat
  encoding : Nat
  /-- The number of the layout; format 4 ends at U+FFFF, format 12 reaches every character. -/
  format : Nat
  /-- By ascending character. -/
  entries : List (Char × GlyphId)
  deriving DecidableEq, Repr

/-- Measures of the font as a whole. -/
structure Extents where
  /-- The least box around all ink, if there is any. -/
  box : Option Box := none
  advanceMax : Nat := 0
  minLeftBearing : Option Int := none
  minRightBearing : Option Int := none
  maxExtent : Option Int := none
  maxPoints : Nat := 0
  maxContours : Nat := 0
  deriving DecidableEq, Repr

/-- A compiled font. -/
structure Font where
  /-- The version as a number with 16 bits after the point. -/
  revision : Int
  unitsPerEm : Nat
  /-- The least readable size, in pixels. -/
  lowestSize : Nat
  ascender : Nat
  extents : Extents
  averageAdvance : Nat
  firstChar : Nat
  lastChar : Nat
  names : List NameRecord
  characterMaps : List CharacterMap
  /-- One glyph for each id from 0 on. -/
  glyphs : List FontGlyph
  substitutions : Option Substitutions
  deriving DecidableEq, Repr

namespace Font

/-- The tables that every font has, by their tags. -/
def commonTables : List String :=
  ["OS/2", "cmap", "glyf", "head", "hhea", "hmtx", "loca", "maxp", "name", "post"]

/-- The tags of the font's tables, in order. -/
def tables (f : Font) : List String :=
  if f.substitutions.isSome then "GSUB" :: commonTables else commonTables

/-- The number of glyphs. -/
def glyphCount (f : Font) : Nat := f.glyphs.length

/-- Lines are set without extra room below. -/
def descender : Int := 0

/-- Lines are set without extra room between them. -/
def lineGap : Int := 0

/-- The caret stands upright. -/
def caretSlopeRise : Int := 1

/-- The weight of regular type. -/
def weight : Nat := 400

/-- The width of regular type. -/
def width : Nat := 5

end Font

end Gridface
