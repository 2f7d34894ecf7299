import Gridface.Font
import Gridface.Font.File.Bytes

/-!
# Tables about the font as a whole

Measures, counts and names.
-/

namespace Gridface.FontFile

/-- The value of a measure that may be missing. -/
def measure (v : Option Int) : Bytes := signedWord (v.getD 0)

/-- General measures; offsets of outlines have 32 bits. The sum of the whole file is filled in
later. -/
def head (f : Font) (adjustment : Nat) : Bytes :=
  let box := f.extents.box.getD Box.zero
  long 0x00010000 ++ signedLong f.revision ++ long adjustment ++ long 0x5F0F3CF5 ++ word 0 ++
    word f.unitsPerEm ++ zeros 16 ++ [box.xMin, box.yMin, box.xMax, box.yMax].flatMap signedWord ++
    words [0, f.lowestSize, 2, 1, 0]

/-- Measures of lines. -/
def hhea (f : Font) : Bytes :=
  let e := f.extents
  long 0x00010000 ++ word f.ascender ++ signedWord Font.descender ++ signedWord Font.lineGap ++
    word e.advanceMax ++ measure e.minLeftBearing ++ measure e.minRightBearing ++
    measure e.maxExtent ++ signedWord Font.caretSlopeRise ++ zeros 14 ++ word f.glyphCount

/-- Counts. -/
def maxp (f : Font) : Bytes :=
  long 0x00010000 ++
    words ([f.glyphCount, f.extents.maxPoints, f.extents.maxContours, 0, 0, 1] ++
      List.replicate 8 0)

/-- Measures for setting lines of text, and the range of characters. -/
def os2 (f : Font) : Bytes :=
  words [4, f.averageAdvance, Font.weight, Font.width, 0] ++ zeros 22 ++ zeros 10 ++ zeros 16 ++
    tag "    " ++ words [0, f.firstChar, f.lastChar, f.ascender] ++ signedWord Font.descender ++
    signedWord Font.lineGap ++ word f.unitsPerEm ++ signedWord Font.descender ++ zeros 18

/-- The number of glyph names that need not be spelled out. -/
def knownNames : Nat := 258

/-- The names of the glyphs, each spelled out after its length. -/
def post (f : Font) : Bytes :=
  let name (g : FontGlyph) : Bytes :=
    let bytes := g.name.toUTF8.toList
    byte bytes.length ++ bytes
  long 0x00020000 ++ zeros 28 ++ counted ((List.range f.glyphCount).map (knownNames + ·)) ++
    f.glyphs.flatMap name

/-- A character in 16-bit units; one beyond them takes two. -/
def units (c : Char) : List Nat :=
  if c.toNat < 0x10000 then [c.toNat]
  else [0xD800 + (c.toNat - 0x10000) / 0x400, 0xDC00 + (c.toNat - 0x10000) % 0x400]

/-- The texts of names. -/
def texts (names : List NameRecord) : List Bytes :=
  names.map fun n => words (n.text.toList.flatMap units)

/-- The names of the font. -/
def name (f : Font) : Bytes :=
  let texts := texts f.names
  let records := (f.names.zip (texts.zip (offsets 0 texts))).flatMap fun (n, text, offset) =>
    words [NameRecord.platform, NameRecord.encoding, NameRecord.language, n.nameId, text.length,
      offset]
  words [0, f.names.length, 6 + records.length] ++ records ++ texts.flatten

end Gridface.FontFile
