import Gridface.Font.File.Headers
import Gridface.Font.File.Substitutions

/-!
# Limits of a font file

Most lengths and offsets in a font file have 8 or 16 bits. A font that needs greater ones cannot be
written.
-/

namespace Gridface.FontFile

/-- The greatest length of 8 bits. -/
def greatestByte : Nat := 255

/-- Whether a part behind a head of the given size begins farther away than 16 bits reach. -/
def isFar (headSize : Nat) (parts : List Bytes) : Bool :=
  (offsets headSize parts).any (greatestCount < ·)

/-- Whether the name of a glyph is too long. -/
def hasLongGlyphName (glyphs : List FontGlyph) : Bool :=
  glyphs.any fun g => greatestByte < g.name.utf8ByteSize

/-- Whether names are too long, one of them or all together. -/
def hasLongNames (names : List NameRecord) : Bool :=
  isFar 0 (texts names) || (texts names).any fun text => greatestCount < text.length

/-- Whether too many ligatures of a lookup begin with the same glyph. -/
def hasFarLigatures : Lookup → Bool
  | .ligatures items => (ligatureSets items).any fun set =>
    isFar (2 + 2 * set.2.length) (set.2.map ligature)
  | _ => false

/-- The reason why the font cannot be written, if there is one. -/
def flaw? (f : Font) : Option String :=
  if hasLongGlyphName f.glyphs then some "a glyph name is longer than 255 bytes"
  else if hasLongNames f.names then some "the names do not fit in the 'name' table"
  else if f.substitutions.any fun s => s.lookups.any hasFarLigatures then
    some "the ligatures do not fit in the 'GSUB' table"
  else none

end Gridface.FontFile
