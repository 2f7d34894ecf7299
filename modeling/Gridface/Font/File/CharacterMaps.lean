import Gridface.Font.CharacterMap
import Gridface.Font.File.Bytes

/-!
# The table of character maps

A table of format 4 lists segments. In format 12, characters that follow each other and are shown by
glyphs that follow each other make one run.
-/

namespace Gridface.FontFile

/-- A run of characters and the glyphs that show them. -/
structure CharacterRun where
  first : Nat
  last : Nat
  glyph : GlyphId
  deriving DecidableEq, Repr

/-- The runs of mappings by ascending character, those before in reverse. -/
def runsFrom (before : List CharacterRun) : List (Char × GlyphId) → List CharacterRun
  | [] => before.reverse
  | (c, glyph) :: rest =>
    let single : CharacterRun := ⟨c.toNat, c.toNat, glyph⟩
    match before with
    | run :: runs =>
      if run.last + 1 = c.toNat ∧ run.glyph + (c.toNat - run.first) = glyph then
        runsFrom ({ run with last := c.toNat } :: runs) rest
      else runsFrom (single :: run :: runs) rest
    | [] => runsFrom [single] rest

/-- What is added to each character of the segment; one that lists its glyphs adds nothing. -/
def segmentShift (s : CharacterMap.Segment) : Int :=
  if s = CharacterMap.lastSegment then 1 else s.shift?.getD 0

/-- The glyphs that a segment lists. -/
def listedGlyphs (s : CharacterMap.Segment) : List GlyphId := if s.isRun then [] else s.glyphs

/-- How far it is from the place of each of these offsets to the glyphs that its segment lists, if
`before` glyphs are listed by the segments before; zero for those that list none. -/
def listOffsets (before : Nat) : List CharacterMap.Segment → List Nat
  | [] => []
  | s :: rest =>
    (if s.isRun then 0 else 2 * (rest.length + 1 + before)) ::
      listOffsets (before + (listedGlyphs s).length) rest

/-- A map in format 4. -/
def narrowMap (m : CharacterMap) : Bytes :=
  let listing := CharacterMap.segments m.entries
  let segments := listing ++ [CharacterMap.lastSegment]
  let count := segments.length
  words ([4, CharacterMap.size listing, 0, 2 * count] ++ searchGuide count 2) ++
    words (segments.map fun s => s.last.1.toNat) ++ word 0 ++
    words (segments.map fun s => s.first.1.toNat) ++
    segments.flatMap (fun s => signedWord (segmentShift s)) ++ words (listOffsets 0 segments) ++
    words (segments.flatMap listedGlyphs)

/-- A map in format 12. -/
def wideMap (m : CharacterMap) : Bytes :=
  let runs := runsFrom [] m.entries
  words [12, 0] ++ long (16 + 12 * runs.length) ++ long 0 ++ long runs.length ++
    runs.flatMap fun r => long r.first ++ long r.last ++ long r.glyph

/-- The table of character maps. -/
def cmap (f : Font) : Bytes :=
  let maps := f.characterMaps.map fun m => if m.format = 4 then narrowMap m else wideMap m
  block (4 + 8 * maps.length) maps fun starts =>
    words [0, maps.length] ++
      (f.characterMaps.zip starts).flatMap fun (m, start) =>
        words [m.platform, m.encoding] ++ long start

end Gridface.FontFile
