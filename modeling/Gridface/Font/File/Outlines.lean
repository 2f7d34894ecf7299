import Gridface.Font
import Gridface.Font.File.Bytes

/-!
# Tables of outlines

The outlines of the glyphs, where each of them begins, and how far each glyph moves the pen.
-/

namespace Gridface.FontFile

/-- The index of the last point of each contour. -/
def lastPoints (before : Nat) : List (Contour Int) → List Nat
  | [] => []
  | c :: cs => (before + c.length - 1) :: lastPoints (before + c.length) cs

/-- The flag of a point on the outline of which both coordinates are given in full. -/
def onOutline : UInt8 := 0x01

/-- The corners of a box. -/
def corners (b : Box) : Bytes := [b.xMin, b.yMin, b.xMax, b.yMax].flatMap signedWord

/-- The outline of a glyph; one without points takes no room. -/
def outline (g : FontGlyph) : Bytes :=
  match g.box with
  | none => []
  | some box =>
    let points := g.contours.flatten
    aligned <|
      word g.contours.length ++ corners box ++ words (lastPoints 0 g.contours) ++ word 0 ++
        List.replicate points.length onOutline ++
        (stepsFrom 0 (points.map Prod.fst)).flatMap signedWord ++
        (stepsFrom 0 (points.map Prod.snd)).flatMap signedWord

/-- The outlines of all glyphs. -/
def glyf (f : Font) : Bytes := f.glyphs.flatMap outline

/-- Where the outline of each glyph begins, and where the last one ends. -/
def loca (f : Font) : Bytes := (offsets 0 (f.glyphs.map outline ++ [[]])).flatMap long

/-- The advance and the side bearing of each glyph. -/
def hmtx (f : Font) : Bytes := f.glyphs.flatMap fun g => word g.advance ++ signedWord g.sideBearing

end Gridface.FontFile
