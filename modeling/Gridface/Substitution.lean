import Gridface.GlyphSet

/-!
# Substitutions

The three kinds of substitution that a font can ask for, over glyph ids.
-/

namespace Gridface

/-- Replaces a sequence of glyphs by one glyph. -/
structure Ligature where
  sequence : List GlyphId
  replacement : GlyphId
  deriving DecidableEq, Repr, Inhabited

/-- Replaces a glyph by another form of it. -/
structure Alternate where
  source : GlyphId
  replacement : GlyphId
  deriving DecidableEq, Repr, Inhabited

/-- Replaces a glyph by its alternate between certain neighbours. -/
structure ContextRule where
  /-- What comes before, the closest position first. -/
  backtrack : List GlyphSet
  input : GlyphSet
  /-- What comes after, the closest position first. -/
  lookahead : List GlyphSet
  deriving DecidableEq, Repr, Inhabited

end Gridface
