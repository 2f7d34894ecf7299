import Gridface.Cartouche.Frame
import Gridface.Report

/-!
# Synthesis of cartouche forms

Every word gets a cartouche form: a glyph that is an alternate for the word and shows it in the
frame. A word with a role keeps its pixels dark; any other is cut out of a solid block.
-/

namespace Gridface

namespace CartoucheStyle

/-- Whether the glyph is a word. -/
def isWord (s : CartoucheStyle) (g : Glyph) : Bool := (s.word? g.name).isSome

/-- Whether a form is made for the glyph: it is a word and not drawn as a form already. -/
def wantsForm (s : CartoucheStyle) (g : Glyph) : Bool := s.isWord g && g.role != some .inside

/-- The ligatures of the glyph: a word without any is spelled out. -/
def ligaturesOf (s : CartoucheStyle) (g : Glyph) : Option (List String) :=
  g.ligatures <|> (s.word? g.name).map ([·])

/-- The glyph with its ligatures. -/
def spelled (s : CartoucheStyle) (g : Glyph) : Glyph := { g with ligatures := s.ligaturesOf g }

/-- The cartouche form of a glyph. -/
def form (s : CartoucheStyle) (g : Glyph) : Except Fault Glyph := do
  let some bitmap := g.bitmap | throw (.missingGeometry g.name)
  let framed ← bitmap.frame g.name g.role
  let name := s.formName g.name
  return {
    key := name
    name
    bitmap := some (if g.role.isNone then framed.inverted else framed)
    alternate := some g.name
    zeroAdvance := g.zeroAdvance
    role := some .inside
  }

end CartoucheStyle

namespace Repertoire

/-- The forms of the words, in order. -/
def forms (s : CartoucheStyle) (r : Repertoire) : Except Fault (List Glyph) :=
  (r.glyphs.filter s.wantsForm).mapM s.form

/-- Adds a form, with a notice if it takes the place of a glyph. -/
def addForm (r : Repertoire) (form : Glyph) : Report Repertoire := do
  if r.contains form.key then Report.note (.formReplaces form.key)
  return r.insert form

/-- The repertoire with the ligatures of words spelled out and the forms of words added. -/
def synthesize (s : CartoucheStyle) (r : Repertoire) : Report Repertoire := do
  let forms ← r.forms s
  forms.foldlM addForm (r.mapGlyphs s.spelled fun _ => rfl)

end Repertoire

end Gridface
