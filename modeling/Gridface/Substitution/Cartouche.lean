import Gridface.Cartouche
import Gridface.Notice
import Gridface.Substitution

/-!
# Cartouche rules

Three rules put every word between an opener and a closer into its cartouche form:

1. a word after a form and before a word or the closer,
2. the opener before a word,
3. the closer after the form of a word.
-/

namespace Gridface

/-- A glyph's name with its id. -/
abbrev NamedId := String × GlyphId

/-- The id of the glyph with the given name, the last one if there are several. -/
def idNamed? (glyphs : List NamedId) (name : String) : Option GlyphId :=
  glyphs.reverse.lookup name

namespace CartoucheStyle

/-- The ids of the opener, its form and the closer. -/
structure FrameIds where
  opener : GlyphId
  openerForm : GlyphId
  closer : GlyphId
  deriving DecidableEq, Repr

/-- The ids that begin and end a cartouche, if the named glyphs and their forms all exist. -/
def frameIds? (s : CartoucheStyle) (glyphs : List NamedId) (opener closer : String) :
    Option FrameIds := do
  let openerId ← idNamed? glyphs opener
  let openerForm ← idNamed? glyphs (s.formName opener)
  let closerId ← idNamed? glyphs closer
  let _ ← idNamed? glyphs (s.formName closer)
  return { opener := openerId, openerForm, closer := closerId }

/-- Whether glyphs with the given name may stand between opener and closer. -/
def standsInside (s : CartoucheStyle) (opener closer name : String) : Bool :=
  ((s.afterPrefix? name).isSome || s.joiners.contains name) && !s.isFormName name &&
    name != opener && name != closer

/-- The ids of a word and of its form, if the word may stand inside and has a form. -/
def wordIds? (s : CartoucheStyle) (glyphs : List NamedId) (opener closer name : String) :
    Option (GlyphId × GlyphId) := do
  guard (s.standsInside opener closer name)
  let word ← idNamed? glyphs name
  let form ← idNamed? glyphs (s.formName name)
  return (word, form)

/-- The ids of all words that may stand inside and of their forms. -/
def words (s : CartoucheStyle) (glyphs : List NamedId) (opener closer : String) :
    List (GlyphId × GlyphId) :=
  glyphs.filterMap fun g => s.wordIds? glyphs opener closer g.1

/-- The three rules for the given words with their forms; without words there are none. -/
def rulesFor (frame : FrameIds) (words : List (GlyphId × GlyphId)) : List ContextRule :=
  let inputs := GlyphSet.ofList (words.map Prod.fst)
  let forms := GlyphSet.ofList (words.map Prod.snd)
  if words.isEmpty then []
  else [
    { backtrack := [forms.insert frame.openerForm]
      input := inputs
      lookahead := [inputs.insert frame.closer] },
    { backtrack := [], input := GlyphSet.ofList [frame.opener], lookahead := [inputs] },
    { backtrack := [forms], input := GlyphSet.ofList [frame.closer], lookahead := [] }]

/-- The contextual rules for the given glyphs, with the notice given if there can be none. -/
def rules (s : CartoucheStyle) (glyphs : List NamedId) : List ContextRule × List Notice :=
  match s.opener, s.closer with
  | some opener, some closer =>
    match s.frameIds? glyphs opener closer with
    | some frame => (rulesFor frame (s.words glyphs opener closer), [])
    | none => ([], [.missingFrameGlyphs opener closer])
  | _, _ => ([], [])

end CartoucheStyle

end Gridface
