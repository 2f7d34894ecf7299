import Gridface.Glyph

/-!
# Cartouches

The names by which words and their cartouche forms are known.
-/

namespace Gridface

/-- How words and their cartouche forms are named, and what may stand in a cartouche. -/
structure CartoucheStyle where
  /-- A glyph whose name begins so is a word. -/
  wordPrefix : String := "tp."
  /-- Follows a word's name in the name of its form. -/
  suffix : String := ".cart"
  /-- The name of the glyph that opens a cartouche. -/
  opener : Option String := none
  /-- The name of the glyph that closes a cartouche. -/
  closer : Option String := none
  /-- The names of other glyphs that may stand in a cartouche. -/
  joiners : List String := []
  deriving DecidableEq, Repr, Inhabited

namespace CartoucheStyle

/-- The name of the cartouche form of the glyph with the given name. -/
def formName (s : CartoucheStyle) (name : String) : String := name ++ s.suffix

/-- Whether the name is that of a cartouche form. -/
def isFormName (s : CartoucheStyle) (name : String) : Bool :=
  s.suffix.toList.isSuffixOf name.toList

/-- What follows the word prefix in a name that begins with it. -/
def afterPrefix? (s : CartoucheStyle) (name : String) : Option String :=
  if s.wordPrefix.toList.isPrefixOf name.toList then
    some (String.ofList (name.toList.drop s.wordPrefix.toList.length))
  else none

/-- The word that a name spells, unless it is the name of a form. -/
def word? (s : CartoucheStyle) (name : String) : Option String :=
  if s.isFormName name then none else s.afterPrefix? name

end CartoucheStyle

end Gridface
