import Gridface.Bitmap

/-!
# Glyphs

What is known about a glyph before it is compiled. The key is its identity: ligatures and alternates
refer to glyphs by key. The name is what ends up in the font.
-/

namespace Gridface

/-- How a word behaves inside a cartouche. -/
inductive Role
  /-- Opens a cartouche: rows are filled from the first set pixel on. -/
  | opening
  /-- Is a cartouche form already. -/
  | inside
  /-- Closes a cartouche: rows are filled up to the first set pixel. -/
  | closing
  deriving DecidableEq, Repr

namespace Role

/-- The roles by the words that annotations use for them. -/
def named : List (String × Role) :=
  [("open", opening), ("inside", inside), ("close", closing)]

/-- The word for a role. -/
def word : Role → String
  | opening => "open"
  | inside => "inside"
  | closing => "close"

end Role

/-- Everything known about one glyph. -/
structure Glyph where
  key : String
  name : String
  /-- The pixels, if any sheet has drawn them. -/
  bitmap : Option Bitmap := none
  /-- The character that is shown by this glyph. -/
  codePoint : Option Char := none
  /-- The glyph id that is asked for. -/
  index : Option Nat := none
  /-- The texts this glyph replaces; each of their characters is the key of a glyph. -/
  ligatures : Option (List String) := none
  /-- The key of the glyph that this one is an alternate for. -/
  alternate : Option String := none
  /-- The glyph does not move the pen. -/
  zeroAdvance : Bool := false
  role : Option Role := none
  deriving DecidableEq, Repr

/-- The glyph of which only the key is known, which is also its name. -/
def Glyph.ofKey (key : String) : Glyph := { key, name := key }

end Gridface
