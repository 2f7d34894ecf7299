import Gridface.Font
import Gridface.Text.Blank
import Gridface.Text.Decimal
import Gridface.Text.Parts

/-!
# Naming a font

The names of a font, and its version as a number.
-/

namespace Gridface

open Text

/-- What a font is called. -/
structure Naming where
  family : String
  style : String
  /-- Numbers with points between them. -/
  version : String
  designer : Option String := none
  deriving DecidableEq, Repr, Inhabited

namespace Naming

/-- The family and the style. -/
def fullName (n : Naming) : String := s!"{n.family} {n.style}"

/-- The family and the style without white space, joined by a hyphen. -/
def postScriptName (n : Naming) : String := withoutBlank n.family ++ "-" ++ withoutBlank n.style

/-- The names of the font by ascending name id. -/
def records (n : Naming) : List NameRecord :=
  [ { nameId := 1, text := n.family },
    { nameId := 2, text := n.style },
    { nameId := 3, text := s!"{n.version};{n.postScriptName}" },
    { nameId := 4, text := n.fullName },
    { nameId := 5, text := s!"Version {n.version}" },
    { nameId := 6, text := n.postScriptName } ] ++
    (n.designer.map fun designer => { nameId := 9, text := designer }).toList

/-- The first two parts of the version, with a point between them. -/
def versionText (n : Naming) : List Char :=
  match (splitAt '.' n.version.toList).map trimBlank with
  | major :: minor :: _ => major ++ '.' :: minor
  | [major] => major ++ ['.', '0']
  | [] => ['0', '.', '0']

/-- The number with 16 bits after the point that is nearest to `v`; halves go away from zero, and
what is too large becomes the largest. -/
def fixedPoint (v : Float) : Int :=
  let half := if v.toBits >>> 63 == 0 then 0.5 else -0.5
  (v * 65536.0 + half).toInt32.toInt

/-- The version as a number with 16 bits after the point, if it is one. -/
def revision? (n : Naming) : Option Int :=
  (Decimal.ofChars? n.versionText).map fun d => fixedPoint d.toFloat

end Naming

end Gridface
