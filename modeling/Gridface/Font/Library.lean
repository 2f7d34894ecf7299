import Gridface.Font.CharacterMap
import Gridface.Font.File.Limits

/-!
# Font libraries

The tables of a font are stored by a font library, which may not be able to store all of them. What
it does is a parameter of the assembly of a font.
-/

namespace Gridface

/-- What keeps a font library from storing the contours of a glyph. -/
inductive Obstacle
  /-- The library refuses the contours, and says why. -/
  | refused (reason : String)
  /-- The step from a point to the next is too long. -/
  | longStep
  /-- There are too many contours or points. -/
  | tooMany
  deriving DecidableEq, Repr

/-- The fault of a glyph of which the contours cannot be stored. -/
def Obstacle.fault (glyph : String) : Obstacle → Fault
  | refused reason => .malformedOutline glyph (.refused reason)
  | longStep => .stepOverflow glyph
  | tooMany => .countOverflow glyph

/-- A font library. -/
structure FontLibrary where
  /-- What collects the records of lookups. -/
  builders : Builders
  /-- What keeps it from storing some contours. -/
  obstacle? : List (Contour Int) → Option Obstacle
  /-- What keeps it from storing the given mappings, if no character is mapped to two glyphs. -/
  storageFault? : List CharacterMap.Mapping → Option Fault
  /-- Why the tables of a font are not accepted, or cannot be read back. -/
  flaw? : Font → Option String

/-! ## The standard library -/

/-- Whether a step is a number of 16 bits. -/
def isShortStep (step : Int) : Bool := leastUnit ≤ step && step ≤ greatestUnit

/-- Whether all steps through some points, which begin at the origin, are short. -/
def hasShortSteps (points : List (Int × Int)) : Bool :=
  (stepsFrom 0 (points.map Prod.fst)).all isShortStep &&
    (stepsFrom 0 (points.map Prod.snd)).all isShortStep

/-- Whether contours can be counted with a sign and their points without one, in 16 bits. -/
def isCountable (contours : List (Contour Int)) : Bool :=
  contours.length < greatestUnit.toNat && contours.flatten.length ≤ greatestCount

/-- Counts and steps have 16 bits. -/
def Obstacle.ofContours? (contours : List (Contour Int)) : Option Obstacle :=
  if !isCountable contours then some .tooMany
  else if !hasShortSteps contours.flatten then some .longStep
  else none

/-- The library that is used where no other is named. -/
def FontLibrary.standard : FontLibrary where
  builders := .standard
  obstacle? := Obstacle.ofContours?
  storageFault? := CharacterMap.storageFault?
  flaw? := FontFile.flaw?

end Gridface
