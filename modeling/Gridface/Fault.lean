import Gridface.FileProblem
import Gridface.Text.Quoted

/-!
# Faults

The reasons a build stops, and the sentence that reports each of them.
-/

namespace Gridface

open Text

/-- What is wrong with an outline that cannot be drawn with straight contours. -/
inductive OutlineFlaw
  /-- The outline holds a cubic curve. -/
  | hasCubic
  /-- A line or a closing comes before the first move. -/
  | missingMove
  /-- The contours cannot be stored in a font. -/
  | refused (reason : String)
  deriving DecidableEq, Repr

/-- The name of the flaw, as it is reported. -/
def OutlineFlaw.label : OutlineFlaw → String
  | hasCubic => "HasCubic"
  | missingMove => "MissingMove"
  | refused reason => reason

/-- A reason to stop a build. -/
inductive Fault
  /-- A layer's pixels do not cover its grid. -/
  | malformedBitmap (layer : String) (expected actual : Nat)
  /-- A word has no pixels to make a cartouche form from. -/
  | missingGeometry (glyph : String)
  /-- A word's pixels do not fit in the cartouche frame. -/
  | frameOverflow (glyph : String) (width height : Nat) (x y : Int)
  /-- A substitution of `glyph` names a key that no glyph has. -/
  | unresolvedKey (glyph key : String)
  /-- Two glyphs ask for the same index. -/
  | duplicateIndex (index : Nat) (first second : String)
  /-- A glyph asks for index 0. -/
  | reservedIndex (glyph : String)
  /-- A glyph asks for an index above the largest glyph id. -/
  | indexOutOfRange (glyph : String) (index : Nat)
  /-- An annotation's code point is no Unicode character. -/
  | invalidCodePoint (glyph : String) (value : Nat)
  /-- One character is mapped to two glyphs. -/
  | codePointConflict (character : Char) (first second : Nat)
  /-- A glyph's outline cannot be turned into contours. -/
  | malformedOutline (glyph : String) (flaw : OutlineFlaw)
  /-- The tables of a font do not make a valid font. -/
  | invalidFont (reason : String)
  /-- A position leaves the 32-bit range. -/
  | positionOverflow
  /-- Two points that follow each other in a glyph are too far apart. -/
  | stepOverflow (glyph : String)
  /-- A glyph has more contours or points than its outline can count. -/
  | countOverflow (glyph : String)
  /-- A character comes too far before the glyph that shows it. -/
  | shiftOverflow (character : Char) (glyph : Nat)
  /-- A character map takes more octets than 16 bits count. -/
  | mapOverflow (size : Nat)
  /-- A glyph comes after the last one of the font. -/
  | idBeyondLast (glyph : String) (id : Nat)
  /-- The text at `path` is not what it should be. -/
  | unparsable (path : String)
  /-- The file at `path` could not be read or written. -/
  | file (path : String) (problem : FileProblem)
  deriving DecidableEq, Repr

/-- The sentence that reports the fault. -/
def Fault.message : Fault → String
  | malformedBitmap layer expected actual =>
    s!"layer '{layer}' has {actual} pixels, expected {expected}"
  | missingGeometry glyph => s!"glyph '{glyph}' has no pixel data to build a cartouche from"
  | frameOverflow glyph width height x y =>
    s!"glyph '{glyph}' ({width}x{height} at {x},{y}) does not fit in the cartouche frame"
  | unresolvedKey glyph key => s!"glyph '{glyph}' references unknown glyph key '{key}'"
  | duplicateIndex index first second =>
    s!"index {index} is claimed by both '{first}' and '{second}'"
  | reservedIndex glyph => s!"glyph '{glyph}' claims index 0, which is reserved for .notdef"
  | indexOutOfRange glyph index =>
    s!"glyph '{glyph}' has index {index}, which does not fit in a glyph id"
  | invalidCodePoint glyph value =>
    s!"glyph '{glyph}' has invalid code point 0x{hexUpper 4 value}"
  | codePointConflict character first second =>
    s!"Cannot map {quoted character} (U+{hexUpper 4 character.toNat}) " ++
      s!"to two different glyph ids: GID_{first} and GID_{second}"
  | malformedOutline glyph flaw => s!"outline of glyph '{glyph}' is malformed: {flaw.label}"
  | invalidFont reason => s!"font validation failed: {reason}"
  | positionOverflow => "a position leaves the 32-bit range"
  | stepOverflow glyph => s!"a step in the outline of glyph '{glyph}' leaves the 16-bit range"
  | countOverflow glyph => s!"the outline of glyph '{glyph}' has too many points"
  | shiftOverflow character glyph =>
    s!"the shift from U+{hexUpper 4 character.toNat} to GID_{glyph} leaves the 16-bit range"
  | mapOverflow size => s!"a character map of {size} octets leaves the 16-bit range"
  | idBeyondLast glyph id => s!"glyph '{glyph}' has id {id}, which is beyond the last glyph"
  | unparsable path => s!"failed to parse '{path}'"
  | file path problem => s!"error reading or writing '{path}': {problem.message}"

/-- Whether a number has left the range that it is kept in. -/
def Fault.isOverflow : Fault → Bool
  | positionOverflow => true
  | stepOverflow _ => true
  | countOverflow _ => true
  | shiftOverflow .. => true
  | mapOverflow _ => true
  | idBeyondLast .. => true
  | _ => false

end Gridface
