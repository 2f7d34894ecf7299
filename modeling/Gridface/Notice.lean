import Gridface.Numbering

/-!
# Notices

What a build reports without stopping.
-/

namespace Gridface

/-- How much a notice matters. -/
inductive Severity
  | info
  | warning
  | error
  deriving DecidableEq, Repr

/-- Something that a build reports without stopping. -/
inductive Notice
  /-- A ligature of `glyph` replaces the empty text. -/
  | emptyLigature (glyph : String)
  /-- A substitution of `glyph` names a key that no glyph has. -/
  | unknownReference (glyph key : String)
  /-- A cartouche form takes the place of another glyph. -/
  | formReplaces (key : String)
  /-- The glyphs that open and close cartouches, or their forms, do not exist. -/
  | missingFrameGlyphs (opener closer : String)
  /-- The sequence is replaced by another glyph already. -/
  | repeatedLigature (sequence : List GlyphId) (replacement : GlyphId)
  /-- The glyph has another alternate already. -/
  | severalAlternates (source replacement : GlyphId)
  /-- There are contextual rules, but no alternates. -/
  | idleRules
  /-- The version is not a number. -/
  | unreadableVersion (version : String)
  /-- So many references name keys that no glyph has. -/
  | unknownReferences (count : Nat)
  /-- A command is about to run over the font. -/
  | runningCommand (artifact program : String)
  /-- A line that a command wrote. -/
  | commandOutput (program line : String)
  /-- A line that a command wrote about its errors. -/
  | commandComplaint (program line : String)
  /-- The command did not succeed. -/
  | commandFailed (message : String)
  deriving DecidableEq, Repr

namespace Notice

/-- How much the notice matters. -/
def severity : Notice → Severity
  | runningCommand .. => .info
  | commandOutput .. => .info
  | commandFailed .. => .error
  | _ => .warning

/-- A glyph id inside a list. -/
def listedId (id : GlyphId) : String := s!"GlyphId16({id})"

/-- A list of glyph ids. -/
def listedIds (ids : List GlyphId) : String :=
  "[" ++ ", ".intercalate (ids.map listedId) ++ "]"

/-- The sentence that reports the notice. -/
def text : Notice → String
  | emptyLigature glyph => s!"ignoring empty ligature for '{glyph}'"
  | unknownReference glyph key => s!"'{glyph}' references unknown glyph '{key}', using .notdef"
  | formReplaces key => s!"synthesized cartouche replaces existing glyph '{key}'"
  | missingFrameGlyphs opener closer =>
    s!"cartouche glyphs '{opener}' or '{closer}' are missing, skipping contextual rules"
  | repeatedLigature sequence replacement =>
    s!"ligature {listedIds sequence} already has a glyph, ignoring GID_{replacement}"
  | severalAlternates source replacement =>
    s!"glyph GID_{source} has several alternates, using GID_{replacement}"
  | idleRules => "no alternates for contextual rules to apply, skipping 'calt'"
  | unreadableVersion version => s!"cannot parse version '{version}', using 0.0"
  | unknownReferences count => s!"{count} substitution keys could not be resolved"
  | runningCommand artifact program => s!"post-processing '{artifact}' with {program}"
  | commandOutput program line => s!"{program}: {line}"
  | commandComplaint program line => s!"{program}: {line}"
  | commandFailed message => message

end Notice

end Gridface
