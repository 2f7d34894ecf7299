import Gridface.Plan
import Gridface.Toml.Reader

/-!
# Reading plans

A plan is a TOML document. Family, style and version are required; every other field has a default.
-/

namespace Gridface

/-- The greatest 16-bit number without a sign is the limit of font measures. -/
def measure? : Toml → Option Nat := Toml.nat? greatestCount

/-- The metrics that a value describes. -/
def Metrics.ofToml? (v : Toml) : Option Metrics := do
  let [unitsPerEm, pixelsPerEm, flipAxis] ←
    v.fields? ["units_per_em", "pixels_per_em", "flip_axis"] 0 | none
  let d : Metrics := {}
  return {
    unitsPerEm := ← Toml.orElse? d.unitsPerEm measure? unitsPerEm
    pixelsPerEm := ← Toml.orElse? d.pixelsPerEm measure? pixelsPerEm
    flipAxis := ← Toml.orElse? d.flipAxis (Toml.int? Position.least Position.greatest) flipAxis
  }

/-- The cartouche style that a value describes. -/
def CartoucheStyle.ofToml? (v : Toml) : Option CartoucheStyle := do
  let [wordPrefix, suffix, opener, closer, joiners] ←
    v.fields? ["word_prefix", "suffix", "start", "end", "joiners"] 0 | none
  let d : CartoucheStyle := {}
  return {
    wordPrefix := ← Toml.orElse? d.wordPrefix Toml.text? wordPrefix
    suffix := ← Toml.orElse? d.suffix Toml.text? suffix
    opener := ← Toml.optional? Toml.text? opener
    closer := ← Toml.optional? Toml.text? closer
    joiners := ← Toml.orElse? [] (Toml.list? Toml.text?) joiners
  }

/-- The source that a value describes. -/
def SheetSource.ofToml? (v : Toml) : Option SheetSource := do
  let [path, keyPrefix, autoCodePoint] ← v.fields? ["path", "prefix", "auto_code_point"] 1 | none
  return {
    path := ← (← path).text?
    options := {
      keyPrefix := ← Toml.optional? Toml.text? keyPrefix
      autoCodePoint := ← Toml.orElse? false Toml.bool? autoCodePoint
    }
  }

/-- The policies by the words that plans use for them. -/
def UnknownKeyPolicy.named : List (String × UnknownKeyPolicy) := [("warn", warn), ("error", refuse)]

/-- The policy that a table of options describes. -/
def UnknownKeyPolicy.ofToml? (v : Toml) : Option UnknownKeyPolicy := do
  let [unresolved] ← v.fields? ["unresolved"] 0 | none
  Toml.orElse? .warn (Toml.choice? named) unresolved

/-- The command that a value describes. -/
def Command.ofToml? (v : Toml) : Option Command := do
  let [program, arguments] ← v.fields? ["program", "args"] 1 | none
  return {
    program := ← (← program).text?
    arguments := ← Toml.orElse? [] (Toml.list? Toml.text?) arguments
  }

namespace Plan

/-- The plan that a value describes, with its paths as they are written. -/
def ofToml? (v : Toml) : Option Plan := do
  let [family, style, version, designer, annotations, outputDir, metrics, sheets, cartouche,
      substitutions, command] ←
    v.fields? ["family", "style", "version", "designer", "metadata", "output_dir", "metrics",
      "sheets", "cartouche", "substitutions", "postprocess"] 3 | none
  return {
    naming := {
      family := ← (← family).text?
      style := ← (← style).text?
      version := ← (← version).text?
      designer := ← Toml.optional? Toml.text? designer
    }
    annotations := ← Toml.optional? Toml.text? annotations
    outputDir := ← Toml.orElse? "dist" Toml.text? outputDir
    metrics := ← Toml.orElse? {} Metrics.ofToml? metrics
    sheets := ← Toml.orElse? [] (Toml.list? SheetSource.ofToml?) sheets
    style := ← Toml.orElse? {} CartoucheStyle.ofToml? cartouche
    policy := ← Toml.orElse? .warn UnknownKeyPolicy.ofToml? substitutions
    command := ← Toml.optional? Command.ofToml? command
  }

/-- The plan that a text describes; paths in it are seen from the directory of `path`, where the
text is from. -/
def ofText (path text : String) : Except Fault Plan :=
  match (Toml.ofText? text).bind Plan.ofToml? with
  | some plan => .ok (plan.resolved ((Path.parent? path).getD ""))
  | none => .error (.unparsable path)

end Plan

end Gridface
