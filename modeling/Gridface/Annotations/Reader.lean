import Gridface.Annotations
import Gridface.Toml.Reader

/-!
# Reading annotations

A document of annotations has one table, `glyphs`, with a record of overrides for each key.
-/

namespace Gridface

/-- The greatest 32-bit number without a sign. -/
def greatestWord : Nat := 4294967295

/-- The fields of a record of overrides. -/
def Overrides.fields : List String :=
  ["name", "index", "code_point", "ligatures", "alternate", "zero_advance", "cartouche"]

/-- The overrides that a value describes. -/
def Overrides.ofToml? (v : Toml) : Option Overrides := do
  let [name, index, codePoint, ligatures, alternate, zeroAdvance, role] ←
    v.fields? Overrides.fields Overrides.fields.length | none
  return {
    name := ← Toml.optional? Toml.text? name
    index := ← Toml.optional? (Toml.nat? greatestWord) index
    codePoint := ← Toml.optional? (Toml.nat? greatestWord) codePoint
    ligatures := ← Toml.optional? (Toml.list? Toml.text?) ligatures
    alternate := ← Toml.optional? Toml.text? alternate
    zeroAdvance := ← Toml.optional? Toml.bool? zeroAdvance
    role := ← Toml.optional? (Toml.choice? Role.named) role
  }

/-- The annotations that a value describes. -/
def Annotations.ofToml? (v : Toml) : Option Annotations := do
  let [glyphs] ← v.fields? ["glyphs"] 0 | none
  let entries ← Toml.orElse? [] (Toml.entries? Overrides.ofToml?) glyphs
  if distinct : (entries.map Prod.fst).Nodup then some { entries, distinct } else none

/-- The annotations that a text describes; `path` is where the text is from. -/
def Annotations.ofText (path text : String) : Except Fault Annotations :=
  match (Toml.ofText? text).bind Annotations.ofToml? with
  | some annotations => .ok annotations
  | none => .error (.unparsable path)

end Gridface
