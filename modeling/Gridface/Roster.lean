import Gridface.Outline
import Gridface.Repertoire
import Gridface.Report
import Gridface.Substitution.Cartouche

/-!
# Rosters

A roster is what a font is made of: the glyphs of a repertoire in the order of their ids, with their
outlines, and the substitutions between them.
-/

namespace Gridface

/-- What becomes of a substitution that names a key without a glyph. -/
inductive UnknownKeyPolicy
  /-- A notice is given, and the missing glyph takes the place. -/
  | warn
  /-- The build stops. -/
  | refuse
  deriving DecidableEq, Repr, Inhabited

/-- A glyph of a roster. -/
structure Entry (α : Type) where
  key : String
  name : String
  id : GlyphId
  codePoint : Option Char
  advance : Nat
  outline : Outline α
  deriving DecidableEq, Repr

/-- A mention of `key` in a substitution of `glyph`. -/
structure Reference where
  glyph : String
  key : String
  deriving DecidableEq, Repr

/-- The substitutions of some glyphs, and their references to keys without a glyph. -/
structure Links where
  ligatures : List Ligature := []
  alternates : List Alternate := []
  unresolved : List Reference := []
  deriving DecidableEq, Repr, Inhabited

/-- The links of some glyphs followed by those of others. -/
def Links.append (a b : Links) : Links where
  ligatures := a.ligatures ++ b.ligatures
  alternates := a.alternates ++ b.alternates
  unresolved := a.unresolved ++ b.unresolved

instance : Append Links := ⟨Links.append⟩

/-- What a font is made of. -/
structure Roster (α : Type) where
  metrics : Metrics
  /-- By ascending id; the missing glyph and ids that no glyph has are absent. -/
  entries : List (Entry α)
  /-- Longer sequences first. -/
  ligatures : List Ligature
  alternates : List Alternate
  rules : List ContextRule
  /-- The references that the missing glyph stands for. -/
  unresolved : List Reference
  deriving Repr

/-- How a roster is made from a repertoire. -/
structure RosterOptions where
  metrics : Metrics := {}
  policy : UnknownKeyPolicy := .warn
  style : CartoucheStyle := {}
  deriving DecidableEq, Repr, Inhabited

/-! ## Following references -/

namespace UnknownKeyPolicy

/-- The id of `key`, which a substitution of `glyph` mentions, and the reference if it is to a key
without a glyph. -/
def resolve (policy : UnknownKeyPolicy) (n : Numbering) (glyph key : String) :
    Report (GlyphId × List Reference) := do
  match n.find? key with
  | some id => return (id, [])
  | none =>
    match policy with
    | .refuse => Report.fail (.unresolvedKey glyph key)
    | .warn =>
      Report.note (.unknownReference glyph key)
      return (GlyphId.notdef, [{ glyph, key }])

/-- The ids of a list of keys. -/
def resolveAll (policy : UnknownKeyPolicy) (n : Numbering) (glyph : String) :
    List String → Report (List GlyphId × List Reference)
  | [] => return ([], [])
  | key :: keys => do
    let (id, unresolved) ← policy.resolve n glyph key
    let (ids, more) ← resolveAll policy n glyph keys
    return (id :: ids, unresolved ++ more)

/-- The ligature that replaces `text` by the glyph `id`; the empty text makes none. -/
def ligature (policy : UnknownKeyPolicy) (n : Numbering) (glyph : String) (id : GlyphId)
    (text : String) : Report Links := do
  if text.toList.isEmpty then
    Report.note (.emptyLigature glyph)
    return {}
  let (sequence, unresolved) ← policy.resolveAll n glyph (text.toList.map Char.toString)
  return { ligatures := [{ sequence, replacement := id }], unresolved }

/-- The ligatures that replace some texts by the glyph `id`. -/
def ligatures (policy : UnknownKeyPolicy) (n : Numbering) (glyph : String) (id : GlyphId) :
    List String → Report Links
  | [] => return {}
  | text :: texts => do
    let first ← policy.ligature n glyph id text
    let rest ← ligatures policy n glyph id texts
    return first ++ rest

/-- The alternate that the glyph `id` is for another glyph, if it is one. -/
def alternate (policy : UnknownKeyPolicy) (n : Numbering) (glyph : String) (id : GlyphId) :
    Option String → Report Links
  | none => return {}
  | some key => do
    let (source, unresolved) ← policy.resolve n glyph key
    return { alternates := [{ source, replacement := id }], unresolved }

/-- The substitutions of a glyph. -/
def links (policy : UnknownKeyPolicy) (n : Numbering) (g : Glyph) (id : GlyphId) :
    Report Links := do
  let ligatures ← policy.ligatures n g.key id (g.ligatures.getD [])
  let alternates ← policy.alternate n g.key id g.alternate
  return ligatures ++ alternates

end UnknownKeyPolicy

/-! ## Making a roster -/

variable {α : Type} [Coordinate α]

/-- The entry of a glyph. -/
def Glyph.entry (m : Metrics) (g : Glyph) (id : GlyphId) : Except Fault (Entry α) := do
  let outline ←
    match g.bitmap with
    | some bitmap => bitmap.outline m
    | none => pure []
  return {
    key := g.key
    name := g.name
    id
    codePoint := g.codePoint
    advance := if g.zeroAdvance then 0 else m.unitsPerEm
    outline
  }

namespace RosterOptions

/-- The entries of glyphs with their ids, and their substitutions. -/
def compileAll (o : RosterOptions) (n : Numbering) :
    List (Glyph × GlyphId) → Report (List (Entry α) × Links)
  | [] => return ([], {})
  | (g, id) :: rest => do
    let entry ← g.entry o.metrics id
    let links ← o.policy.links n g id
    let (entries, more) ← compileAll o n rest
    return (entry :: entries, links ++ more)

/-- The roster of a repertoire. -/
def compile (o : RosterOptions) (r : Repertoire) : Report (Roster α) := do
  let n ← Numbering.assign r
  let (entries, links) ← o.compileAll n (r.glyphs.zip (n.ids.map Prod.snd))
  let entries := entries.mergeSort fun a b => a.id ≤ b.id
  let (rules, notices) := o.style.rules (entries.map fun e => (e.name, e.id))
  Report.noteAll notices
  return {
    metrics := o.metrics
    entries
    ligatures := links.ligatures.mergeSort fun a b => b.sequence.length ≤ a.sequence.length
    alternates := links.alternates
    rules
    unresolved := links.unresolved
  }

end RosterOptions

namespace Roster

/-- The number of glyphs in the font: one more than the last id. -/
def glyphCount (r : Roster α) : Nat :=
  match r.entries.getLast? with
  | some e => e.id + 1
  | none => 1

/-- The entry with the given key. -/
def find? (r : Roster α) (key : String) : Option (Entry α) := r.entries.find? (·.key == key)

end Roster

end Gridface
