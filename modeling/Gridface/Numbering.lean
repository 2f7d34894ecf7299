import Gridface.Repertoire
import Std.Data.TreeMap

/-!
# Numbering

Glyph ids are handed out from a pool, never one twice. The ids that glyphs ask for are reserved
first; then every other glyph, in order, takes the lowest free id.
-/

namespace Gridface

/-- The number of a glyph in a font. Glyph 0 is shown for what has no glyph. -/
abbrev GlyphId := Nat

namespace GlyphId

/-- The glyph that is shown for what has no glyph. -/
def notdef : GlyphId := 0

/-- The greatest id a glyph may have: a font counts its glyphs in 16 bits. -/
def greatest : Nat := 65534

end GlyphId

/-- The ids that are taken, each with the key that holds it, and where to look for a free one. -/
structure IdPool where
  holders : Std.TreeMap GlyphId String := {}
  /-- No id below is free. -/
  next : Nat := 1

namespace IdPool

instance : Inhabited IdPool := ⟨{}⟩

/-- Gives the id `index` to `key`. -/
def reserve (pool : IdPool) (key : String) (index : Nat) : Except Fault (GlyphId × IdPool) :=
  if index = 0 then .error (.reservedIndex key)
  else if GlyphId.greatest < index then .error (.indexOutOfRange key index)
  else
    match pool.holders[index]? with
    | some first => .error (.duplicateIndex index first key)
    | none => .ok (index, { pool with holders := pool.holders.insert index key })

/-- The first id from `start` on that nobody holds; the search ends above the greatest id. -/
def firstFree (pool : IdPool) (start : Nat) : Nat :=
  if start ≤ GlyphId.greatest ∧ start ∈ pool.holders then pool.firstFree (start + 1) else start
termination_by GlyphId.greatest + 1 - start
decreasing_by omega

/-- Gives the lowest free id to `key`. -/
def allocate (pool : IdPool) (key : String) : Except Fault (GlyphId × IdPool) :=
  let next := pool.firstFree pool.next
  { pool with next }.reserve key next

end IdPool

/-- The id of each key, in the order of the repertoire. -/
structure Numbering where
  ids : List (String × GlyphId)
  deriving DecidableEq, Repr, Inhabited

namespace Numbering

/-- The id of the glyph with the given key. -/
def find? (n : Numbering) (key : String) : Option GlyphId := n.ids.lookup key

/-- Reserves the ids that glyphs ask for. -/
def reserveAsked (pool : IdPool) : List Glyph → Except Fault IdPool
  | [] => .ok pool
  | g :: gs =>
    match g.index with
    | none => reserveAsked pool gs
    | some index => do
      let (_, pool) ← pool.reserve g.key index
      reserveAsked pool gs

/-- The id of each glyph: the one it asks for, or else the lowest that is free. -/
def number (pool : IdPool) : List Glyph → Except Fault (List (String × GlyphId))
  | [] => .ok []
  | g :: gs =>
    match g.index with
    | some index => do
      let ids ← number pool gs
      return (g.key, index) :: ids
    | none => do
      let (id, pool) ← pool.allocate g.key
      let ids ← number pool gs
      return (g.key, id) :: ids

/-- Numbers the glyphs of a repertoire. -/
def assign (r : Repertoire) : Except Fault Numbering := do
  let pool ← reserveAsked {} r.glyphs
  let ids ← number pool r.glyphs
  return { ids }

end Numbering

end Gridface
