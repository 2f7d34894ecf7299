import Gridface.Annotations

/-!
# Repertoires

A repertoire holds one glyph for each key, in the order in which the keys were first mentioned. The
operations say what becomes of the list of keys: `insert` and `change` never move or drop a key, and
a new key comes last.
-/

namespace Gridface

/-- Glyphs with distinct keys, in order of first mention. -/
structure Repertoire where
  glyphs : List Glyph
  distinct : (glyphs.map Glyph.key).Nodup
  deriving DecidableEq, Repr

namespace Repertoire

/-! ## Lists of glyphs -/

/-- Puts `g` in the place of the glyph with its key, or at the end. -/
def put (g : Glyph) : List Glyph → List Glyph
  | [] => [g]
  | h :: gs => if h.key = g.key then g :: gs else h :: put g gs

theorem keys_put (g : Glyph) (gs : List Glyph) :
    (put g gs).map Glyph.key =
      if g.key ∈ gs.map Glyph.key then gs.map Glyph.key else gs.map Glyph.key ++ [g.key] := by
  induction gs with
  | nil => simp [put]
  | cons h gs ih =>
    by_cases hk : h.key = g.key
    · simp [put, hk]
    · have hk' : ¬g.key = h.key := fun e => hk e.symm
      by_cases hm : g.key ∈ gs.map Glyph.key
      · simp_all [put]
      · simp_all [put]

theorem nodup_put (g : Glyph) {gs : List Glyph} (h : (gs.map Glyph.key).Nodup) :
    ((put g gs).map Glyph.key).Nodup := by
  rw [keys_put]
  split
  · exact h
  · rename_i hm
    rw [List.nodup_append]
    refine ⟨h, by simp, ?_⟩
    intro a ha b hb
    rw [List.mem_singleton] at hb
    subst hb
    exact fun e => hm (e ▸ ha)

/-! ## Operations -/

/-- The repertoire without glyphs. -/
def empty : Repertoire := ⟨[], List.nodup_nil⟩

instance : Inhabited Repertoire := ⟨empty⟩

/-- The keys, in order. -/
def keys (r : Repertoire) : List String := r.glyphs.map Glyph.key

/-- The number of glyphs. -/
def size (r : Repertoire) : Nat := r.glyphs.length

/-- The glyph with the given key. -/
def find? (r : Repertoire) (key : String) : Option Glyph := r.glyphs.find? (·.key == key)

/-- Whether there is a glyph with the given key. -/
def contains (r : Repertoire) (key : String) : Bool := (r.find? key).isSome

/-- Files `g` under its key; it takes the place of a glyph with that key. -/
def insert (r : Repertoire) (g : Glyph) : Repertoire := ⟨put g r.glyphs, nodup_put g r.distinct⟩

/-- Changes all glyphs by a function that keeps keys. -/
def mapGlyphs (r : Repertoire) (f : Glyph → Glyph) (keeps : ∀ g, (f g).key = g.key) : Repertoire :=
  ⟨r.glyphs.map f, by
    have : Glyph.key ∘ f = Glyph.key := funext keeps
    rw [List.map_map, this]
    exact r.distinct⟩

/-- Changes the glyph with the given key, whatever `f` makes of it, but not its key. -/
def change (r : Repertoire) (key : String) (f : Glyph → Glyph) : Repertoire :=
  r.mapGlyphs (fun g => if g.key = key then { f g with key := g.key } else g) fun g => by
    split <;> rfl

/-- The repertoire of a list of glyphs: of those with one key the last counts, at the place of the
first. -/
def ofList (gs : List Glyph) : Repertoire := gs.foldl insert empty

/-- The repertoire of the annotated glyphs. -/
def ofAnnotations (a : Annotations) : Except Fault Repertoire := do
  let glyphs ← a.entries.mapM fun e => e.2.toGlyph e.1
  return ofList glyphs

end Repertoire

end Gridface
