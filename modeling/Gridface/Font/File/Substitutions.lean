import Gridface.Font
import Gridface.Font.File.Bytes

/-!
# The table of substitutions

Every part of a lookup is reached by an offset of 32 bits, so a lookup may be of any size.
-/

namespace Gridface.FontFile

/-- A list of glyph ids that something applies to. -/
def coverage (ids : List GlyphId) : Bytes := word 1 ++ counted ids

/-- A ligature, without the glyph that it begins with. -/
def ligature (l : Ligature) : Bytes :=
  word l.replacement ++ word l.sequence.length ++ words (l.sequence.drop 1)

/-- Ligatures that begin with the same glyph, in the order in which they are tried. -/
def ligatureSet (ligatures : List Ligature) : Bytes :=
  block (2 + 2 * ligatures.length) (ligatures.map ligature) counted

/-- A part of a ligature lookup: the ligatures that begin with one glyph. -/
def ligaturePart (first : GlyphId) (ligatures : List Ligature) : Bytes :=
  block 8 [coverage [first], ligatureSet ligatures] fun starts =>
    match starts with
    | [covered, set] => words [1, covered, 1, set]
    | _ => []

/-- A part of an alternate lookup: all of its items. -/
def alternatePart (items : List Alternate) : Bytes :=
  block (6 + 2 * items.length) [coverage (items.map Alternate.source)] fun starts =>
    word 2 ++ words starts ++ counted (items.map Alternate.replacement)

/-- A part of a contextual lookup: one rule. -/
def rulePart (r : ContextRule) (lookup : Nat) : Bytes :=
  let sets := r.backtrack ++ r.input :: r.lookahead
  let count := r.backtrack.length
  block (14 + 2 * sets.length) (sets.map fun s => coverage s.ids) fun starts =>
    word 3 ++ counted (starts.take count) ++ counted ((starts.drop count).take 1) ++
      counted (starts.drop (count + 1)) ++ words [1, 0, lookup]

/-- The ligatures of a lookup by the glyph that they begin with. -/
def ligatureSets (items : List Ligature) : List (GlyphId × List Ligature) :=
  let firsts := (items.map fun l => l.sequence.headD 0).eraseReps
  firsts.map fun first => (first, items.filter (·.sequence.headD 0 == first))

/-- The kind of a lookup, and its parts. -/
def lookupParts : Lookup → Nat × List Bytes
  | .ligatures items => (4, (ligatureSets items).map fun set => ligaturePart set.1 set.2)
  | .alternates items => (1, [alternatePart items])
  | .contextual rules lookup => (6, rules.map (rulePart · lookup))

/-- The kind of a lookup that reaches its parts by long offsets. -/
def extensionKind : Nat := 7

/-- A lookup. -/
def lookup (l : Lookup) : Bytes :=
  let (kind, parts) := lookupParts l
  let headSize := 6 + 2 * parts.length
  let start (i : Nat) : Nat := headSize + 8 * i
  let places := offsets (headSize + 8 * parts.length) parts
  words [extensionKind, 0] ++ counted ((List.range parts.length).map start) ++
    (places.zipIdx.flatMap fun (place, i) => words [1, kind] ++ long (place - start i)) ++
    parts.flatten

/-- The scripts: one, with the default language only. -/
def scripts (s : Substitutions) : Bytes :=
  word 1 ++ tag Substitutions.script ++ words [8, 4, 0] ++
    words [0, Substitutions.noRequiredFeature] ++ counted s.defaultFeatures

/-- The features, each with the lookup that it applies. -/
def features (s : Substitutions) : Bytes :=
  let parts := s.features.map fun f => words [0, 1, f.lookup]
  block (2 + 6 * parts.length) parts fun starts =>
    word parts.length ++ (s.features.zip starts).flatMap fun (f, start) => tag f.tag ++ word start

/-- The lookups. -/
def lookups (s : Substitutions) : Bytes :=
  let parts := s.lookups.map lookup
  block (2 + 2 * parts.length) parts counted

/-- The table of substitutions. -/
def gsub (s : Substitutions) : Bytes :=
  block 10 [scripts s, features s, lookups s] fun starts => words ([1, 0] ++ starts)

end Gridface.FontFile
