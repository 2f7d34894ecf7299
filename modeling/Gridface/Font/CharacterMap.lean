import Gridface.Fault
import Gridface.Font

/-!
# Character maps

A character is shown by one glyph at most. Characters up to U+FFFF are mapped in segments.
-/

namespace Gridface.CharacterMap

/-- A character and the glyph that shows it. -/
abbrev Mapping := Char × GlyphId

/-- The order of mappings: by character, then by glyph. -/
def precedes (a b : Mapping) : Bool := a.1 < b.1 || (a.1 == b.1 && a.2 ≤ b.2)

/-- The mappings in order, each once. -/
def normalized (mappings : List Mapping) : List Mapping := (mappings.mergeSort precedes).eraseReps

/-- The first pair of neighbours that map one character to two glyphs. -/
def conflict? : List Mapping → Option Fault
  | a :: b :: rest =>
    if a.1 = b.1 then some (.codePointConflict a.1 a.2 b.2) else conflict? (b :: rest)
  | _ => none

/-- Format 4 reaches the characters up to U+FFFF. -/
def isNarrow (c : Char) : Bool := c.toNat ≤ 0xFFFF

/-- A map of the given mappings; the missing glyph need not be mapped to. -/
def ofMappings (platform encoding format : Nat) (mappings : List Mapping) : CharacterMap where
  platform
  encoding
  format
  entries := mappings.filter fun m => m.2 != GlyphId.notdef

/-- The maps of a font: those of format 4 if there is a character they reach, those of format 12 if
there is one beyond. -/
def maps (mappings : List Mapping) : List CharacterMap :=
  let narrow := mappings.filter fun m => isNarrow m.1
  let hasNarrow := !narrow.isEmpty
  let hasWide := mappings.any fun m => !isNarrow m.1
  (if hasNarrow then [ofMappings 0 3 4 narrow] else []) ++
    (if hasWide then [ofMappings 0 4 12 mappings] else []) ++
    (if hasNarrow then [ofMappings 3 1 4 narrow] else []) ++
    (if hasWide then [ofMappings 3 10 12 mappings] else [])

/-! ## Segments -/

/-- Characters that follow each other, and the glyphs that show them. -/
structure Segment where
  /-- The mappings before the last one, the latest first. -/
  before : List Mapping
  last : Mapping
  /-- Whether the glyphs follow each other too. -/
  isRun : Bool
  deriving DecidableEq, Repr

namespace Segment

/-- The segment of one mapping. -/
def single (m : Mapping) : Segment := ⟨[], m, true⟩

/-- The first mapping. -/
def first (s : Segment) : Mapping := s.before.getLast?.getD s.last

/-- The glyphs, in the order of their characters. -/
def glyphs (s : Segment) : List GlyphId := ((s.last :: s.before).map Prod.snd).reverse

/-- What is added to each character to get its glyph, if that is the same for all of them. -/
def shift? (s : Segment) : Option Int :=
  if s.isRun then some ((s.first.2 : Int) - s.first.1.toNat) else none

/-- The number of octets that a segment takes: four counts, and one more for each glyph if it has to
list them. -/
def size (s : Segment) : Nat := if s.isRun then 8 else 10 + 2 * s.before.length

/-- The segments with one more mapping, the latest first. A segment is either a run or a stretch
without a run in it, so that a run takes the last mapping of such a stretch along. -/
def extend (segments : List Segment) (m : Mapping) : List Segment :=
  match segments with
  | [] => [single m]
  | s :: done =>
    if s.last.1.toNat + 1 ≠ m.1.toNat then single m :: s :: done
    else if s.last.2 + 1 = m.2 then
      match s.isRun, s.before with
      | false, b :: before => ⟨[s.last], m, true⟩ :: ⟨before, b, before.isEmpty⟩ :: done
      | _, before => ⟨s.last :: before, m, true⟩ :: done
    else if s.isRun && !s.before.isEmpty then single m :: s :: done
    else ⟨s.last :: s.before, m, false⟩ :: done

/-- Whether the characters of one segment follow those of another. -/
def isNext (s t : Segment) : Bool := s.last.1.toNat + 1 = t.first.1.toNat

/-- A segment and the next one in one, which lists its glyphs. -/
def join (s t : Segment) : Segment := ⟨t.before ++ s.last :: s.before, t.last, false⟩

/-- Whether it saves octets to join a segment with the next one, or else with the next two. -/
def joins (s t : Segment) (u? : Option Segment) : Bool :=
  s.isNext t &&
    ((s.join t).size < s.size + t.size ||
      u?.any fun u => t.isNext u && ((s.join t).join u).size < s.size + t.size + u.size)

/-- The segments from one on, joined where that saves octets. -/
def joined (s : Segment) : List Segment → List Segment
  | [] => [s]
  | t :: rest =>
    if s.joins t rest.head? then joined (s.join t) rest else s :: joined t rest

/-- Shifts are numbers of 16 bits, and one below their range counts from its end. None is above. -/
def fault? (s : Segment) : Option Fault :=
  if s.shift?.any (greatestUnit < ·) then some (.shiftOverflow s.first.1 s.first.2) else none

end Segment

/-- The segments of mappings by ascending character. -/
def segments (mappings : List Mapping) : List Segment :=
  match (mappings.foldl Segment.extend []).reverse with
  | [] => []
  | s :: rest => s.joined rest

/-- The segment that ends a list of segments: U+FFFF, shown by the missing glyph. -/
def lastSegment : Segment := .single (Char.ofNat 0xFFFF, GlyphId.notdef)

/-- The number of octets of a map with these segments. -/
def size (segments : List Segment) : Nat :=
  segments.foldl (fun size s => size + s.size) (16 + lastSegment.size)

/-- The fault of mappings that a map in format 4 cannot hold. -/
def storageFault? (mappings : List Mapping) : Option Fault :=
  let segments := segments (mappings.filter fun m => isNarrow m.1)
  segments.findSome? Segment.fault? <|>
    if greatestCount < size segments then some (.mapOverflow (size segments)) else none

/-! ## Compiling -/

/-- The maps of a font with the given mappings. What else than a conflict keeps a font library from
storing them is told by `storageFault?`. -/
def compile (storageFault? : List Mapping → Option Fault) (mappings : List Mapping) :
    Except Fault (List CharacterMap) := do
  let mappings := normalized mappings
  match conflict? mappings <|> storageFault? mappings with
  | some fault => throw fault
  | none => return maps mappings

end Gridface.CharacterMap
