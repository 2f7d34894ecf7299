import Gridface.Font.File
import Gridface.Proofs.Outline.Squares

/-!
# Reading numbers back

A number that was written to a table stands there for a reader, if it has room in its field.
-/

namespace Gridface.FontFile

variable {bytes after : Bytes} {place : Nat}

/-- The number of 16 bits at a place of a table. -/
def wordAt? (bytes : Bytes) (place : Nat) : Option Nat :=
  match bytes.drop place with
  | high :: low :: _ => some (high.toNat * 256 + low.toNat)
  | _ => none

/-- The number of 16 bits with a sign at a place of a table. -/
def signedWordAt? (bytes : Bytes) (place : Nat) : Option Int :=
  (wordAt? bytes place).map fun n : Nat =>
    if (n : Int) ≤ greatestUnit then (n : Int) else n - 65536

theorem wordAt?_eq_some {n : Nat} (h : bytes.drop place = word n ++ after)
    (hn : n ≤ greatestCount) : wordAt? bytes place = some n := by
  have hhigh : (n / 256).toUInt8.toNat = n / 256 := by
    refine UInt8.toNat_ofNat_of_lt' ?_
    show n / 256 < 256
    unfold greatestCount at hn
    omega
  have hlow : n.toUInt8.toNat = n % 256 := UInt8.toNat_ofNat'
  rw [wordAt?, h]
  show some ((n / 256).toUInt8.toNat * 256 + n.toUInt8.toNat) = some n
  rw [hhigh, hlow, Nat.div_add_mod']

theorem signedWordAt?_eq_some {v : Int} (h : bytes.drop place = signedWord v ++ after)
    (hv : FitsUnit v) : signedWordAt? bytes place = some v := by
  unfold FitsUnit leastUnit greatestUnit at hv
  have hword : wordAt? bytes place = some (v % 65536).toNat := by
    refine wordAt?_eq_some h ?_
    unfold greatestCount
    omega
  rw [signedWordAt?, hword, Option.map_some, Option.some_inj, Int.toNat_of_nonneg (by omega)]
  unfold greatestUnit
  split
  · omega
  · omega

/-! ## Counts -/

/-- All tables of the font that have something for each glyph count so many. -/
structure Counts (f : Font) (count : Nat) : Prop where
  hhea : wordAt? (hhea f) 34 = some count
  maxp : wordAt? (maxp f) 4 = some count
  post : wordAt? (post f) 32 = some count
  hmtx : (hmtx f).length = 4 * count
  loca : (loca f).length = 4 * (count + 1)

theorem length_offsets (start : Nat) (parts : List Bytes) :
    (offsets start parts).length = parts.length := by
  induction parts generalizing start with
  | nil => rfl
  | cons part parts ih => rw [offsets, List.length_cons, ih, List.length_cons]

theorem length_flatMap_four {β : Type} {f : β → Bytes} (hf : ∀ b, (f b).length = 4)
    (bs : List β) : (bs.flatMap f).length = 4 * bs.length := by
  rw [List.length_flatMap, List.map_congr_left fun b _ => hf b, List.map_const',
    List.sum_replicate_nat, Nat.mul_comm]

theorem counts (f : Font) (h : f.glyphCount ≤ greatestCount) : Counts f f.glyphCount := by
  constructor
  case hhea =>
    have hlast : (hhea f).drop 34 = word f.glyphCount ++ [] := rfl
    exact wordAt?_eq_some hlast h
  case maxp => exact wordAt?_eq_some rfl h
  case post =>
    have hcount : ((List.range f.glyphCount).map (knownNames + ·)).length = f.glyphCount := by
      rw [List.length_map, List.length_range]
    have hnames : (post f).drop 32 =
        word ((List.range f.glyphCount).map (knownNames + ·)).length ++ _ := rfl
    exact wordAt?_eq_some (hcount ▸ hnames) h
  case hmtx => exact length_flatMap_four (fun g => rfl) f.glyphs
  case loca =>
    rw [loca, length_flatMap_four length_long, length_offsets, List.length_append, List.length_map]
    rfl

end Gridface.FontFile
