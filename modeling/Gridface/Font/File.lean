import Gridface.Font.File.CharacterMaps
import Gridface.Font.File.Headers
import Gridface.Font.File.Outlines
import Gridface.Font.File.Substitutions

/-!
# Font files

A font file is a directory of tables and the tables. The sum of the whole file is a fixed number;
the table of general measures holds what is missing to it.
-/

namespace Gridface

namespace FontFile

/-- The sum of some bytes, taken as numbers of 32 bits. -/
def checksum : Bytes → Nat
  | a :: b :: c :: d :: rest =>
    (((a.toNat * 256 + b.toNat) * 256 + c.toNat) * 256 + d.toNat + checksum rest) % 4294967296
  | _ => 0

/-- What the sum of a font file has to be. -/
def wholeSum : Nat := 0xB1B0AFBA

/-- The tables by their tags, in order; the last argument completes the sum of the file. -/
def tables (f : Font) (adjustment : Nat) : List (String × Bytes) :=
  let substitutions :=
    match f.substitutions with
    | some s => [("GSUB", gsub s)]
    | none => []
  substitutions ++
    [("OS/2", os2 f), ("cmap", cmap f), ("glyf", glyf f), ("head", head f adjustment),
      ("hhea", hhea f), ("hmtx", hmtx f), ("loca", loca f), ("maxp", maxp f), ("name", name f),
      ("post", post f)]

/-- The directory and the tables. The sum of a table does not take account of the adjustment. -/
def assembled (f : Font) (adjustment : Nat) : Bytes :=
  let parts := (tables f adjustment).map fun t => aligned t.2
  let count := parts.length
  let sums := (tables f 0).map fun t => checksum (aligned t.2)
  block (12 + 16 * count) parts fun starts =>
    long 0x00010000 ++ words (count :: searchGuide count 16) ++
      ((tables f adjustment).zip (sums.zip starts)).flatMap fun (t, sum, start) =>
        tag t.1 ++ long sum ++ long start ++ long t.2.length

end FontFile

/-- The bytes of the font's file. -/
def Font.toBytes (f : Font) : FontFile.Bytes :=
  let sum := FontFile.checksum (FontFile.assembled f 0)
  FontFile.assembled f ((FontFile.wholeSum + 4294967296 - sum) % 4294967296)

end Gridface
