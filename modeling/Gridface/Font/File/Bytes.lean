/-!
# Bytes of a font file

Numbers are written with the most significant byte first. A block with offsets is a head that says
where each of its parts begins, followed by the parts.
-/

namespace Gridface.FontFile

/-- Bytes of a font file. -/
abbrev Bytes := List UInt8

/-- A number of 8 bits. -/
def byte (n : Nat) : Bytes := [n.toUInt8]

/-- A number of 16 bits. -/
def word (n : Nat) : Bytes := [(n / 256).toUInt8, n.toUInt8]

/-- A number of 32 bits. -/
def long (n : Nat) : Bytes := word (n / 65536) ++ word n

/-- A number of 16 bits with a sign. -/
def signedWord (v : Int) : Bytes := word (v % 65536).toNat

/-- A number of 32 bits with a sign. -/
def signedLong (v : Int) : Bytes := long (v % 4294967296).toNat

/-- Numbers of 16 bits, one after another. -/
def words (ns : List Nat) : Bytes := ns.flatMap word

/-- Numbers of 16 bits after their count. -/
def counted (ns : List Nat) : Bytes := word ns.length ++ words ns

/-- So many bytes of zero. -/
def zeros (count : Nat) : Bytes := List.replicate count 0

/-- The bytes with zeros after them up to a multiple of four. -/
def aligned (bytes : Bytes) : Bytes := bytes ++ zeros ((4 - bytes.length % 4) % 4)

/-- A tag of four characters. -/
def tag (text : String) : Bytes := text.toUTF8.toList

/-- Where each part begins, if the first one begins at `start`. -/
def offsets (start : Nat) : List Bytes → List Nat
  | [] => []
  | part :: parts => start :: offsets (start + part.length) parts

/-- A block: a head of the given size, made from the offsets of the parts, and the parts. -/
def block (headSize : Nat) (parts : List Bytes) (head : List Nat → Bytes) : Bytes :=
  head (offsets headSize parts) ++ parts.flatten

/-- The greatest power of two up to `n`, as its exponent. -/
def powerBelow (n : Nat) : Nat := Nat.log2 (max n 1)

/-- The numbers that guide a binary search over `count` records of a given size: the size of the
greatest power of two of them, its exponent, and the size of the others. -/
def searchGuide (count size : Nat) : List Nat :=
  let exponent := powerBelow count
  let covered := (1 <<< exponent) * size
  [covered, exponent, count * size - covered]

theorem length_word (n : Nat) : (word n).length = 2 := rfl

theorem length_long (n : Nat) : (long n).length = 4 := rfl

end Gridface.FontFile
