/-!
# UTF-8

Bytes as text: strictly, where every byte has to belong to a character, and leniently, where each
longest part of a broken character is shown as U+FFFD.
-/

namespace Gridface.Text

/-- The bytes of a text. -/
def utf8Bytes (s : String) : List UInt8 := s.toUTF8.toList

/-- The form of a character of several bytes, told from its first byte: the bits it gives, how many
bytes follow, and the range of the second byte. -/
structure LeadByte where
  bits : Nat
  following : Nat
  least : UInt8
  greatest : UInt8

/-- The form that begins with the given byte, if one does. -/
def leadByte? (b : UInt8) : Option LeadByte :=
  let low (mask : UInt8) : Nat := (b &&& mask).toNat
  if b < 0xC2 then none
  else if b < 0xE0 then some ⟨low 0x1F, 1, 0x80, 0xBF⟩
  else if b == 0xE0 then some ⟨low 0x0F, 2, 0xA0, 0xBF⟩
  else if b == 0xED then some ⟨low 0x0F, 2, 0x80, 0x9F⟩
  else if b < 0xF0 then some ⟨low 0x0F, 2, 0x80, 0xBF⟩
  else if b == 0xF0 then some ⟨low 0x07, 3, 0x90, 0xBF⟩
  else if b < 0xF4 then some ⟨low 0x07, 3, 0x80, 0xBF⟩
  else if b == 0xF4 then some ⟨low 0x07, 3, 0x80, 0x8F⟩
  else none

/-- The code that `bits` and so many further bytes make, or nothing if one is out of its range; and
the number of bytes that fit. -/
def following (bits count : Nat) (least greatest : UInt8) : List UInt8 → Option Nat × Nat
  | [] => (if count = 0 then some bits else none, 0)
  | b :: bs =>
    if count = 0 then (some bits, 0)
    else if least ≤ b && b ≤ greatest then
      let (code, fit) := following (bits * 64 + (b &&& 0x3F).toNat) (count - 1) 0x80 0xBF bs
      (code, fit + 1)
    else (none, 0)

/-- The first character of some bytes, or nothing if it is broken, and how many bytes it takes. -/
def firstChar (b : UInt8) (bs : List UInt8) : Option Char × Nat :=
  if b < 0x80 then (some (Char.ofNat b.toNat), 1)
  else
    match leadByte? b with
    | none => (none, 1)
    | some lead =>
      let (code, fit) := following lead.bits lead.following lead.least lead.greatest bs
      (code.map Char.ofNat, fit + 1)

/-- The characters of some bytes, with nothing in the place of each broken one. -/
def decodeFrom : Nat → List UInt8 → List (Option Char)
  | 0, _ => []
  | _ + 1, [] => []
  | fuel + 1, b :: bs =>
    let (c, size) := firstChar b bs
    c :: decodeFrom fuel (bs.drop (size - 1))

/-- The characters of some bytes, with nothing in the place of each broken one. Each step takes a
byte at least, so the length bounds the steps. -/
def decodeUtf8 (bs : List UInt8) : List (Option Char) := decodeFrom bs.length bs

/-- The text that the bytes are, if no character is broken. -/
def ofUtf8? (bs : List UInt8) : Option String :=
  ((decodeUtf8 bs).mapM id).map String.ofList

/-- The text that the bytes are, with U+FFFD in the place of each broken character. -/
def ofUtf8Lossy (bs : List UInt8) : String :=
  String.ofList ((decodeUtf8 bs).map fun c => c.getD '\ufffd')

end Gridface.Text
