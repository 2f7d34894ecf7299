import Gridface.Fault
import Gridface.Glyph

/-!
# Annotations

Attributes that an author gives to glyphs, in the order of the document. They never hold pixels.
-/

namespace Gridface

/-- The attributes given to one glyph. -/
structure Overrides where
  name : Option String := none
  index : Option Nat := none
  /-- A number that need not be a Unicode character. -/
  codePoint : Option Nat := none
  ligatures : Option (List String) := none
  alternate : Option String := none
  zeroAdvance : Option Bool := none
  role : Option Role := none
  deriving DecidableEq, Repr

/-- The overrides of each annotated key, in order. -/
structure Annotations where
  entries : List (String × Overrides)
  /-- No key is annotated twice. -/
  distinct : (entries.map Prod.fst).Nodup
  deriving DecidableEq, Repr

/-- No annotations. -/
def Annotations.empty : Annotations := ⟨[], List.nodup_nil⟩

instance : Inhabited Annotations := ⟨.empty⟩

/-- The character with the given code point; the glyph `key` is to blame if there is none. -/
def Overrides.character (key : String) (value : Nat) : Except Fault Char :=
  if value.isValidChar then .ok (Char.ofNat value) else .error (.invalidCodePoint key value)

/-- The glyph that the overrides of `key` describe. -/
def Overrides.toGlyph (key : String) (o : Overrides) : Except Fault Glyph := do
  let codePoint ← o.codePoint.mapM (Overrides.character key)
  return {
    key
    name := o.name.getD key
    codePoint
    index := o.index
    ligatures := o.ligatures
    alternate := o.alternate
    zeroAdvance := o.zeroAdvance.getD false
    role := o.role
  }

end Gridface
