import Gridface.Repertoire
import Gridface.Sheet

/-!
# Merging layers

A layer draws the glyph whose key is a prefix followed by the layer's name. The pixels always come
from the last layer; all else that is known about a glyph stays.
-/

namespace Gridface

/-- How the layers of a sheet join a repertoire. -/
structure MergeOptions where
  /-- Comes before each layer's name in the glyph's key. -/
  keyPrefix : Option String := none
  /-- A glyph without a code point is mapped to the first character of its key. -/
  autoCodePoint : Bool := false
  deriving DecidableEq, Repr, Inhabited

namespace MergeOptions

/-- The key of the glyph that a layer draws. -/
def keyOf (o : MergeOptions) (layer : String) : String := o.keyPrefix.getD "" ++ layer

/-- The glyph with the given pixels. -/
def draw (o : MergeOptions) (bitmap : Bitmap) (g : Glyph) : Glyph :=
  { g with
    bitmap := some bitmap
    codePoint := if o.autoCodePoint then g.codePoint <|> g.key.toList.head? else g.codePoint }

end MergeOptions

namespace Repertoire

/-- Merges one layer into the repertoire. -/
def mergeLayer (o : MergeOptions) (r : Repertoire) (layer : Layer) : Repertoire :=
  let key := o.keyOf layer.name
  r.insert (o.draw layer.bitmap ((r.find? key).getD (Glyph.ofKey key)))

/-- Merges layers into the repertoire, in order. -/
def merge (o : MergeOptions) (r : Repertoire) (layers : List Layer) : Repertoire :=
  layers.foldl (mergeLayer o) r

end Repertoire

end Gridface
