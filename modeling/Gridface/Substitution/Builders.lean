import Gridface.Substitution

/-!
# Builders

The records of a lookup are collected in a builder, which is part of a font library. It is asked
whether a record can be added, told to add it, and makes the items of the lookup in the end.
-/

namespace Gridface

/-- What the records of one kind are collected in. -/
structure Builder (β : Type) where
  /-- What has been collected. -/
  State : Type
  empty : State
  /-- Whether a record agrees with what has been collected. -/
  canAdd : State → β → Bool
  insert : State → β → State
  /-- The items of the lookup, in their order. -/
  build : State → List β

/-- What has been collected when some records have been inserted, one after the other. -/
def Builder.after {β : Type} (b : Builder β) (records : List β) : b.State :=
  records.foldl b.insert b.empty

namespace Ligature

/-- Whether `a` is tried before `b` at the latest: by first glyph, then the longer sequence. -/
def precedes (a b : Ligature) : Bool :=
  let first (l : Ligature) := l.sequence.headD 0
  first a < first b || (first a == first b && b.sequence.length ≤ a.sequence.length)

/-- A builder that keeps each ligature once. -/
def builder : Builder Ligature where
  State := List Ligature
  empty := []
  canAdd kept l :=
    !l.sequence.isEmpty &&
      kept.all fun k => k.sequence != l.sequence || k.replacement == l.replacement
  insert kept l := if kept.contains l then kept else kept ++ [l]
  build kept := kept.mergeSort precedes

end Ligature

namespace Alternate

/-- Puts an alternate at its place in a list that ascends by source; it takes the place of another
one of its source. -/
def put (a : Alternate) : List Alternate → List Alternate
  | [] => [a]
  | b :: bs =>
    if a.source < b.source then a :: b :: bs
    else if a.source = b.source then a :: bs
    else b :: put a bs

/-- A builder that keeps one alternate of each source, by ascending source. -/
def builder : Builder Alternate where
  State := List Alternate
  empty := []
  canAdd placed a := placed.all fun b => b.source != a.source || b.replacement == a.replacement
  insert placed a := put a placed
  build placed := placed

end Alternate

/-- The builders of a font library. -/
structure Builders where
  ligatures : Builder Ligature
  alternates : Builder Alternate

/-- The builders that are used where no others are named. -/
def Builders.standard : Builders where
  ligatures := Ligature.builder
  alternates := Alternate.builder

end Gridface
