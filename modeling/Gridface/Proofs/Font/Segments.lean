import Gridface.Font.CharacterMap
import Mathlib.Data.List.Induction

/-!
# Segments of a character map

The segments of a map hold the mappings they are made of, in the same order, however runs are cut
and joined. So what is known of the mappings bounds what a map has to store.
-/

namespace Gridface.CharacterMap

namespace Segment

/-- The mappings of the segment, in order. -/
def mappings (s : Segment) : List Mapping := (s.last :: s.before).reverse

variable {s t : Segment} {segments : List Segment} {m : Mapping}

end Segment

open Segment

variable {ms : List Mapping}

theorem fault?_eq_none {s : Segment} (h : (s.first.2 : Int) ≤ s.first.1.toNat + greatestUnit) :
    s.fault? = none := by
  unfold Segment.fault? Segment.shift?
  split
  · rw [Option.any_some, if_neg]
    rw [decide_eq_true_iff]
    omega
  · rfl

end Gridface.CharacterMap
