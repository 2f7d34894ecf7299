import Gridface.Outline

/-!
# Contours

Straight strokes make contours: each move starts one, each line adds a point, and a closing drops a
last point that repeats the first.
-/

namespace Gridface

/-- The points of a contour, in order. -/
abbrev Contour (α : Type) := List (α × α)

variable {α : Type} [Coordinate α]

/-- Whether two points have the same place. -/
def samePoint (p q : α × α) : Bool := p.1 == q.1 && p.2 == q.2

/-- The contour without a last point that repeats the first. -/
def Contour.closed : Contour α → Contour α
  | [] => []
  | first :: rest =>
    match rest.getLast? with
    | some last => if samePoint first last then first :: rest.dropLast else first :: rest
    | none => [first]

namespace Outline

/-- The contours of the strokes that follow an open contour, if one is open. -/
def contoursFrom : Option (Contour α) → Outline α → Except OutlineFlaw (List (Contour α))
  | none, [] => .ok []
  | some c, [] => .ok [c]
  | none, .move x y :: strokes => contoursFrom (some [(x, y)]) strokes
  | some c, .move x y :: strokes => do
    let contours ← contoursFrom (some [(x, y)]) strokes
    return c :: contours
  | some c, .line x y :: strokes => contoursFrom (some (c ++ [(x, y)])) strokes
  | some c, .close :: strokes => contoursFrom (some c.closed) strokes
  | _, .cubic .. :: _ => .error .hasCubic
  | none, .line .. :: _ => .error .missingMove
  | none, .close :: _ => .error .missingMove

/-- The contours of the outline. -/
def contours (o : Outline α) : Except OutlineFlaw (List (Contour α)) := contoursFrom none o

end Outline

/-- The contour in whole font units. -/
def Contour.rounded (c : Contour α) : Contour Int :=
  c.map fun p => (Coordinate.rounded p.1, Coordinate.rounded p.2)

/-- The steps from each coordinate to the next; the first step is from `start`. -/
def stepsFrom (start : Int) : List Int → List Int
  | [] => []
  | v :: vs => (v - start) :: stepsFrom v vs

end Gridface
