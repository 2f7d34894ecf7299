/-!
# JSON values

A JSON text as a tree, with what a typed reader asks of it. Members keep their order and may repeat
a name.
-/

namespace Gridface

/-- A JSON value. -/
inductive Json
  | null
  | bool (value : Bool)
  /-- A number; it has a value only if it is written as an integer other than `-0`. -/
  | number (value : Option Int)
  /-- A string; it has a value only if its escapes leave no half of a surrogate pair alone. -/
  | string (value : Option String)
  | array (elements : List Json)
  | object (members : List (Option String × Json))
  deriving Repr, Inhabited

namespace Json

/-- The integer from `least` to `greatest` that the value is. -/
def int? (least greatest : Int) : Json → Option Int
  | number (some n) => if least ≤ n ∧ n ≤ greatest then some n else none
  | _ => none

/-- The natural number up to `greatest` that the value is. -/
def nat? (greatest : Nat) (j : Json) : Option Nat :=
  (j.int? 0 greatest).map Int.toNat

/-- The text that the value is. -/
def text? : Json → Option String
  | string s => s
  | _ => none

/-- The elements of an array, each read by `read`. -/
def list? {α : Type} (read : Json → Option α) : Json → Option (List α)
  | array xs => xs.mapM read
  | _ => none

/-- The values of a record with exactly these fields: those of an object that has each field once,
whatever else it has, or the elements of an array that has one for each field. -/
def record? (fields : List String) : Json → Option (List Json)
  | array xs => if xs.length = fields.length then some xs else none
  | object members => do
    let named ← members.mapM fun m => m.1.map (·, m.2)
    fields.mapM fun field =>
      match named.filter (·.1 == field) with
      | [(_, value)] => some value
      | _ => none
  | _ => none

end Json

end Gridface
