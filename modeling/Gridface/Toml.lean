/-!
# TOML values

A TOML document as a tree, with what a typed reader asks of it. Of numbers with a fraction and of
dates the tree only says that they are there: nothing that is read from a document takes one.
-/

namespace Gridface

namespace Toml

/-- How a table came to be, which decides what may still be added to it. -/
inductive Origin
  /-- Written between braces; complete. -/
  | braces
  /-- Opened by its own header. -/
  | header
  /-- Implied by the header of a table below it. -/
  | implied
  /-- Implied by a dotted key. -/
  | dotted
  deriving DecidableEq, Repr

end Toml

/-- A TOML value. -/
inductive Toml
  | text (value : String)
  | integer (value : Int)
  | bool (value : Bool)
  /-- A number with a fraction, a date or a time. -/
  | other
  | array (elements : List Toml)
  /-- A table; its entries keep the order in which they were given. -/
  | table (origin : Toml.Origin) (entries : List (String × Toml))
  /-- An array of tables, one for each of its headers. -/
  | tables (elements : List Toml)
  deriving Repr, Inhabited

namespace Toml

/-- The text that the value is. -/
def text? : Toml → Option String
  | text s => some s
  | _ => none

/-- The truth value that the value is. -/
def bool? : Toml → Option Bool
  | bool b => some b
  | _ => none

/-- The integer from `least` to `greatest` that the value is. -/
def int? (least greatest : Int) : Toml → Option Int
  | integer n => if least ≤ n ∧ n ≤ greatest then some n else none
  | _ => none

/-- The natural number up to `greatest` that the value is. -/
def nat? (greatest : Nat) (v : Toml) : Option Nat :=
  (v.int? 0 greatest).map Int.toNat

/-- The elements of an array, each read by `read`. -/
def list? {α : Type} (read : Toml → Option α) : Toml → Option (List α)
  | array xs => xs.mapM read
  | tables xs => xs.mapM read
  | _ => none

/-- The entries of a table, each value read by `read`. -/
def entries? {α : Type} (read : Toml → Option α) : Toml → Option (List (String × α))
  | table _ es => es.mapM fun e => (read e.2).map (e.1, ·)
  | _ => none

/-- Nothing stands below the value. -/
def isEmpty : Toml → Bool
  | array xs => xs.isEmpty
  | tables xs => xs.isEmpty
  | table _ es => es.isEmpty
  | _ => false

/-- One of a list of named options: the value is the option's name, or a table that holds that name
only, with nothing below it. -/
def choice? {α : Type} (options : List (String × α)) : Toml → Option α
  | text s => options.lookup s
  | table _ [(s, below)] => if below.isEmpty then options.lookup s else none
  | _ => none

/-- The values of a record's fields, in order, where there are any. A table may have no other
entries; an array gives the fields in order and must reach `least` of them. -/
def fields? (names : List String) (least : Nat) : Toml → Option (List (Option Toml))
  | table _ es =>
    if es.all fun e => names.contains e.1 then some (names.map fun name => es.lookup name) else none
  | array xs => if least ≤ xs.length then some (listed xs) else none
  | tables xs => if least ≤ xs.length then some (listed xs) else none
  | _ => none
where
  /-- One element for each name, as long as there are elements. -/
  listed (xs : List Toml) : List (Option Toml) :=
    (List.range names.length).map fun i => xs[i]?

/-- What `read` makes of a field that may be absent. -/
def optional? {α : Type} (read : Toml → Option α) : Option Toml → Option (Option α)
  | none => some none
  | some v => (read v).map some

/-- What `read` makes of a field, or `default` if it is absent. -/
def orElse? {α : Type} (default : α) (read : Toml → Option α) : Option Toml → Option α
  | none => some default
  | some v => read v

end Toml

end Gridface
