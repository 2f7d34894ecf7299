import Gridface.Toml

/-!
# Filling tables

A table may be opened by one header only, and what a header, a dotted key or a pair of braces has
completed is not extended from elsewhere.
-/

namespace Gridface.Toml

/-- The entries of a table, in the order in which they were given. -/
abbrev Entries := List (String × Toml)

namespace Entries

/-- The entries with the value of `key` replaced. -/
def replace (key : String) (value : Toml) (es : Entries) : Entries :=
  es.map fun e => if e.1 == key then (key, value) else e

/-- Changes the entries of the last of an array of tables. -/
def atLast (change : Entries → Option Entries) : List Toml → Option (List Toml)
  | [] => none
  | [table origin es] => (change es).map fun es => [table origin es]
  | [_] => none
  | first :: rest => (atLast change rest).map (first :: ·)

/-- Adds the value under `key` below the tables that a dotted key names. Those tables may be
implied by dotted keys, the outer ones also by headers. -/
def put (key : String) (value : Toml) : List String → Entries → Option Entries
  | [], es => if (es.lookup key).isSome then none else some (es ++ [(key, value)])
  | name :: names, es =>
    match es.lookup name with
    | none => (put key value names []).map fun below => es ++ [(name, table .dotted below)]
    | some (table origin below) =>
      if origin = .dotted ∨ (origin = .implied ∧ names ≠ []) then
        (put key value names below).map fun below => es.replace name (table origin below)
      else none
    | some (tables elements) =>
      if names = [] then none
      else (atLast (put key value names) elements).map fun elements =>
        es.replace name (tables elements)
    | some _ => none

/-- Changes the entries of the table that a header's path names, implying the tables on the way;
the path goes on in the last of an array of tables. -/
def within (change : Entries → Option Entries) : List String → Entries → Option Entries
  | [], es => change es
  | name :: names, es =>
    match es.lookup name with
    | none => (within change names []).map fun below => es ++ [(name, table .implied below)]
    | some (table .braces _) => none
    | some (table origin below) =>
      (within change names below).map fun below => es.replace name (table origin below)
    | some (tables elements) =>
      (atLast (within change names) elements).map fun elements =>
        es.replace name (tables elements)
    | some _ => none

/-- Opens the table `key` by its header. A table that was only implied takes its place in the order
now. -/
def openTable (key : String) (es : Entries) : Option Entries :=
  match es.lookup key with
  | none => some (es ++ [(key, table .header [])])
  | some (table .implied below) =>
    some (es.filter (fun e => e.1 != key) ++ [(key, table .header below)])
  | some _ => none

/-- Opens one more table of the array of tables `key` by its header. -/
def openElement (key : String) (es : Entries) : Option Entries :=
  match es.lookup key with
  | none => some (es ++ [(key, tables [table .header []])])
  | some (tables elements) => some (es.replace key (tables (elements ++ [table .header []])))
  | some _ => none

end Entries

end Gridface.Toml
