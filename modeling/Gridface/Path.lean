import Gridface.Text.Parts

/-!
# Paths

A path is a text of components between slashes. Nothing is looked up, so a path that leads up is
kept as it is written.
-/

namespace Gridface.Path

open Text

/-- A path from the root. -/
def isAbsolute (path : String) : Bool := path.toList.head? == some '/'

/-- The path `part` as seen from `base`: an absolute one is itself, any other follows the base after
a slash. -/
def join (base part : String) : String :=
  if isAbsolute part then part
  else if base.toList.isEmpty || base.toList.getLast? == some '/' then base ++ part
  else base ++ "/" ++ part

/-- The root or the dot that a path starts with, and the rest. -/
def splitStart : List Char → List Char × List Char
  | '/' :: rest => (['/'], rest)
  | ['.'] => (['.'], [])
  | '.' :: '/' :: rest => (['.'], '/' :: rest)
  | cs => ([], cs)

/-- A component that leads nowhere. -/
def isIdle (component : List Char) : Bool := component.isEmpty || component == ['.']

/-- The components without idle ones at the end. -/
def dropIdleEnd (components : List (List Char)) : List (List Char) :=
  (components.reverse.dropWhile isIdle).reverse

/-- The path without its last component, if it has one. -/
def parent? (path : String) : Option String :=
  let (start, rest) := splitStart path.toList
  match dropIdleEnd (splitAt '/' rest) with
  | [] => if start = ['.'] then some "" else none
  | components =>
    some (String.ofList (start ++ joinWith '/' (dropIdleEnd components.dropLast)))

end Gridface.Path
