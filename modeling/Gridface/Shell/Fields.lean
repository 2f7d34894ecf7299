import Gridface.FileTree
import Gridface.Shell.Pattern

/-!
# Fields

How what a word stands for is parted into fields, and how a field that is a pattern is replaced by
the names of files.
-/

namespace Gridface.Shell

open Text

/-- A mark of what a word stands for. -/
inductive Mark
  | char (c : Char) (isQuoted : Bool)
  /-- The end of a field. -/
  | separator
  /-- A field with a quote is there even if it is empty. -/
  | quote
  deriving DecidableEq, Repr

/-- How a piece of what a word stands for is parted. -/
inductive Parting
  | whole
  /-- At the characters that part fields. -/
  | blanks
  /-- At separators only. -/
  | separators
  deriving DecidableEq, Repr

/-- A piece of what a word stands for. -/
structure FieldPiece where
  marks : List Mark
  parting : Parting := .whole
  /-- The piece stands in the script; two of them that meet are one. -/
  isLiteral : Bool := true

/-- The character that a mark is, and whether it stands for itself. -/
def Mark.char? : Mark → Option PatternChar
  | char c isQuoted => some (c, isQuoted)
  | _ => none

/-- The text of marks; separators are blanks in it. -/
def textOf (marks : List Mark) : Octets :=
  String.ofList (marks.filterMap fun
    | .char c _ => some c
    | .separator => some ' '
    | .quote => none)

/-- The pattern of marks. -/
def patternOf (marks : List Mark) : List PatternChar := marks.filterMap Mark.char?

/-- Joins literal pieces that meet and are parted alike. -/
def joinLiterals : List FieldPiece → List FieldPiece
  | [] => []
  | p :: rest =>
    match joinLiterals rest with
    | [] => [p]
    | q :: more =>
      if p.isLiteral && q.isLiteral && p.parting == q.parting then
        { p with marks := p.marks ++ q.marks } :: more
      else p :: q :: more

/-! ## Parting -/

/-- How characters part fields. -/
inductive FieldRole
  | plain
  /-- The character parts fields. -/
  | divider
  /-- The character parts fields, and others like it may follow it. -/
  | blank
  deriving DecidableEq, Repr

/-- What is known where a mark is parted from those before it. -/
structure FieldState where
  /-- Fields that are complete, the last first. -/
  done : List (List Mark) := []
  /-- The marks of the field that has been begun, the last first. -/
  marks : List Mark := []
  /-- The field before ended with a blank. -/
  afterBlank : Bool := false
  /-- How many fields may still be begun; no number is no limit. -/
  limit : Option Nat := none
  /-- How many marks of the last field stay if nothing but blanks follows. -/
  kept : Option Nat := none

/-- The part that a mark has: separators part fields, and so do the given characters. -/
def fieldRole (dividers : List Char) (parting : Parting) (m : Mark) : FieldRole :=
  match m with
  | .separator => .blank
  | .char c _ =>
    if parting != .blanks || !dividers.contains c then .plain
    else if c == ' ' || c == '\t' || c == '\n' then .blank
    else .divider
  | .quote => .plain

namespace FieldState

/-- Notes a mark of the last field that there may be: blanks at its end are dropped, and a divider
too if it is the only one. -/
def addToLast (s : FieldState) (role : FieldRole) (m : Mark) : FieldState :=
  let added := { s with marks := m :: s.marks }
  if role = .blank then { added with kept := some (s.kept.getD s.marks.length) }
  else
    let kept := if role = .divider && s.afterBlank then s.kept else none
    { added with kept, afterBlank := false }

/-- Ends the field that has been begun before a mark that parts fields. -/
def endField (s : FieldState) (role : FieldRole) (separates : Bool) (m : Mark) : FieldState :=
  let isBlank := role = .blank && !separates
  if s.marks.isEmpty && isBlank then { s with marks := [], afterBlank := false }
  else if s.limit = some 1 then
    { s with
      limit := some 0
      marks := m :: s.marks
      kept := some s.marks.length
      afterBlank := if separates then s.afterBlank else role = .blank }
  else
    { s with
      done := s.marks :: s.done
      marks := []
      limit := s.limit.map (· - 1)
      afterBlank := if separates then s.afterBlank else role = .blank }

/-- Notes a mark of a piece that is parted; `separates` says that separators are no blanks. -/
def step (dividers : List Char) (parting : Parting) (separates : Bool) (s : FieldState) (m : Mark) :
    FieldState :=
  let role := fieldRole dividers parting m
  if s.limit = some 0 then s.addToLast role m
  else if s.afterBlank then
    match role with
    | .blank => { s with marks := [] }
    | .divider => { s with marks := [], afterBlank := false }
    | .plain => { s with marks := [m], afterBlank := false }
  else if role = .plain then { s with marks := m :: s.marks }
  else s.endField role separates m

/-- Notes the pieces; `wasSeparated` says that the last piece that was parted was so at separators
only. -/
def steps (dividers : List Char) : Bool → FieldState → List FieldPiece → Bool × FieldState
  | wasSeparated, s, [] => (wasSeparated, s)
  | wasSeparated, s, p :: rest =>
    if p.parting = .whole then
      steps dividers wasSeparated { s with marks := p.marks.reverse ++ s.marks } rest
    else
      let isSeparated := p.parting == .separators
      let s := { s with afterBlank := false }
      let s := p.marks.foldl (step dividers p.parting (wasSeparated || isSeparated)) s
      steps dividers isSeparated s rest

end FieldState

/-- The fields of pieces, of which there are at most so many if there is a limit. -/
def fieldsOf (dividers : List Char) (limit : Option Nat) (pieces : List FieldPiece) :
    List (List Mark) :=
  let (isSeparated, s) := FieldState.steps dividers false { limit } (joinLiterals pieces)
  let last := s.marks.reverse
  let last := (s.kept.map fun n => last.take n).getD last
  s.done.reverse.map List.reverse ++ (if last.isEmpty && !isSeparated then [] else [last])

/-! ## Names of files -/

/-- The names in a directory. -/
def namesIn (tree : FileTree) (path : Octets) : List Octets :=
  match tree.locate (if path = "" then "." else path.toText) with
  | .ok (.found place .directory _) =>
    let below := tree.nodes.filterMap fun n =>
      if n.1.dropLast == place && !n.1.isEmpty then n.1.getLast? else none
    [".", ".."] ++ below.map Octets.ofText
  | _ => []

/-- Whether there is something at a path. -/
def isThere (tree : FileTree) (path : Octets) : Bool :=
  match tree.locate path.toText with
  | .ok (.found _ (.file _) slash) => !slash
  | .ok (.found _ .directory _) => true
  | _ => false

/-- The parts of a pattern between slashes. -/
def patternParts (cs : List PatternChar) : List (List PatternChar) :=
  match cs with
  | [] => [[]]
  | c :: cs =>
    match patternParts cs with
    | [] => [[c]]
    | part :: parts => if c.1 == '/' then [] :: part :: parts else (c :: part) :: parts

/-- The text of a pattern that stands for one text, without the backslashes that quote. -/
def patternText : List PatternChar → List Char
  | [] => []
  | ('\\', false) :: (c, _) :: rest => c :: patternText rest
  | (c, _) :: rest => c :: patternText rest

/-- Whether a part of a pattern stands for more than one text. -/
def isOpenPart (part : List PatternChar) : Bool :=
  (Pattern.compile part).any fun
    | .one _ => false
    | _ => true

/-- The paths that the rest of a pattern leads to after a path. -/
def pathsAfter (tree : FileTree) (path : Octets) : List (List PatternChar) → List Octets
  | [] => if isThere tree path then [path] else []
  | part :: rest =>
    let slash := if rest.isEmpty then "" else "/"
    if isOpenPart part then
      let globs := Pattern.compile part
      let showsHidden := (patternText part).head? == some '.'
      let names := (namesIn tree path).filter fun name =>
        (name.toList.head? != some '.' || showsHidden) && Pattern.fits globs name.toList
      names.flatMap fun name => pathsAfter tree s!"{path}{name}{slash}" rest
    else pathsAfter tree s!"{path}{String.ofList (patternText part)}{slash}" rest

/-- The fields that stand for a field: the names of files if it is a pattern that some have. -/
def namesFor (tree : FileTree) (marks : List Mark) : List Octets :=
  let parts := patternParts (patternOf marks)
  if parts.any isOpenPart then
    match pathsAfter tree "" parts with
    | [] => [textOf marks]
    | paths => paths.mergeSort fun a b => a ≤ b
  else [textOf marks]

end Gridface.Shell
