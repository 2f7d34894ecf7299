import Gridface.Tool.Options
import Gridface.Tool.Quoting
import Gridface.Tool.System

/-!
# Showing files

The tool that writes files one after another. Lines can be numbered, and what cannot be seen can be
made visible.
-/

namespace Gridface.Tool

open Text

/-- How files are shown. -/
structure CatStyle where
  /-- Lines are numbered. -/
  numbers : Bool
  /-- Empty lines are not numbered. -/
  skipsEmpty : Bool
  /-- Of several empty lines one is shown. -/
  squeezes : Bool
  /-- A dollar sign marks the end of a line. -/
  marksEnds : Bool
  marksTabs : Bool
  marksUnseen : Bool

/-- The style that options ask for. -/
def CatStyle.ofOptions (options : List GivenOption) : CatStyle :=
  let has := hasOption options
  { numbers := has 'n' || has 'b'
    skipsEmpty := has 'b'
    squeezes := has 's'
    marksEnds := has 'E' || has 'A' || has 'e'
    marksTabs := has 'T' || has 'A' || has 't'
    marksUnseen := has 'v' || has 'A' || has 'e' || has 't' }

/-- Whether files are shown as they are. -/
def CatStyle.isPlain (s : CatStyle) : Bool :=
  !(s.numbers || s.squeezes || s.marksEnds || s.marksTabs || s.marksUnseen)

/-- Where in its lines a text has got to. -/
inductive LinePlace
  | start
  | within
  /-- After an empty line. -/
  | emptied
  deriving DecidableEq, Repr

/-- What there is to know of the text that has been shown. -/
structure CatState where
  place : LinePlace := .start
  /-- How many lines have been numbered. -/
  numbered : Nat := 0
  /-- A carriage return has been held back, because a line end after it changes how it is shown. -/
  heldReturn : Bool := false

/-- The number of the next line, as it is shown. -/
def CatState.lineNumber (t : CatState) : List Char :=
  let digits := Nat.toDigits 10 (t.numbered + 1)
  List.replicate (6 - digits.length) ' ' ++ digits ++ ['\t']

/-- An octet made visible. -/
def visible (c : Char) : List Char :=
  let low (c : Char) : List Char :=
    if c.toNat < 32 then ['^', Char.ofNat (c.toNat + 64)]
    else if c.toNat = 127 then ['^', '?']
    else [c]
  if c.toNat < 128 then low c else 'M' :: '-' :: low (Char.ofNat (c.toNat - 128))

/-- An octet that ends no line, as it is shown. -/
def CatStyle.show (s : CatStyle) (c : Char) : List Char :=
  if c = '\t' then if s.marksTabs then ['^', 'I'] else ['\t']
  else if s.marksUnseen then visible c
  else [c]

/-- Shows the end of a line. -/
def CatStyle.endLine (s : CatStyle) (t : CatState) : List Char × CatState :=
  let held := if t.heldReturn then ['^', 'M'] else []
  let ending := held ++ (if s.marksEnds then ['$'] else []) ++ ['\n']
  let t := { t with heldReturn := false }
  match t.place with
  | .within => (ending, { t with place := .start })
  | place =>
    if place = .emptied && s.squeezes then ([], t)
    else if s.numbers && !s.skipsEmpty then
      (t.lineNumber ++ ending, { t with place := .emptied, numbered := t.numbered + 1 })
    else (ending, { t with place := .emptied })

/-- Shows an octet that ends no line. -/
def CatStyle.step (s : CatStyle) (t : CatState) (c : Char) : List Char × CatState :=
  let held := if t.heldReturn then ['\x0d'] else []
  let t := { t with heldReturn := false }
  let number := if t.place ≠ .within && s.numbers then t.lineNumber else []
  let numbered := if number.isEmpty then t.numbered else t.numbered + 1
  let t := { t with place := .within, numbered }
  if c = '\x0d' && s.marksEnds && !s.marksUnseen then
    (held ++ number, { t with heldReturn := true })
  else (held ++ number ++ s.show c, t)

/-- Shows some octets, with what is shown before them in reverse. -/
def CatStyle.render (s : CatStyle) (shown : List Char) (t : CatState) :
    List Char → List Char × CatState
  | [] => (shown.reverse, t)
  | c :: cs =>
    let (more, t) := if c = '\n' then s.endLine t else s.step t c
    s.render (more.reverse ++ shown) t cs

/-- Shows a content. A font is shown as it is. -/
def CatStyle.renderContent (s : CatStyle) (t : CatState) : Content → Content × CatState
  | [] => ([], t)
  | .bytes data :: rest =>
    let (cs, t) := s.render [] t (Octets.ofBytes data).toList
    let (more, t) := s.renderContent t rest
    ((Content.ofOctets (String.ofList cs)).append more, t)
  | piece :: rest =>
    let (more, t) := s.renderContent t rest
    (piece :: more, t)

/-- The options of the tool. -/
def catOptions : OptionTable where
  letters := "AbeEnstTuv".toList
  names := [("number-nonblank", 'b'), ("number", 'n'), ("squeeze-blank", 's'),
    ("show-nonprinting", 'v'), ("show-ends", 'E'), ("show-tabs", 'T'), ("show-all", 'A')]

/-- The file that a name leads to. -/
def fileNamed (s : ToolStart) (name : Octets) : Option Place :=
  if name = "-" then s.inputFile else s.tree.placeOf? name.toText

/-- Whether a file is the one that the output goes to, so that showing it would never end. -/
def feedsItself (s : ToolStart) (name : Octets) (content : Content) : Bool :=
  s.outputFile.isSome && s.outputFile == fileNamed s name && !content.isEmpty

/-- Shows one of the files that are named. -/
def catFile (style : CatStyle) (s : ToolStart) (p : ToolRun × CatState) (name : Octets) :
    ToolRun × CatState :=
  let (run, t) := p
  let showContent (content : Content) : ToolRun × CatState :=
    if style.isPlain then (run.write content, t)
    else
      let (content, t) := style.renderContent t content
      (run.write content, t)
  let result :=
    if name = "-" then if run.hasRead then some (.ok []) else s.input
    else some (s.tree.read name.toText)
  let complain (wording : String) := (run.complain s!"{s.name}: {shown name}: {wording}", t)
  let (run, t) :=
    if name != "-" && s.tree.device? name.toText == some .terminal then
      complain wordingOfNoTerminal
    else
      match result with
      | some (.ok content) =>
        if feedsItself s name content then complain "input file is output file"
        else showContent content
      | some (.error problem) => complain (wording problem)
      | none => complain wordingOfClosed
  ({ run with hasRead := run.hasRead || name == "-" }, t)

/-- Complains, after the input was to be read, if it is closed. -/
def checkInput (s : ToolStart) (run : ToolRun) : ToolRun :=
  if run.hasRead && !s.hasInput then
    run.complain s!"{s.name}: closing standard input: {wordingOfClosed}"
  else run

/-- Writes what it reads and the files that its arguments name. -/
def cat : Tool := fun arguments s =>
  withOptions catOptions arguments s fun options names =>
    if !s.hasOutput then
      (ToolRun.start s).complain s!"{s.name}: standard output: {wordingOfClosed}"
    else
      let names := if names.isEmpty then ["-"] else names
      let (run, t) := names.foldl (catFile (.ofOptions options) s) (.start s, {})
      checkInput s (if t.heldReturn then run.write (.ofOctets "\x0d") else run)

end Gridface.Tool
