import Gridface.FileProblem
import Gridface.Font
import Gridface.Path
import Gridface.Text.Utf8

/-!
# File trees

Files and directories under one root, seen from a working directory. A file holds pieces: bytes, and
fonts as they are compiled.
-/

namespace Gridface

/-- The components that lead from the root to a file or directory. -/
abbrev Place := List String

/-- A piece of a file's content. -/
inductive Piece
  | bytes (data : List UInt8)
  /-- The bytes of a compiled font. They are no text. -/
  | font (font : Font)
  deriving DecidableEq, Repr

/-- What a file holds, piece by piece. -/
abbrev Content := List Piece

namespace Content

/-- The content of some bytes. -/
def ofBytes (data : List UInt8) : Content := if data.isEmpty then [] else [.bytes data]

/-- The content of a text. -/
def ofText (text : String) : Content := ofBytes (Text.utf8Bytes text)

/-- The content of a font's file. -/
def ofFont (font : Font) : Content := [.font font]

/-- The text that the content is, if it is one. -/
def text? (c : Content) : Option String := do
  let data ← c.mapM fun
    | .bytes data => some data
    | .font _ => none
  Text.ofUtf8? data.flatten

/-- The bytes of the content that are known as such. -/
def knownBytes (c : Content) : List UInt8 :=
  c.flatMap fun
    | .bytes data => data
    | .font _ => []

/-- The font that the content begins with; what follows it is no part of the font. -/
def font? : Content → Option Font
  | .font font :: _ => some font
  | _ => none

end Content

/-- What stands at a place. -/
inductive Node
  | directory
  | file (content : Content)
  deriving DecidableEq, Repr

/-- The files and directories that there are, and the directory that relative paths start from. -/
structure FileTree where
  nodes : List (Place × Node)
  workingDir : Place
  /-- When files and directories have changed, as far as that has been said, in nanoseconds since
  the beginning of 1970. All others are of the present. -/
  times : List (Place × Int) := []
  deriving DecidableEq, Repr

namespace FileTree

/-! ## Places -/

/-- The directory in which everything else is. -/
def root : Place := []

/-- What stands at a place; the root is always there. -/
def node? (t : FileTree) (place : Place) : Option Node :=
  if place = root then some .directory else t.nodes.lookup place

/-- The tree in which what stands at a place is of the present. -/
def renew (t : FileTree) (place : Place) : FileTree :=
  { t with times := t.times.filter fun entry => entry.1 != place }

/-- Puts a node at a place, in place of any other. -/
def put (t : FileTree) (place : Place) (node : Node) : FileTree :=
  { t.renew place with nodes := (place, node) :: t.nodes.filter fun n => n.1 != place }

/-- Removes what stands at a place. -/
def erase (t : FileTree) (place : Place) : FileTree :=
  { t.renew place with nodes := t.nodes.filter fun n => n.1 != place }

/-- The present, in nanoseconds since the beginning of 1970. -/
def present : Int := 1790000000000000000

/-- When what stands at a place has changed. -/
def time (t : FileTree) (place : Place) : Int := (t.times.lookup place).getD present

/-- Says when what stands at a place has changed. -/
def setTime (t : FileTree) (place : Place) (time : Int) : FileTree :=
  { t with times := (place, time) :: (t.renew place).times }

/-- The directories on the way to a place, the place included. -/
def wayTo (place : Place) : List Place :=
  (List.range place.length).map fun i => place.take (i + 1)

/-! ## Finding what a path names -/

/-- The longest name of a file, in bytes. -/
def longestName : Nat := 255

/-- A path has fewer bytes. -/
def pathLimit : Nat := 4096

/-- What a path names. -/
inductive Target
  /-- Something that is there. A slash after a file's name asks for a directory, which it is not. -/
  | found (place : Place) (node : Node) (slash : Bool)
  /-- A new name in a directory; a slash after it says that it is to be a directory. -/
  | fresh (place : Place) (slash : Bool)
  deriving DecidableEq, Repr

/-- What the components name from a place on. -/
def walk (t : FileTree) (place : Place) (node : Node) : List String → Except FileProblem Target
  | [] => .ok (.found place node false)
  | name :: rest =>
    if node ≠ .directory then
      if (name :: rest).all (· == "") then .ok (.found place node true) else .error .notADirectory
    else if name = "" ∨ name = "." then t.walk place node rest
    else if name = ".." then t.walk place.dropLast .directory rest
    else if longestName < name.utf8ByteSize then .error .nameTooLong
    else
      match t.node? (place ++ [name]) with
      | some node => t.walk (place ++ [name]) node rest
      | none =>
        if rest.all (· == "") then .ok (.fresh (place ++ [name]) !rest.isEmpty)
        else .error .notFound

/-- What a path names. -/
def locate (t : FileTree) (path : String) : Except FileProblem Target :=
  let cs := path.toList
  if cs.contains '\x00' then .error .nulInPath
  else if cs.isEmpty then .error .notFound
  else if pathLimit ≤ path.utf8ByteSize then .error .nameTooLong
  else
    let start := if Path.isAbsolute path then root else t.workingDir
    t.walk start .directory ((Text.splitAt '/' cs).map String.ofList)

/-! ## Operations -/

/-- The content of the file at a path. -/
def read (t : FileTree) (path : String) : Except FileProblem Content := do
  match ← t.locate path with
  | .found _ (.file content) false => return content
  | .found _ (.file _) true => throw .notADirectory
  | .found _ .directory _ => throw .isADirectory
  | .fresh .. => throw .notFound

/-- The text of the file at a path. -/
def readText (t : FileTree) (path : String) : Except FileProblem String := do
  match (← t.read path).text? with
  | some text => return text
  | none => throw .notText

/-- The tree with the given content in the file at a path. -/
def write (t : FileTree) (path : String) (content : Content) : Except FileProblem FileTree := do
  match ← t.locate path with
  | .found place (.file _) false => return t.put place (.file content)
  | .fresh place false => return t.put place (.file content)
  | .found .. => throw .isADirectory
  | .fresh _ true => throw .isADirectory

/-- The tree without the file at a path. -/
def remove (t : FileTree) (path : String) : Except FileProblem FileTree := do
  match ← t.locate path with
  | .found place (.file _) false => return t.erase place
  | .found _ (.file _) true => throw .notADirectory
  | .found _ .directory _ => throw .isADirectory
  | .fresh .. => throw .notFound

/-- The tree with a new directory at a path. -/
def createDir (t : FileTree) (path : String) : Except FileProblem FileTree := do
  match ← t.locate path with
  | .found .. => throw .alreadyExists
  | .fresh place _ => return t.put place .directory

/-- Whether there is a directory at a path. -/
def isDirectory (t : FileTree) (path : String) : Bool :=
  t.locate path matches .ok (.found _ .directory _)

/-- Whether there is a file at a path. -/
def isFile (t : FileTree) (path : String) : Bool :=
  t.locate path matches .ok (.found _ (.file _) false)

/-- Makes sure that there is a directory at a path that is not below a missing one. -/
def ensureDir (t : FileTree) (path : String) : Except FileProblem Unit × FileTree :=
  match t.createDir path with
  | .ok t => (.ok (), t)
  | .error problem => (if t.isDirectory path then .ok () else .error problem, t)

/-- Makes sure that there are directories at a path and on the way to it; at most so many levels of
the path are missing. -/
def createDirsWithin : Nat → FileTree → String → Except FileProblem Unit × FileTree
  | 0, t, path => t.ensureDir path
  | levels + 1, t, path =>
    if path = "" then (.ok (), t)
    else
      match t.ensureDir path, Path.parent? path with
      | (.error .notFound, t), some above =>
        match createDirsWithin levels t above with
        | (.ok (), t) => t.ensureDir path
        | failure => failure
      | result, _ => result

/-- Makes sure that there are directories at a path and on the way to it. What has been created
stays even if a later level fails. A path has no more levels than characters. -/
def createDirs (t : FileTree) (path : String) : Except FileProblem Unit × FileTree :=
  createDirsWithin (path.length + 1) t path

/-- The files below the working directory, by their paths from there, in order. -/
def files (t : FileTree) : List (String × Content) :=
  let below := t.nodes.filterMap fun n =>
    match n.2 with
    | .file content =>
      if t.workingDir.isPrefixOf n.1 then
        some ("/".intercalate (n.1.drop t.workingDir.length), content)
      else none
    | .directory => none
  below.mergeSort fun a b => a.1 ≤ b.1

end FileTree

end Gridface
