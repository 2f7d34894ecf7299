import Gridface.FileTree
import Gridface.Text.Octets

/-!
# Tools

Small commands that read and change a file tree. They stand in for outside commands where a build
runs over a file tree.
-/

namespace Gridface

/-- The streams that a tool writes to. -/
inductive ToolStream
  | output
  | complaints
  deriving DecidableEq, Repr

/-- What a tool is given besides its arguments. -/
structure ToolStart where
  /-- What the tool is called. -/
  name : Text.Octets
  tree : FileTree
  /-- What there is to read, or why nothing can be read; the input may be one that is not for
  reading. -/
  input : Option (Except FileProblem Content) := some (.ok [])
  /-- The input comes from somewhere. -/
  hasInput : Bool := true
  /-- The file that is read, if it is one. -/
  inputFile : Option Place := none
  /-- The file that the output goes to, if it goes to one. -/
  outputFile : Option Place := none
  /-- The output goes somewhere. -/
  hasOutput : Bool := true

/-- What a tool did: what it wrote, in order, its exit status, and the tree after it. -/
structure ToolRun where
  written : List (ToolStream × Content) := []
  status : Nat := 0
  tree : FileTree
  /-- Whether what there was to read has been read. -/
  hasRead : Bool := false

/-- A tool, given its arguments and what it starts from. -/
abbrev Tool := List Text.Octets → ToolStart → ToolRun

namespace Content

/-- The content of some octets. -/
def ofOctets (o : Text.Octets) : Content := ofBytes o.toBytes

/-- One content after another. Bytes that meet become one piece. -/
def append : Content → Content → Content
  | [], b => b
  | [.bytes x], .bytes y :: b => .bytes (x ++ y) :: b
  | piece :: a, b => piece :: append a b

/-- Whether no byte is in the content. -/
def isEmpty (c : Content) : Bool := List.isEmpty c

end Content

namespace ToolRun

/-- The run that does nothing. -/
def start (s : ToolStart) : ToolRun := { tree := s.tree }

/-- The run with something more written to its output. -/
def write (run : ToolRun) (content : Content) : ToolRun :=
  { run with written := run.written ++ [(.output, content)] }

/-- The run with a line more among its complaints. -/
def note (run : ToolRun) (complaint : Text.Octets) : ToolRun :=
  { run with written := run.written ++ [(.complaints, .ofOctets (complaint ++ "\n"))] }

/-- The run with a complaint, and without success. -/
def complain (run : ToolRun) (complaint : Text.Octets) : ToolRun :=
  { run.note complaint with status := 1 }

/-- What the run has written to a stream. -/
def content (run : ToolRun) (stream : ToolStream) : Content :=
  (run.written.filter (·.1 == stream)).foldl (fun c w => c.append w.2) []

end ToolRun

namespace Tool

open Text

/-- The usual wording of a file problem. -/
def wording : FileProblem → String
  | .notFound => "No such file or directory"
  | .isADirectory => "Is a directory"
  | .notADirectory => "Not a directory"
  | .alreadyExists => "File exists"
  | .notText => "Invalid argument"
  | .nameTooLong => "File name too long"
  | .nulInPath => "Invalid argument"
  | .nulInCommand => "Invalid argument"
  | .permissionDenied => "Permission denied"

/-- What is said of a stream that leads nowhere. -/
def wordingOfClosed : String := "Bad file descriptor"

/-- What is said of a device that takes nothing more. -/
def wordingOfFull : String := "No space left on device"

/-- What is said of a terminal that is not there. -/
def wordingOfNoTerminal : String := "No such device or address"

/-- How a tool was built: on its own, or into a shell. Built-in tools know fewer escapes and word
their complaints differently. -/
inductive Dialect
  | standalone
  | builtIn
  deriving DecidableEq, Repr

/-- Does nothing, with success. -/
def succeed : Tool := fun _ s => .start s

/-- Does nothing, without success. -/
def refuse : Tool := fun _ s => { ToolRun.start s with status := 1 }

end Tool

end Gridface
