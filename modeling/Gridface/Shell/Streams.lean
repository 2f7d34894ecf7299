import Gridface.Shell.Script
import Gridface.Tool
import Gridface.Tool.System

/-!
# Streams

What the streams of commands lead to, and what all the commands of a script share: the file tree,
and what has been written. A stream that is duplicated leads to the same channel, so that both move
on together.
-/

namespace Gridface

namespace Content

/-- The number of pieces, where each byte is one. -/
def size (c : Content) : Nat :=
  c.foldl (fun n piece =>
    match piece with
    | .bytes data => n + data.length
    | .font _ => n + 1) 0

/-- The content without so many pieces at the front. -/
def drop : Nat → Content → Content
  | 0, c => c
  | _ + 1, [] => []
  | n + 1, .font _ :: rest => drop n rest
  | n + 1, .bytes data :: rest =>
    if data.length ≤ n + 1 then drop (n + 1 - data.length) rest
    else .bytes (data.drop (n + 1)) :: rest
termination_by _ c => c.length

/-- So many pieces at the front of the content. -/
def take : Nat → Content → Content
  | 0, _ => []
  | _ + 1, [] => []
  | n + 1, .font f :: rest => .font f :: take n rest
  | n + 1, .bytes data :: rest =>
    if data.length ≤ n + 1 then .bytes data :: take (n + 1 - data.length) rest
    else [.bytes (data.take (n + 1))]
termination_by _ c => c.length

/-- The content with another one written over it from a place on; zeros fill a gap before. -/
def overwrite (c : Content) (offset : Nat) (new : Content) : Content :=
  let gap := offset - c.size
  ((c.take offset).append (ofBytes (List.replicate gap 0))).append
    (new.append (c.drop (offset + new.size)))

end Content

namespace Shell

/-- A file that is open. -/
structure OpenFile where
  place : Place
  offset : Nat := 0
  canRead : Bool
  canWrite : Bool
  /-- Whatever is written goes to the end. -/
  appends : Bool := false

/-- Why nothing can be written to a stream. -/
inductive WriteFault
  /-- The stream leads nowhere, or is not for writing. -/
  | closed
  /-- There is no room for anything more. -/
  | full
  deriving DecidableEq, Repr

/-- The wording of a fault. -/
def WriteFault.wording : WriteFault → String
  | closed => Tool.wordingOfClosed
  | full => Tool.wordingOfFull

/-- What a stream leads to. -/
inductive Channel
  | output
  | complaints
  | device (device : Device) (canRead canWrite : Bool)
  /-- What is written can be read, but not before all of it has been written. -/
  | buffer (content : Content) (isFilled : Bool)
  | file (file : OpenFile)
  | directory

/-- A signal that has been sent and not been seen. -/
structure Sent where
  /-- The process that the signal was sent to. -/
  target : Nat
  signal : Nat
  /-- The signal has come since the last time that what is to be done about signals was done. -/
  isFresh : Bool := true
  deriving DecidableEq, Repr

/-- What all the commands of a script share. -/
structure World where
  tree : FileTree
  channels : List (Nat × Channel) :=
    [(0, .device .null true false), (1, .output), (2, .complaints)]
  nextChannel : Nat := 3
  /-- What has been written to the channels that leave the script, the last first. -/
  written : List (ToolStream × Content) := []
  /-- The signals that have been sent and not been seen. -/
  signals : List Sent := []
  /-- The number of the process that was started last. -/
  lastProcess : Nat := 4711

namespace World

/-- The world with one more channel, and its number. -/
def add (w : World) (c : Channel) : World × Nat :=
  ({ w with channels := (w.nextChannel, c) :: w.channels, nextChannel := w.nextChannel + 1 },
    w.nextChannel)

/-- The world with a channel changed. -/
def set (w : World) (id : Nat) (c : Channel) : World :=
  { w with channels := w.channels.map fun entry => if entry.1 = id then (id, c) else entry }

/-- The world without the channels from a number on to which none of the streams leads. -/
def close (w : World) (id : Nat) (streams : List (Nat × Nat)) : World :=
  { w with
    channels := w.channels.filter fun entry => entry.1 < id || streams.any (·.2 == entry.1) }

/-- The content of a file, if it is still there. -/
def fileContent (w : World) (place : Place) : Content :=
  match w.tree.node? place with
  | some (.file content) => content
  | _ => []

/-- What is left to read on a channel, or nothing if it cannot be read. -/
def unread? (w : World) (id : Nat) : Option Content :=
  match w.channels.lookup id with
  | some (.device _ canRead _) => if canRead then some [] else none
  | some (.buffer content isFilled) => if isFilled then some content else none
  | some (.file f) => if f.canRead then some ((w.fileContent f.place).drop f.offset) else none
  | _ => none

/-- The world after so many pieces have been read on a channel. -/
def skip (w : World) (id count : Nat) : World :=
  match w.channels.lookup id with
  | some (.buffer content isFilled) => w.set id (.buffer (content.drop count) isFilled)
  | some (.file f) => w.set id (.file { f with offset := f.offset + count })
  | _ => w

/-- The world after something has been written to a channel. -/
def write (w : World) (id : Nat) (content : Content) : Except WriteFault World :=
  match w.channels.lookup id with
  | some .output => .ok { w with written := (.output, content) :: w.written }
  | some .complaints => .ok { w with written := (.complaints, content) :: w.written }
  | some (.device device _ canWrite) =>
    if !canWrite then .error .closed else if device = .full then .error .full else .ok w
  | some (.buffer before isFilled) =>
    if isFilled then .error .closed else .ok (w.set id (.buffer (before.append content) false))
  | some (.file f) =>
    if f.canWrite then
      match w.tree.node? f.place with
      | some (.file before) =>
        let offset := if f.appends then before.size else f.offset
        let tree := w.tree.put f.place (.file (before.overwrite offset content))
        .ok ({ w with tree }.set id (.file { f with offset := offset + content.size }))
      | _ => .ok w
    else .error .closed
  | _ => .error .closed

/-- The world in which all has been written to a buffer. -/
def fill (w : World) (id : Nat) : World :=
  match w.channels.lookup id with
  | some (.buffer content _) => w.set id (.buffer content true)
  | _ => w

/-- What has been written to a channel that leaves the script. -/
def content (w : World) (stream : ToolStream) : Content :=
  (w.written.filter (·.1 == stream)).foldl (fun c entry => entry.2.append c) []

end World

/-! ## Opening files -/

/-- Why a file cannot be opened. -/
structure OpenFault where
  /-- The problem that there is with the file; without one it is a terminal that is not there. -/
  problem : Option FileProblem
  /-- The file was to be created. -/
  isNew : Bool

/-- The wording of a fault. -/
def OpenFault.wording (f : OpenFault) : String :=
  match f.problem with
  | none => Tool.wordingOfNoTerminal
  | some .notFound => if f.isNew then "Directory nonexistent" else "No such file"
  | some .notADirectory => if f.isNew then "Directory nonexistent" else "No such file"
  | some problem => Tool.wording problem

namespace World

/-- Opens the file at a path, which is empty at first if that is asked for. -/
def openFile (w : World) (path : String) (mode : OpenMode) (file : Place → OpenFile)
    (keeps : Bool) : Except OpenFault (World × Channel) := do
  let isNew := mode != .read
  let refuse {α : Type} (problem : FileProblem) : Except OpenFault α :=
    throw { problem := some problem, isNew }
  match w.tree.locate path with
  | .error problem => refuse problem
  | .ok (.found _ .directory _) => if isNew then refuse .isADirectory else return (w, .directory)
  | .ok (.found _ (.file _) true) => refuse (if isNew then .isADirectory else .notADirectory)
  | .ok (.found place (.file _) false) =>
    let tree := if keeps then w.tree else w.tree.put place (.file [])
    return ({ w with tree }, .file (file place))
  | .ok (.fresh place slash) =>
    if !isNew then refuse .notFound
    else if slash then refuse .isADirectory
    else return ({ w with tree := w.tree.put place (.file []) }, .file (file place))

/-- The world with the file at a path open, and the channel to it. If files are to be kept, none is
overwritten unless that is asked for. -/
def openPath (w : World) (keepsFiles : Bool) (mode : OpenMode) (path : String) :
    Except OpenFault (World × Channel) :=
  match w.tree.device? path with
  | some .terminal => .error { problem := none, isNew := mode != .read }
  | some device =>
    .ok (w, .device device (mode matches .read | .readWrite) (mode != .read))
  | none =>
    match mode with
    | .read =>
      w.openFile path mode (fun place => { place, canRead := true, canWrite := false }) true
    | .readWrite =>
      w.openFile path mode (fun place => { place, canRead := true, canWrite := true }) true
    | .append =>
      w.openFile path mode
        (fun place => { place, canRead := false, canWrite := true, appends := true }) true
    | .overwrite =>
      w.openFile path mode (fun place => { place, canRead := false, canWrite := true }) false
    | .write =>
      if keepsFiles && w.tree.isFile path then .error ⟨some .alreadyExists, true⟩
      else w.openFile path mode (fun place => { place, canRead := false, canWrite := true }) false

end World

end Shell

end Gridface
