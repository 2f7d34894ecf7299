import Gridface.Shell.Expansion
import Gridface.Shell.Running

/-!
# Redirections

Where the streams of a command lead while it is run.
-/

namespace Gridface.Shell

open Text

namespace Run

/-- A redirection of which the word is known. -/
inductive ReadyRedirect
  | file (stream : Nat) (mode : OpenMode) (path : Octets)
  /-- The stream goes where another one goes, or nowhere. -/
  | duplicate (stream : Nat) (target : Option Nat)
  | document (stream : Nat) (id : Nat)

/-- The stream that is redirected. -/
def ReadyRedirect.stream : ReadyRedirect → Nat
  | file stream _ _ => stream
  | duplicate stream _ => stream
  | document stream _ => stream

/-- Stops because a word is no number of a stream. That is a fault of the script where it has been
read. -/
def failStream {α : Type} : Run α := do
  modify fun s => { s with line := s.lastLine }
  fail "Syntax error: Bad fd number"

/-- Finds out what the word of a redirection stands for. -/
def ready (eval : Evaluate) : Redirect → Run ReadyRedirect
  | .file stream mode word => return .file stream mode (← expandText (capture eval) word)
  | .duplicate stream word => do
    match (← expandText (capture eval) word).toList with
    | ['-'] => return .duplicate stream none
    | [c] =>
      if c.isDigit then return .duplicate stream (some (c.toNat - '0'.toNat))
      else failStream
    | _ => failStream
  | .document stream id => return .document stream id

/-- The stream that a path names. -/
def streamOfPath? (path : Octets) : Option Nat :=
  (List.range 10).find? fun n =>
    path == s!"/dev/fd/{n}" || (["/dev/stdin", "/dev/stdout", "/dev/stderr"][n]?).any (· == path)

/-- Lets a stream lead where a redirection says. -/
def redirect (eval : Evaluate) : ReadyRedirect → Run Unit
  | .file stream mode path => do
    let s ← get
    match (streamOfPath? path).bind fun n => s.streams.lookup n with
    | some channel => connect stream (some channel)
    | none =>
      match s.world.openPath (s.options.contains 'C') mode path.toText with
      | .ok (world, channel) =>
        set { s with world }
        connect stream (some (← addChannel channel))
      | .error fault =>
        let verb := if fault.isNew then "create" else "open"
        fail s!"cannot {verb} {path}: {fault.wording}"
  | .duplicate stream target => do
    match target with
    | none => connect stream none
    | some n =>
      if n != stream then
        match (← get).streams.lookup n with
        | some channel => connect stream (some channel)
        | none =>
          if stream = 2 then connect 2 none
          fail s!"{n}: {Tool.wordingOfClosed}"
  | .document stream id => do
    let text ← expandDocument (capture eval) (((← get).documents.lookup id).getD [])
    connect stream (some (← addChannel (.buffer (.ofOctets text) true)))

/-- Does something with streams redirected; if they cannot be, the status is 2. -/
def withRedirects (eval : Evaluate) (redirects : List Redirect) (isLasting : Bool)
    (whenRefused step : Run Nat) : Run Nat := do
  let rs ← redirects.mapM (ready eval)
  let attempt : Run Nat := do
    let isDone ← tryCatch (rs.forM (redirect eval) *> pure true) fun
      | .fault => return false
      | stop => throw stop
    if isDone then step else whenRefused
  if isLasting || rs.isEmpty then attempt
  else keepingStreams (rs.map ReadyRedirect.stream) attempt

end Run

end Gridface.Shell
