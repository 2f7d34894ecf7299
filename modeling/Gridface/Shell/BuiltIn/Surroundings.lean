import Gridface.Shell.BuiltIn

/-!
# Commands for surroundings

The built-in commands for what a shell hands on to commands besides parameters: the permissions that
new files do not get, and the limits of what can be used.
-/

namespace Gridface.Shell

open Text

/-! ## Permissions -/

namespace Permission

/-- All permissions, as bits: three each for the owner, the group and the others. -/
def all : Nat := 0o777

/-- The bits of the execute permission of those that a letter stands for. -/
def holders? : Char → Option Nat
  | 'a' => some 0o111
  | 'u' => some 0o100
  | 'g' => some 0o010
  | 'o' => some 0o001
  | _ => none

/-- The permissions that a letter stands for, where some are allowed. -/
def granted? (allowed : Nat) : Char → Option Nat
  | 'r' => some 4
  | 'w' => some 2
  | 'x' => some 1
  | 'u' => some (allowed >>> 6)
  | 'g' => some (allowed >>> 3)
  | 'o' => some allowed
  | 'X' => some (if allowed &&& 0o111 = 0 then 0 else 1)
  | 's' => some 0
  | _ => none

/-- What letters at the start stand for together, and what follows them. -/
def union (value? : Char → Option Nat) (bits : Nat) : List Char → Nat × List Char
  | [] => (bits, [])
  | c :: cs =>
    match value? c with
    | some more => union value? (bits ||| more) cs
    | none => (bits, c :: cs)

/-- The permissions after changes in letters, or nothing if they cannot be read. `allowed` are those
before all changes, and `holders` those whom the change before was about, unless a comma follows it.
-/
def change? (allowed : Nat) : Nat → Nat → Nat → List Char → Option Nat
  | 0, _, _, _ => none
  | _ + 1, _, current, [] => some current
  | fuel + 1, holders, current, cs =>
    let (named, cs) := union holders? holders cs
    let holders := if named = 0 then 0o111 else named
    match cs with
    | [] => some current
    | operator :: cs =>
      let (granted, cs) := union (granted? allowed) 0 cs
      let bits := (granted &&& 7) * holders
      let next? :=
        match operator with
        | '+' => some (current ||| bits)
        | '-' => some (current &&& (all - bits))
        | '=' => some (bits ||| (current &&& (all - holders * 7)))
        | _ => none
      match next?, cs with
      | none, _ => none
      | some next, ',' :: cs => change? allowed fuel 0 next cs
      | some next, [] => some next
      | some next, c :: cs =>
        if "=+-".toList.contains c then change? allowed fuel holders next (c :: cs) else none

/-- Bits in letters. -/
def letters (bits : Nat) : String :=
  let letter (bit : Nat) (c : Char) : List Char := if bits &&& bit = 0 then [] else [c]
  String.ofList (letter 4 'r' ++ letter 2 'w' ++ letter 1 'x')

end Permission

namespace Run

/-- Changes the permissions that new files do not get. -/
def changeMask (word : Octets) : Run Nat := do
  let cs := word.toList
  let s ← get
  if cs.head?.any Char.isDigit then
    let (mask, rest) := Octets.readDigits 8 cs.length 0 cs
    if !rest.isEmpty then failNumber word
    else
      set { s with mask := mask &&& Permission.all }
      return 0
  else
    let allowed := Permission.all - s.mask
    match Permission.change? allowed (cs.length + 1) 0 allowed cs with
    | some allowed =>
      set { s with mask := Permission.all - allowed }
      return 0
    | none => fail s!"Illegal mode: {word}"

/-- Shows the permissions that new files do not get, or in letters those that they get; or takes
others. -/
def permissions : BuiltIn := fun arguments => do
  let (options, words) ← readOptions "S" "" arguments
  match words with
  | word :: _ => changeMask word
  | [] =>
    let mask := (← get).mask
    if options.isEmpty then
      let digits := Nat.toDigits 8 mask
      say (String.ofList (List.replicate (4 - digits.length) '0' ++ digits) ++ "\n")
    else
      let allowed := Permission.all - mask
      let letters (shift : Nat) := Permission.letters (allowed >>> shift)
      say s!"u={letters 6},g={letters 3},o={letters 0}\n"

/-! ## Limits -/

/-- The limits of something: one that holds, and the greatest that may be set. Without a number
there is no limit. -/
structure Limit where
  soft : Option Nat := none
  hard : Option Nat := none

/-- What can be limited: its name, its letter, and the limit at first. -/
def limitNames : List (String × Char × Limit) :=
  [("time(seconds)", 't', {}), ("file(blocks)", 'f', {}), ("data(kbytes)", 'd', {}),
    ("stack(kbytes)", 's', { soft := some 8192 }), ("coredump(blocks)", 'c', {}),
    ("memory(kbytes)", 'm', {}), ("locked memory(kbytes)", 'l', {}), ("process", 'p', {}),
    ("nofiles", 'n', { soft := some 1048576, hard := some 1048576 }), ("vmemory(kbytes)", 'v', {}),
    ("locks", 'w', {}), ("rtprio", 'r', { soft := some 0, hard := some 0 })]

/-- Whether one limit allows no more than another. -/
def isWithin : Option Nat → Option Nat → Bool
  | _, none => true
  | none, some _ => false
  | some a, some b => a ≤ b

/-- The text of a limit. -/
def limitText (limit : Option Nat) : Octets := (limit.map toString).getD "unlimited"

/-- The limits of what has a letter. -/
def limitOf (letter : Char) : Run Limit := do
  match (← get).limits.lookup letter with
  | some (soft, hard) => return { soft, hard }
  | none => return ((limitNames.map Prod.snd).lookup letter).getD {}

/-- The limit that a word is. -/
def readLimit (word : Octets) : Run (Option Nat) := do
  let digits := word.toList
  if word = "unlimited" then return none
  else if digits.all Char.isDigit then return (Octets.readDigits 10 digits.length 0 digits).1
  else fail "bad number"

/-- Shows limits, or sets one. Nobody may allow more than the greatest limit does. -/
def changeLimits : BuiltIn := fun arguments => do
  let (options, words) ← readOptions "HSatfdscmlpnvwr" "" arguments
  let (kinds, letters) := (options.map Prod.fst).partition fun c => c == 'H' || c == 'S'
  let kind := kinds.getLast?
  let letter := letters.getLastD 'f'
  let shown (l : Limit) : Octets := limitText (if kind = some 'H' then l.hard else l.soft)
  match words with
  | [] =>
    if letters.contains 'a' then
      let lines ← limitNames.mapM fun (name, letter, _) => do
        let blanks := String.ofList (List.replicate (20 - name.length) ' ')
        return s!"{name}{blanks} {shown (← limitOf letter)}\n"
      say (String.join lines)
    else say s!"{shown (← limitOf letter)}\n"
  | word :: rest =>
    if letters.contains 'a' || !rest.isEmpty then fail "too many arguments"
    else
      let value ← readLimit word
      let before ← limitOf letter
      let after : Limit :=
        { soft := if kind = some 'H' then before.soft else value
          hard := if kind = some 'S' then before.hard else value }
      if !isWithin after.soft after.hard then fail "error setting limit (Invalid argument)"
      else if !isWithin after.hard before.hard then
        fail "error setting limit (Operation not permitted)"
      else
        modify fun s => { s with limits := (letter, after.soft, after.hard) :: s.limits }
        return 0

/-- Shows how long commands have taken. -/
def durations : BuiltIn := fun _ => say "0m0.000000s 0m0.000000s\n0m0.000000s 0m0.000000s\n"

/-- The commands of this kind, by name. -/
def surroundingCommands : List (String × BuiltIn) :=
  [("umask", permissions), ("ulimit", changeLimits), ("times", durations)]

end Run

end Gridface.Shell
