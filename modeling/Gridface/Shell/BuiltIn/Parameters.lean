import Gridface.Shell.BuiltIn

/-!
# Commands for parameters

The built-in commands that give parameters values, take them away and show them.
-/

namespace Gridface.Shell

open Text

namespace Run

/-! ## Options of the shell -/

/-- The names of the options that have letters, and those letters. -/
def optionNames : List (String × Option Char) :=
  [("errexit", some 'e'), ("noglob", some 'f'), ("ignoreeof", some 'I'), ("interactive", some 'i'),
    ("monitor", some 'm'), ("noexec", some 'n'), ("stdin", some 's'), ("xtrace", some 'x'),
    ("verbose", some 'v'), ("vi", some 'V'), ("emacs", some 'E'), ("noclobber", some 'C'),
    ("allexport", some 'a'), ("notify", some 'b'), ("nounset", some 'u'), ("privileged", some 'p'),
    ("nolog", none), ("debug", none)]

/-- The option that cannot be set beside another one. -/
def rivalOption? (letter : Char) : Option Char :=
  if letter = 'V' then some 'E' else if letter = 'E' then some 'V' else none

/-- Sets an option, or takes it back. -/
def setOption (isOn : Bool) (letter : Char) : Run Unit :=
  modify fun s =>
    let others := s.options.filter (· != letter)
    let apart := others.filter (some · != rivalOption? letter)
    { s with options := if isOn then letter :: apart else others }

/-- Takes the option back that asks for control of jobs, for which a terminal is needed. -/
def dropJobControl : Run Unit := do
  if ← hasOption 'm' then
    complain "can't access tty; job control turned off"
    setOption false 'm'

/-- Sets an option that has a letter, or takes it back. -/
def setOptionLetter (isOn : Bool) (letter : Char) : Run Unit := do
  if optionNames.any (·.2 == some letter) then setOption isOn letter
  else fail s!"Illegal option -{letter}"

/-- Sets an option that has a name, or takes it back. -/
def setOptionNamed (isOn : Bool) (name : Octets) : Run Unit := do
  match optionNames.lookup name with
  | some letter? => letter?.forM (setOption isOn)
  | none => fail s!"Illegal option -o {name}"

/-- Shows the options, in words or as commands that set them. -/
def showOptions (inWords : Bool) : Run Unit := do
  let set := (← get).options
  let isSet (letter? : Option Char) : Bool := letter?.any set.contains
  let line (name : String) (letter? : Option Char) : String :=
    if inWords then
      let blanks := String.ofList (List.replicate (16 - name.length) ' ')
      let state := if isSet letter? then "on" else "off"
      s!"{name}{blanks}{state}\n"
    else
      let sign := if isSet letter? then "-" else "+"
      s!"set {sign}o {name}\n"
  let head := if inWords then "Current option settings\n" else ""
  print 1 (head ++ String.join (optionNames.map fun (name, letter?) => line name letter?))

/-- Sets options by letters, and gives the arguments left after names. -/
def setOptionLetters (isOn : Bool) : List Char → List Octets → Run (List Octets)
  | [], rest => return rest
  | 'o' :: cs, rest => do
    match rest with
    | name :: rest =>
      setOptionNamed isOn name
      setOptionLetters isOn cs rest
    | [] =>
      showOptions isOn
      setOptionLetters isOn cs []
  | c :: cs, rest => do
    setOptionLetter isOn c
    setOptionLetters isOn cs rest

/-- Gives the parameters without names values. -/
def setParameters (parameters : List Octets) : Run Unit :=
  modify fun s => { s with parameters, optionIndex := some 0, optionOffset := 0 }

/-- Sets the options that arguments begin with, and gives the arguments after them; nothing says
that there is no argument after options. -/
def setOptions : Nat → List Octets → Run (Option (List Octets))
  | 0, _ => return none
  | fuel + 1, arguments => do
    match arguments with
    | [] => return none
    | argument :: rest =>
      match argument.toList with
      | ['-'] =>
        setOption false 'x'
        setOption false 'v'
        return if rest.isEmpty then none else some rest
      | ['-', '-'] => return some rest
      | '-' :: cs => setOptions fuel (← setOptionLetters true cs rest)
      | '+' :: cs => setOptions fuel (← setOptionLetters false cs rest)
      | _ => return some (argument :: rest)

/-- Shows the parameters that pass, each after a word. -/
def showVariables (word : Octets) (p : Variable → Bool) : Run Nat := do
  let shown := ((← get).bindings.filter fun entry => p entry.2).mergeSort fun a b => a.1 ≤ b.1
  let line (name : Octets) (v : Variable) : Octets :=
    let value := (v.value.map fun value => s!"={quoted value}").getD ""
    s!"{word}{name}{value}\n"
  say (String.join (shown.map fun (name, v) => line name v))

/-- Sets options and the parameters without names, or shows the others. -/
def changeSettings : BuiltIn := fun arguments => do
  if arguments.isEmpty then showVariables "" (·.value.isSome)
  else
    let parameters ← setOptions (arguments.length + 1) arguments
    dropJobControl
    parameters.forM setParameters
    return 0

/-- Drops the first parameters without names. -/
def dropParameters : BuiltIn := fun arguments => do
  let count ← (arguments.head?.map number).getD (pure 1)
  let parameters := (← get).parameters
  if parameters.length < count then fail "can't shift that many"
  else
    setParameters (parameters.drop count)
    return 0

/-! ## Parameters with names -/

/-- The name of a parameter and its value, if the octets have one. -/
def splitAssignment (text : Octets) : Octets × Option Octets :=
  let name := text.toList.takeWhile (· != '=')
  match text.toList.drop name.length with
  | _ :: value => (String.ofList name, some (String.ofList value))
  | [] => (String.ofList name, none)

/-- The name that octets are up to an equals sign. -/
def nameIn (text : Octets) : Run Octets := do
  let (name, _) := splitAssignment text
  if isName name.toList then return name else fail s!"{name}: bad variable name"

/-- Changes a parameter, which is given a value if there is one. -/
def markParameter (change : Variable → Variable) (text : Octets) : Run Unit := do
  let name ← nameIn text
  match (splitAssignment text).2 with
  | some value => assign name value
  | none => pure ()
  putVariable name (some (change (← variableNamed name)))

/-- Lets commands be given parameters, or shows those that are. -/
def exportParameters (word : Octets) (p : Variable → Bool) (change : Variable → Variable) :
    BuiltIn :=
  fun arguments => do
    let (options, names) ← readOptions "p" "" arguments
    if !options.isEmpty || names.isEmpty then showVariables s!"{word} " p
    else
      names.forM (markParameter change)
      return 0

/-- Lets parameters be as before when the function ends. -/
def localParameters : BuiltIn := fun arguments => do
  if (← get).frames.isEmpty then fail "not in a function"
  else
    arguments.forM fun text => do
      if text = "-" then keepOptions
      else
        match splitAssignment text with
        | (name, some value) =>
          keepVariable name
          assign name value
        | (_, none) => keepVariable (← nameIn text)
    return 0

/-- Removes parameters or functions. -/
def removeNamed : BuiltIn := fun arguments => do
  let (options, names) ← readOptions "vf" "" arguments
  names.forM fun text => do
    if options.getLast?.any (·.1 == 'f') then
      modify fun s => { s with functions := s.functions.filter fun f => f.1 != text }
    else
      dropVariable (← nameIn text)
  return 0

/-! ## Reading -/

/-- The characters of a line, each with whether a backslash is before it, how many have been taken,
and whether the line ends. -/
def lineFrom (isRaw : Bool) : Nat → List Char → List (Char × Bool) × Nat × Bool
  | count, [] => ([], count, false)
  | count, '\n' :: _ => ([], count + 1, true)
  | count, c :: cs =>
    if c = '\\' && !isRaw then
      match cs with
      | [] => ([], count + 1, false)
      | '\n' :: rest => lineFrom isRaw (count + 2) rest
      | d :: rest =>
        let (line, rest) := lineFrom isRaw (count + 2) rest
        ((d, true) :: line, rest)
    else
      let (line, rest) := lineFrom isRaw (count + 1) cs
      ((c, false) :: line, rest)

/-- Gives parameters the fields of a line; those left over are empty. -/
def assignFields : List Octets → List Octets → Run Unit
  | [], _ => return
  | name :: names, fields => do
    assign (← nameIn name) (fields.headD "")
    assignFields names (fields.drop 1)

/-- Reads a line and gives parameters its fields. -/
def readFields : BuiltIn := fun arguments => do
  let (options, names) ← readOptions "r" "p" arguments
  if names.isEmpty then fail "arg count"
  else
    match ← unread 0 with
    | none =>
      assignFields names []
      return 1
    | some content =>
      let octets := (Octets.ofBytes content.knownBytes).toList
      let (line, count, ends) := lineFrom (options.any (·.1 == 'r')) 0 octets
      skipInput 0 count
      let kept := line.filter (·.1 != '\x00')
      let piece (c : Char × Bool) : FieldPiece :=
        { marks := [.char c.1 c.2], parting := if c.2 then .whole else .blanks }
      let fields := fieldsOf (← dividers) (some names.length) (kept.map piece)
      assignFields names (fields.map textOf)
      return if ends then 0 else 1

/-! ## Options of scripts -/

/-- What has been found where an option was looked for. -/
structure FoundOption where
  letter : Char
  /-- The value that is noted with the option; nothing takes the last one away. -/
  value : Option Octets
  /-- How many arguments have been looked through. -/
  index : Nat
  /-- How many letters of the last of them have been looked at, if some are left. -/
  offset : Nat := 0

/-- Looks for a letter in the text that says which options there are. -/
def optionKind? (letter : Char) : List Char → Option Bool
  | [] => none
  | c :: ':' :: cs => if c == letter then some true else optionKind? letter cs
  | c :: cs => if c == letter then some false else optionKind? letter cs

/-- What is found at an option letter, before other letters of the argument and the arguments after
it. -/
def findOption (known : List Char) (index offset : Nat) (letter : Char) (more : List Char)
    (rest : List Octets) : Run FoundOption := do
  let isQuiet := known.head? == some ':'
  let offset := if more.isEmpty then 0 else offset
  match optionKind? letter known with
  | none =>
    if isQuiet then return { letter := '?', value := some letter.toString, index, offset }
    else
      print 2 s!"Illegal option -{letter}\n"
      return { letter := '?', value := none, index, offset }
  | some false => return { letter, value := some "", index, offset }
  | some true =>
    match more, rest with
    | [], [] =>
      if isQuiet then return { letter := ':', value := some letter.toString, index }
      else
        print 2 s!"No arg for -{letter} option\n"
        return { letter := '?', value := none, index }
    | [], value :: _ => return { letter, value := some value, index := index + 1 }
    | more, _ => return { letter, value := some (String.ofList more), index }

/-- Looks for the next option among arguments of which so many have been looked through, and notes
in a parameter which one it is. The search starts over if that is not possible. -/
def nextOption (known name : Octets) (arguments : List Octets) (start : Nat) : Run Nat := do
  let s ← get
  modify fun s => { s with optionIndex := none }
  let finish (letter : Char) (index offset : Nat) : Run Unit := do
    note "OPTIND" (toString (index + 1))
    assign (← nameIn name) letter.toString
    modify fun s => { s with optionIndex := some index, optionOffset := offset }
  let begun := if start = 0 || s.optionOffset = 0 then [] else
    ((arguments.getD (start - 1) "").toList.drop s.optionOffset)
  let found (index offset : Nat) (letter : Char) (more : List Char) : Run Nat := do
    let o ← findOption known.toList index offset letter more (arguments.drop index)
    match o.value with
    | some value => assign "OPTARG" value
    | none => dropVariable "OPTARG"
    finish o.letter o.index o.offset
    return 0
  match begun with
  | letter :: more => found start (s.optionOffset + 1) letter more
  | [] =>
    match (arguments.getD start "").toList with
    | ['-', '-'] =>
      finish '?' (start + 1) 0
      return 1
    | '-' :: letter :: more => found (start + 1) 2 letter more
    | _ =>
      finish '?' start 0
      return 1

/-- Looks for the next option of the script. -/
def getOptions : BuiltIn := fun arguments => do
  match arguments with
  | known :: name :: rest =>
    let s ← get
    let own := if rest.isEmpty then s.parameters else rest
    nextOption known name own ((s.optionIndex.filter (· ≤ own.length)).getD 0)
  | _ => fail "Usage: getopts optstring var [arg...]"

end Run

end Gridface.Shell
