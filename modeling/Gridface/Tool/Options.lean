import Gridface.Tool

/-!
# Options of tools

Options are letters after a minus sign, or names after two. They may stand between the other
arguments, and a name may be cut short if that leaves one option.
-/

namespace Gridface.Tool

open Text

/-- The options that a tool knows. -/
structure OptionTable where
  /-- Letters of options without a value. -/
  letters : List Char
  /-- Letters of options with a value. -/
  valued : List Char := []
  /-- The names of letters. -/
  names : List (String × Char) := []

/-- An option that is given, and its value if it has one. -/
abbrev GivenOption := Char × Octets

/-- What is wrong with options. -/
inductive OptionFault
  | unknownLetter (letter : Char)
  | missingValue (letter : Char)
  | unknownName (name : Octets)
  | ambiguousName (name : Octets) (names : List String)
  | excessValue (name : String)
  | missingNamedValue (name : String)
  deriving DecidableEq, Repr

/-- The complaint about options. -/
def OptionFault.complaint : OptionFault → Octets
  | unknownLetter letter => s!"invalid option -- '{letter}'"
  | missingValue letter => s!"option requires an argument -- '{letter}'"
  | unknownName name => s!"unrecognized option '--{name}'"
  | ambiguousName name names =>
    s!"option '--{name}' is ambiguous; possibilities:" ++
      String.join (names.map fun n => s!" '--{n}'")
  | excessValue name => s!"option '--{name}' doesn't allow an argument"
  | missingNamedValue name => s!"option '--{name}' requires an argument"

/-- What arguments say: options, other arguments, and perhaps what is wrong with the options after
those. -/
structure GivenOptions where
  options : List GivenOption := []
  operands : List Octets := []
  fault : Option OptionFault := none

/-- What arguments say after some options. -/
def GivenOptions.after (g : GivenOptions) (options : List GivenOption) : GivenOptions :=
  { g with options := options ++ g.options }

namespace OptionTable

/-- The options that a group of letters gives, and the arguments left after a value. -/
def readLetters (t : OptionTable) (rest : List Octets) :
    List Char → List GivenOption × Except OptionFault (List Octets)
  | [] => ([], .ok rest)
  | letter :: more =>
    if t.valued.contains letter then
      match more, rest with
      | [], [] => ([], .error (.missingValue letter))
      | [], value :: rest => ([(letter, value)], .ok rest)
      | more, rest => ([(letter, String.ofList more)], .ok rest)
    else if t.letters.contains letter then
      let (options, rest) := t.readLetters rest more
      ((letter, "") :: options, rest)
    else ([], .error (.unknownLetter letter))

/-- The option that a name gives, and the arguments left after a value. -/
def readName (t : OptionTable) (rest : List Octets) (cs : List Char) :
    Except OptionFault (GivenOption × List Octets) :=
  let name := String.ofList (cs.takeWhile (· != '='))
  let value? :=
    match cs.dropWhile (· != '=') with
    | [] => none
    | _ :: value => some (String.ofList value)
  let matching :=
    match t.names.find? (·.1 == name) with
    | some exact => [exact]
    | none => t.names.filter fun n => n.1.startsWith name
  match matching with
  | [] => .error (.unknownName (String.ofList cs))
  | [(name, letter)] =>
    match t.valued.contains letter, value?, rest with
    | false, none, rest => .ok ((letter, ""), rest)
    | false, some _, _ => .error (.excessValue name)
    | true, some value, rest => .ok ((letter, value), rest)
    | true, none, value :: rest => .ok ((letter, value), rest)
    | true, none, [] => .error (.missingNamedValue name)
  | first :: others =>
    if others.all (·.2 == first.2) then .ok ((first.2, value?.getD ""), rest)
    else .error (.ambiguousName (String.ofList cs) (matching.map (·.1)))

/-- The options among some arguments, and the other arguments, up to what is wrong. -/
def readFrom (t : OptionTable) : Nat → List Octets → GivenOptions
  | 0, arguments => { operands := arguments }
  | _ + 1, [] => {}
  | fuel + 1, argument :: rest =>
    match argument.toList with
    | ['-', '-'] => { operands := rest }
    | '-' :: '-' :: name =>
      match t.readName rest name with
      | .ok (option, rest) => (t.readFrom fuel rest).after [option]
      | .error fault => { fault }
    | '-' :: c :: letters =>
      match t.readLetters rest (c :: letters) with
      | (given, .ok rest) => (t.readFrom fuel rest).after given
      | (given, .error fault) => { options := given, fault }
    | _ =>
      let given := t.readFrom fuel rest
      { given with operands := argument :: given.operands }

/-- The options among some arguments, and the other arguments. Each step takes an argument. -/
def read (t : OptionTable) (arguments : List Octets) : GivenOptions :=
  t.readFrom arguments.length arguments

/-- The option that asks how a tool is used. -/
def helpOption : String × Char := ("help", '\x01')

/-- The option that asks for the version of a tool. -/
def versionOption : String × Char := ("version", '\x02')

/-- The table with the options that every tool has. -/
def complete (t : OptionTable) : OptionTable :=
  { t with
    letters := helpOption.2 :: versionOption.2 :: t.letters
    names := t.names ++ [helpOption, versionOption] }

end OptionTable

/-- Complains about how a tool was called. -/
def refuseCall (s : ToolStart) (status : Nat) (complaint : Octets) : ToolRun :=
  let run := ((ToolRun.start s).complain s!"{s.name}: {complaint}").complain
    s!"Try '{s.name} --help' for more information."
  { run with status }

/-- Says how a tool is used. -/
def explain (s : ToolStart) : ToolRun :=
  (ToolRun.start s).write (.ofOctets s!"Usage: {s.name} [OPTION]... [FILE]...\n")

/-- A tool that knows no options but those that every tool has, and those only where nothing else
is given. -/
def withExplanation (tool : Tool) : Tool := fun arguments s =>
  if arguments == ["--help"] || arguments == ["--version"] then
    { explain s with status := (tool arguments s).status }
  else tool arguments s

/-- Runs a tool with its options and its other arguments, if it knows all of the options. An option
may be looked at as soon as it is read, and may end the run. -/
def withCheckedOptions (t : OptionTable) (check : GivenOption → Option ToolRun)
    (arguments : List Octets) (s : ToolStart) (run : List GivenOption → List Octets → ToolRun) :
    ToolRun :=
  let given := t.complete.read arguments
  let isQuestion (o : GivenOption) : Bool :=
    [OptionTable.helpOption.2, OptionTable.versionOption.2].contains o.1
  let stopped? := given.options.findSome? fun o =>
    if isQuestion o then some (explain s) else check o
  match stopped?, given.fault with
  | some run, _ => run
  | none, some fault => refuseCall s 1 fault.complaint
  | none, none => run given.options given.operands

/-- Runs a tool with its options and its other arguments, if it knows all of the options. -/
def withOptions (t : OptionTable) (arguments : List Octets) (s : ToolStart)
    (run : List GivenOption → List Octets → ToolRun) : ToolRun :=
  withCheckedOptions t (fun _ => none) arguments s run

/-- Whether an option is given. -/
def hasOption (options : List GivenOption) (letter : Char) : Bool := options.any (·.1 == letter)

end Gridface.Tool
