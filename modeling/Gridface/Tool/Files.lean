import Gridface.Tool.Dates
import Gridface.Tool.Options
import Gridface.Tool.Quoting
import Gridface.Tool.System

/-!
# Tools for files

The tools that create, copy and remove files.
-/

namespace Gridface.Tool

open Text

/-- Runs a tool for each of its operands, of which there must be one. -/
def forOperands (t : OptionTable) (arguments : List Octets) (s : ToolStart)
    (step : List GivenOption → ToolRun → Octets → ToolRun) : ToolRun :=
  withOptions t arguments s fun options names =>
    if names.isEmpty then refuseCall s 1 "missing operand"
    else names.foldl (step options) (.start s)

/-! ## Creating -/

/-- The letter that stands for the option which says what time of a file is meant. -/
def kindOfTime : Char := '\x03'

/-- The options of the tool that creates files. -/
def touchOptions : OptionTable where
  letters := "acfhm".toList
  valued := kindOfTime :: "drt".toList
  names := [("time", kindOfTime), ("no-create", 'c'), ("date", 'd'), ("reference", 'r'),
    ("no-dereference", 'h')]

/-- The words for the times of a file, and whether they mean the time of its last change. -/
def timeWords : List (String × Bool) :=
  [("atime", false), ("access", false), ("use", false), ("mtime", true), ("modify", true)]

/-- Whether the time of the last change is meant by a word, which may be cut short. -/
def isChangeTime? (word : Octets) : Except String Bool :=
  let meant := timeWords.filter fun entry => entry.1.startsWith word
  match timeWords.lookup word, meant with
  | some answer, _ => .ok answer
  | none, [] => .error "invalid"
  | none, (_, answer) :: others =>
    if others.all (·.2 == answer) then .ok answer else .error "ambiguous"

/-- Complains about a word for a time of a file. -/
def refuseTimeWord (s : ToolStart) (word : Octets) (fault : String) : ToolRun :=
  let line (isChange : Bool) : Octets :=
    let words := (timeWords.filter (·.2 == isChange)).map fun entry => cited entry.1
    "  - " ++ ", ".intercalate words
  let run := (ToolRun.start s).complain
    (s!"{s.name}: {fault} argument {cited word} for " ++ cited "--time")
  ((run.complain "Valid arguments are:").complain (line false)).complain (line true)
    |>.complain s!"Try '{s.name} --help' for more information."

/-- The year of the present. -/
def thisYear : Int := (Moment.ofSeconds (FileTree.present / nanosecondsOfSecond)).year

/-- Complains about a date. -/
def refuseDate (s : ToolStart) (text : Octets) : ToolRun :=
  (ToolRun.start s).complain s!"{s.name}: invalid date format {cited text}"

/-- What is wrong with an option as soon as it is read. -/
def checkTouchOption (s : ToolStart) (o : GivenOption) : Option ToolRun :=
  if o.1 = 't' && (secondsOfDigits? thisYear o.2).isNone then some (refuseDate s o.2)
  else if o.1 = kindOfTime then
    match isChangeTime? o.2 with
    | .ok _ => none
    | .error fault => some (refuseTimeWord s o.2 fault)
  else none

/-- How files are touched. -/
structure TouchStyle where
  /-- Files that are not there are created. -/
  creates : Bool
  /-- Nothing is said of files that are not there. -/
  ignoresMissing : Bool
  /-- The time that files are said to have changed, if that is not the present. -/
  time : Option Int
  /-- Whether it is said when files have changed. -/
  setsTime : Bool

/-- Notes when what stands at a place has changed. -/
def TouchStyle.note (style : TouchStyle) (tree : FileTree) (place : Place) : FileTree :=
  if !style.setsTime then tree
  else
    match style.time with
    | some time => tree.setTime place time
    | none => tree.renew place

/-- Creates a file unless it is there, or unless none is to be created. -/
def touchFile (s : ToolStart) (style : TouchStyle) (run : ToolRun) (name : Octets) : ToolRun :=
  let path := name.toText
  let refused (what : String) (problem : FileProblem) : ToolRun :=
    run.complain s!"{s.name}: {what} {quotedName name}: {wording problem}"
  let untimed (problem : FileProblem) : ToolRun :=
    if style.ignoresMissing && problem == .notFound then run
    else refused "setting times of" problem
  if name = "-" || (run.tree.device? path).isSome then run
  else
    match run.tree.locate path with
    | .ok (.found _ (.file _) true) => untimed .notADirectory
    | .ok (.found place _ _) => { run with tree := style.note run.tree place }
    | .ok (.fresh place slash) =>
      if slash || !style.creates then untimed .notFound
      else
        match run.tree.write path [] with
        | .ok tree => { run with tree := style.note tree place }
        | .error problem => refused "cannot touch" problem
    | .error problem => if style.creates then refused "cannot touch" problem else untimed problem

/-- The time that options tell, if they tell one. -/
def timeOfOptions (s : ToolStart) (options : List GivenOption) : Except ToolRun (Option Int) := do
  let last (letter : Char) : Option Octets :=
    ((options.filter (·.1 == letter)).getLast?).map Prod.snd
  let reference ←
    match last 'r' with
    | none => pure none
    | some name =>
      match s.tree.placeOf? name.toText with
      | some place => pure (some (s.tree.time place))
      | none =>
        throw <| (ToolRun.start s).complain
          s!"{s.name}: failed to get attributes of {quotedName name}: {wording .notFound}"
  match last 't', last 'd' with
  | some digits, none =>
    if reference.isSome then throw (refuseCall s 1 "cannot specify times from more than one source")
    else return (secondsOfDigits? thisYear digits).map (· * nanosecondsOfSecond)
  | some _, some _ => throw (refuseCall s 1 "cannot specify times from more than one source")
  | none, some words =>
    match momentOfWords? (reference.getD FileTree.present) words with
    | some time => return some time
    | none => throw (refuseDate s words)
  | none, none => return reference

/-- Creates the files that its arguments name, unless they are there. -/
def touch : Tool := fun arguments s =>
  withCheckedOptions touchOptions (checkTouchOption s) arguments s fun options names =>
    match timeOfOptions s options with
    | .error run => run
    | .ok time =>
      let has := hasOption options
      let isChange (o : GivenOption) : Bool :=
        o.1 == 'm' || (o.1 == kindOfTime && (isChangeTime? o.2).toOption == some true)
      let isAccess (o : GivenOption) : Bool :=
        o.1 == 'a' || (o.1 == kindOfTime && (isChangeTime? o.2).toOption == some false)
      let style : TouchStyle :=
        { creates := !(has 'c' || has 'h')
          ignoresMissing := has 'c'
          time
          setsTime := options.any isChange || !options.any isAccess }
      if names.isEmpty then refuseCall s 1 "missing file operand"
      else names.foldl (touchFile s style) (.start s)

/-- Creates the directories that its arguments name. -/
def makeDirectory : Tool := fun arguments s =>
  forOperands { letters := ['p', 'v'], valued := ['m'], names := [("parents", 'p')] } arguments s
    fun options run name =>
      let path := name.toText
      let (result, tree) :=
        if hasOption options 'p' then run.tree.createDirs path
        else
          match run.tree.createDir path with
          | .ok tree => (.ok (), tree)
          | .error problem => (.error problem, run.tree)
      match result with
      | .ok () => { run with tree }
      | .error problem =>
        { run with tree }.complain
          s!"{s.name}: cannot create directory {cited name}: {wording problem}"

/-! ## Removing -/

/-- The tree without a directory and what is below it. -/
def withoutBelow (tree : FileTree) (place : Place) : FileTree :=
  { tree with nodes := tree.nodes.filter fun n => !place.isPrefixOf n.1 }

/-- The options of the tool that removes files. -/
def removeOptions : OptionTable where
  letters := "dfiIrRv".toList
  names := [("force", 'f'), ("recursive", 'r'), ("dir", 'd'), ("verbose", 'v')]

/-- Removes a file, or a directory if the options allow it. -/
def removeFile (s : ToolStart) (options : List GivenOption) (run : ToolRun) (name : Octets) :
    ToolRun :=
  let refused (reason : String) : ToolRun :=
    run.complain s!"{s.name}: cannot remove {quotedName name}: {reason}"
  match run.tree.locate name.toText with
  | .ok (.found place .directory _) =>
    if hasOption options 'r' || hasOption options 'R' then
      { run with tree := withoutBelow run.tree place }
    else refused (wording .isADirectory)
  | .ok (.found place (.file _) false) => { run with tree := run.tree.erase place }
  | .ok (.found _ (.file _) true) => refused (wording .notADirectory)
  | .ok (.fresh ..) => if hasOption options 'f' then run else refused (wording .notFound)
  | .error problem =>
    if hasOption options 'f' && (problem == .notFound || problem == .notADirectory) then run
    else refused (wording problem)

/-- Removes the files that its arguments name. -/
def remove : Tool := fun arguments s =>
  withOptions removeOptions arguments s fun options names =>
    if names.isEmpty && !hasOption options 'f' then refuseCall s 1 "missing operand"
    else names.foldl (removeFile s options) (.start s)

/-! ## Copying -/

/-- The path to which a file is copied: the target, or the file's name in the target if that is a
directory. -/
def destination (tree : FileTree) (source target : String) : String :=
  if tree.isDirectory target then
    Path.join target (String.ofList ((Text.splitAt '/' source.toList).getLastD []))
  else target

/-- Copies a file; `discard` says that the first one is not kept. -/
def copyAs (s : ToolStart) (discard : Bool) (target : Octets) (run : ToolRun) (source : Octets) :
    ToolRun :=
  let path := destination run.tree source.toText target.toText
  match run.tree.read source.toText with
  | .error .isADirectory =>
    run.complain s!"{s.name}: -r not specified; omitting directory {quotedName source}"
  | .error problem =>
    run.complain s!"{s.name}: cannot stat {quotedName source}: {wording problem}"
  | .ok content =>
    if isSamePlace run.tree source.toText path then
      run.complain
        s!"{s.name}: {quotedName source} and {quotedName (.ofText path)} are the same file"
    else
      let kept :=
        if discard then (run.tree.remove source.toText).toOption.getD run.tree else run.tree
      match kept.write path content with
      | .ok tree => { run with tree }
      | .error problem =>
        let place := quotedName (.ofText path)
        run.complain s!"{s.name}: cannot create regular file {place}: {wording problem}"
where
  /-- Whether two paths lead to one file. -/
  isSamePlace (tree : FileTree) (a b : String) : Bool :=
    match tree.locate a, tree.locate b with
    | .ok (.found p _ _), .ok (.found q _ _) => p == q
    | _, _ => false

/-- Copies files, or moves them if they are not kept. -/
def transfer (discard : Bool) : Tool := fun arguments s =>
  withOptions { letters := "afinprRTuv".toList } arguments s fun _ names =>
    match names with
    | [] => refuseCall s 1 "missing file operand"
    | [name] => refuseCall s 1 s!"missing destination file operand after {quotedName name}"
    | names =>
      let target := names.getLastD ""
      if 2 < names.length && !s.tree.isDirectory target.toText then
        (ToolRun.start s).complain
          s!"{s.name}: target {quotedName target}: {wording .notADirectory}"
      else names.dropLast.foldl (copyAs s discard target) (.start s)

end Gridface.Tool
