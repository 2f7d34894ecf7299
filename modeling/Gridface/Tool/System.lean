import Gridface.FileTree

/-!
# The system around a working directory

The directories, devices and programs that are there whatever has been built. What is read from a
device, and what becomes of what is written to it, is not a matter of its content.
-/

namespace Gridface

/-- A device that bytes can be read from and written to. -/
inductive Device
  /-- Nothing can be read, and what is written is not kept. -/
  | null
  /-- Nothing more can be written. -/
  | full
  /-- What is written is not kept. -/
  | zero
  /-- There is no terminal that could be opened. -/
  | terminal
  deriving DecidableEq, Repr

namespace Device

/-- The devices by their names. -/
def names : List (String × Device) :=
  [("null", .null), ("full", .full), ("zero", .zero), ("tty", .terminal), ("random", .zero),
    ("urandom", .zero)]

/-- The device at a place. -/
def atPlace? (place : Place) : Option Device :=
  match place with
  | ["dev", name] => names.lookup name
  | _ => none

end Device

namespace Tool

/-- The directories that programs are found in, by the path that leads there. -/
def directories : List Place := [["usr", "bin"], ["bin"]]

/-- The names of the shell, which is a program too. -/
def shellNames : List String := ["sh", "dash"]

/-- The names of the programs but for the shell. -/
def programNames : List String :=
  ["[", "cat", "cp", "echo", "false", "mkdir", "mv", "printf", "rm", "sleep", "test", "touch",
    "true"]

/-- The directories of the users, by their names. -/
def homes : List (String × String) :=
  [("root", "/root"), ("daemon", "/usr/sbin"), ("bin", "/bin"), ("sys", "/dev"), ("sync", "/bin"),
    ("games", "/usr/games"), ("man", "/var/cache/man"), ("lp", "/var/spool/lpd"),
    ("mail", "/var/mail"), ("news", "/var/spool/news"), ("uucp", "/var/spool/uucp"),
    ("proxy", "/bin"), ("www-data", "/var/www"), ("backup", "/var/backups"), ("list", "/var/list"),
    ("irc", "/run/ircd"), ("_apt", "/nonexistent"), ("nobody", "/nonexistent")]

/-- The name of the program at a place. -/
def programAtPlace? (place : Place) : Option String :=
  match place.getLast? with
  | some name =>
    if directories.contains place.dropLast && (shellNames ++ programNames).contains name then
      some name
    else none
  | none => none

end Tool

namespace FileTree

/-- The directories that are always there. -/
def systemDirectories : List Place :=
  [["bin"], ["boot"], ["dev"], ["etc"], ["home"], ["lib"], ["lib64"], ["media"], ["mnt"], ["opt"],
    ["proc"], ["root"], ["run"], ["sbin"], ["srv"], ["sys"], ["tmp"], ["usr"], ["usr", "bin"],
    ["usr", "games"], ["usr", "include"], ["usr", "lib"], ["usr", "local"], ["usr", "local", "bin"],
    ["usr", "local", "lib"], ["usr", "local", "sbin"], ["usr", "local", "share"], ["usr", "sbin"],
    ["usr", "share"], ["usr", "src"], ["var"], ["var", "backups"], ["var", "cache"], ["var", "lib"],
    ["var", "log"], ["var", "mail"], ["var", "spool"], ["var", "tmp"]]

/-- The tree of a system with an empty working directory. -/
def ofSystem (workingDir : Place) : FileTree :=
  let own := wayTo workingDir
  let others := systemDirectories.filter fun place => !own.contains place
  let devices := Device.names.map fun entry => ["dev", entry.1]
  let programs := Tool.directories.flatMap fun dir =>
    (Tool.shellNames ++ Tool.programNames).map fun name => dir ++ [name]
  { nodes :=
      (own ++ others).map (·, .directory) ++ devices.map (·, .file []) ++
        programs.map (·, .file (.ofText "\x7fELF"))
    workingDir }

/-- The place that a path leads to, if something is there. -/
def placeOf? (t : FileTree) (path : String) : Option Place :=
  match t.locate path with
  | .ok (.found place .directory _) => some place
  | .ok (.found place (.file _) false) => some place
  | _ => none

/-- The device that a path leads to. -/
def device? (t : FileTree) (path : String) : Option Device :=
  (t.placeOf? path).bind Device.atPlace?

/-- The program that a path leads to. -/
def program? (t : FileTree) (path : String) : Option String :=
  (t.placeOf? path).bind Tool.programAtPlace?

end FileTree

end Gridface
