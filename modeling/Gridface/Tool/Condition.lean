import Gridface.Tool.Quoting
import Gridface.Tool.System
import Gridface.Tool

/-!
# Conditions

What can be asked of files, texts and numbers, whatever the grammar in which it is asked.
-/

namespace Gridface.Tool

open Text

/-- A question about one word. -/
inductive UnaryTest
  | isEmpty
  | isNonempty
  | isThere
  | isFile
  | isDirectory
  | hasContent
  | isReadable
  | isWritable
  | isExecutable
  /-- Whether the file belongs to the user who asks. -/
  | isOwned
  /-- Whether the file is a device for characters. -/
  | isDevice
  /-- Something that no file of a tree is. -/
  | isSpecial
  /-- Whether the word is the number of a terminal. -/
  | isTerminal
  deriving DecidableEq, Repr

/-- A question about two words. -/
inductive BinaryTest
  | same
  | differ
  | before
  | after
  | equal
  | unequal
  | less
  | lessEqual
  | greater
  | greaterEqual
  | newer
  | older
  | sameFile
  deriving DecidableEq, Repr

/-- The letters of the questions about one word. -/
def unaryLetters : List (Char × UnaryTest) :=
  [('z', .isEmpty), ('n', .isNonempty), ('e', .isThere), ('f', .isFile), ('d', .isDirectory),
    ('s', .hasContent), ('r', .isReadable), ('w', .isWritable), ('x', .isExecutable),
    ('O', .isOwned), ('G', .isOwned), ('c', .isDevice), ('b', .isSpecial), ('p', .isSpecial),
    ('S', .isSpecial), ('L', .isSpecial), ('h', .isSpecial), ('u', .isSpecial),
    ('g', .isSpecial), ('k', .isSpecial), ('t', .isTerminal)]

/-- The marks of the questions about two words that every grammar has. -/
def binaryMarks : List (String × BinaryTest) :=
  [("=", .same), ("!=", .differ), ("-eq", .equal), ("-ne", .unequal), ("-lt", .less),
    ("-le", .lessEqual), ("-gt", .greater), ("-ge", .greaterEqual), ("-nt", .newer),
    ("-ot", .older), ("-ef", .sameFile)]

/-- The answer to a question about what stands at a place; nobody but the owner asks. -/
def UnaryTest.ofNode (t : UnaryTest) (place : Place) (node : Node) : Bool :=
  if (Device.atPlace? place).isSome then
    [isThere, isReadable, isWritable, isOwned, isDevice].contains t
  else
    match t, node with
    | isFile, node => node != .directory
    | isDirectory, node => node == .directory
    | isExecutable, node => node == .directory || (programAtPlace? place).isSome
    | hasContent, .file content => !content.isEmpty
    | isDevice, _ => false
    | isSpecial, _ => false
    | _, _ => true

/-- The answer to a question about a file. -/
def UnaryTest.ofFile (t : UnaryTest) (tree : FileTree) (word : Octets) : Bool :=
  match tree.placeOf? word.toText with
  | none => false
  | some place => (tree.node? place).any fun node => t.ofNode place node

/-- The answer to a question about two numbers. -/
def BinaryTest.ofNumbers (t : BinaryTest) (a b : Int) : Bool :=
  match t with
  | equal => a == b
  | unequal => a != b
  | less => a < b
  | lessEqual => a ≤ b
  | greater => b < a
  | greaterEqual => b ≤ a
  | _ => false

/-- Whether a question is about numbers. -/
def BinaryTest.isNumeric (t : BinaryTest) : Bool :=
  [equal, unequal, less, lessEqual, greater, greaterEqual].contains t

/-- Whether one file is newer than another; `lacking` is the answer about a file and none. -/
def isNewer (lacking : Bool) (tree : FileTree) (a b : Octets) : Bool :=
  match tree.placeOf? a.toText, tree.placeOf? b.toText with
  | some p, some q => tree.time q < tree.time p
  | some _, none => lacking
  | none, _ => false

/-- Whether two paths lead to one file. -/
def isSameFile (tree : FileTree) (a b : Octets) : Bool :=
  match tree.placeOf? a.toText, tree.placeOf? b.toText with
  | some p, some q => p == q
  | _, _ => false

/-- The answer to a question about two words that are no numbers; `lacking` is the answer about the
age of a file and none. -/
def BinaryTest.ofWords (t : BinaryTest) (lacking : Bool) (tree : FileTree) (a b : Octets) : Bool :=
  match t with
  | same => a == b
  | differ => a != b
  | before => a < b
  | after => b < a
  | newer => isNewer lacking tree a b
  | older => isNewer lacking tree b a
  | sameFile => isSameFile tree a b
  | _ => false

end Gridface.Tool
