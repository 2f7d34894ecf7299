/-!
# File problems

Why a file could not be read, written or created.
-/

namespace Gridface

/-- Why an operation on a file failed. -/
inductive FileProblem
  | notFound
  | isADirectory
  | notADirectory
  | alreadyExists
  /-- The file holds bytes that are not UTF-8. -/
  | notText
  | nameTooLong
  /-- The path holds a NUL character. -/
  | nulInPath
  /-- A word of a command holds a NUL character. -/
  | nulInCommand
  | permissionDenied
  deriving DecidableEq, Repr, Inhabited

/-- The sentence that describes the problem. -/
def FileProblem.message : FileProblem → String
  | notFound => "No such file or directory (os error 2)"
  | isADirectory => "Is a directory (os error 21)"
  | notADirectory => "Not a directory (os error 20)"
  | alreadyExists => "File exists (os error 17)"
  | notText => "stream did not contain valid UTF-8"
  | nameTooLong => "File name too long (os error 36)"
  | nulInPath => "file name contained an unexpected NUL byte"
  | nulInCommand => "nul byte found in provided data"
  | permissionDenied => "Permission denied (os error 13)"

end Gridface
