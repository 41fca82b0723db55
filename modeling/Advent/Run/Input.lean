import Advent.Decimal.Fixed
import Advent.Run.Result

/-!
# Where inputs are read from

The input of a day lies in a directory under a name made of year and day. An explicit file takes the
place of that layout for every day.
-/
namespace Advent

/-- A path below a directory; an absolute path stands for itself. -/
def joinPath (directory path : String) : String :=
  if directory.isEmpty || path.startsWith "/" then path
  else if directory.endsWith "/" then directory ++ path
  else directory ++ "/" ++ path

structure InputSource where
  directory : String
  file : Option String
  deriving Repr, DecidableEq

/-- Why a file could not be read. -/
inductive ReadFault
  | notFound
  | notDirectory
  | isDirectory
  | nameTooLong
  | nulInPath
  | notText
  | other (reason : String)
  deriving Repr, DecidableEq

def ReadFault.message : ReadFault → String
  | .notFound => "No such file or directory (os error 2)"
  | .notDirectory => "Not a directory (os error 20)"
  | .isDirectory => "Is a directory (os error 21)"
  | .nameTooLong => "File name too long (os error 36)"
  | .nulInPath => "file name contained an unexpected NUL byte"
  | .notText => "stream did not contain valid UTF-8"
  | .other reason => reason

namespace InputSource

def fileName (year day : Nat) : String :=
  let number := Decimal.twoDigits day
  s!"{year}_day{number}.txt"

def path (source : InputSource) (year day : Nat) : String :=
  match source.file with
  | some file => file
  | none => joinPath source.directory (fileName year day)

/-- The outcome of reading a path, as an input. -/
def ofRead (path : String) : Except ReadFault String → Except InputError String
  | .ok text => .ok text
  | .error .notFound => .error (.notFound path)
  | .error fault => .error (.unreadable path fault.message)

end InputSource

end Advent
