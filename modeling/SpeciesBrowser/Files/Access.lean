import SpeciesBrowser.Files.Path

/-!
# Access to files

What the browser asks of the place where its files are: whether a path leads to a
regular file, the text of a file, and directories and files to be made.
-/

namespace SpeciesBrowser.Files

inductive FileError where
  | missing
  | exists
  | notDirectory
  | isDirectory
  | notText
  | nameTooLong
  | nulInName
  | other (reason : String)
deriving DecidableEq, Repr

namespace FileError

def message : FileError → String
  | .missing => "No such file or directory (os error 2)"
  | .exists => "File exists (os error 17)"
  | .notDirectory => "Not a directory (os error 20)"
  | .isDirectory => "Is a directory (os error 21)"
  | .notText => "stream did not contain valid UTF-8"
  | .nameTooLong => "File name too long (os error 36)"
  | .nulInName => "file name contained an unexpected NUL byte"
  | .other reason => reason

end FileError

namespace Path

/-- The most bytes of a path. -/
def maxBytes : Nat := 4095

/-- The most bytes of one name in a path. -/
def maxNameBytes : Nat := 255

/-- Why a path is refused before anything is looked up. -/
def refusal? (path : Path) : Option FileError :=
  if path.text.toList.any (· = '\x00') then some .nulInName
  else if maxBytes < path.text.utf8ByteSize then some .nameTooLong
  else none

/-- Whether no directory can have an entry of this name. -/
def isTooLong (name : String) : Bool := maxNameBytes < name.utf8ByteSize

end Path

class Access (m : Type → Type) where
  isFile : Path → m Bool
  readText : Path → m (Except FileError String)
  /-- Write a file anew. -/
  writeText : Path → String → m (Except FileError Unit)
  /-- Make sure that a file is there and can be written at its end. -/
  openForAppend : Path → m (Except FileError Unit)
  /-- Make a directory and all that are missing above it. -/
  createDirs : Path → m (Except FileError Unit)

end SpeciesBrowser.Files
