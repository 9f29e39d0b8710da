/-!
# Paths

A path is the list of its parts between slashes, just as it was written; an absolute
path has an empty first part. Empty parts and single dots lead nowhere, so only the
other parts are steps.
-/

namespace SpeciesBrowser.Files

structure Path where
  parts : List String
deriving DecidableEq, Repr

namespace Path

def ofText (text : String) : Path := ⟨(text.toList.splitOn '/').map String.ofList⟩

def text (path : Path) : String := "/".intercalate path.parts

def isAbsolute (path : Path) : Bool :=
  match path.parts with
  | "" :: _ :: _ => true
  | _ => false

def isStep (part : String) : Bool := part ≠ "" && part ≠ "."

def steps (path : Path) : List String := path.parts.filter isStep

/-- The path without empty parts and dots at its end. -/
def trimmed (path : Path) : Path :=
  ⟨(path.parts.reverse.dropWhile fun part => !isStep part).reverse⟩

/-- The empty parts and dots at the end of the path, from the end on. -/
def ending (path : Path) : List String := path.parts.reverse.takeWhile fun part => !isStep part

/-- Whether the path is written in the form that only a directory has. -/
def namesDirectory (path : Path) : Bool :=
  match path.parts.getLast? with
  | some part => !isStep part
  | none => true

/-- The path of an entry of a directory. -/
def join (path : Path) (name : String) : Path :=
  match path.parts.getLast? with
  | some "" => ⟨path.parts.dropLast ++ [name]⟩
  | _ => ⟨path.parts ++ [name]⟩

/-- The directory in which the last step is taken. -/
def parent? (path : Path) : Option Path :=
  if path.steps.isEmpty then none else some ⟨path.trimmed.parts.dropLast⟩

end Path

end SpeciesBrowser.Files
