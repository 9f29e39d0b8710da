import SpeciesBrowser.Files.Access
import SpeciesBrowser.Notice

/-!
# File trees

A tree of directories and files, kept as the entries below its root, and the directory
in which relative paths start. A path is walked step by step; every step but the last
must lead to a directory.
-/

namespace SpeciesBrowser.Files

/-- The names from the root down. -/
abbrev Location := List String

inductive Entry where
  | directory
  | file (content : ByteArray)

structure Tree where
  entries : List (Location × Entry) := []
  working : Location := []

namespace Tree

def entry? (tree : Tree) (location : Location) : Option Entry :=
  if location = [] then some .directory
  else (tree.entries.find? (·.1 = location)).map (·.2)

/-- What a file system answers about a location whose directory it has found. -/
def lookUp (tree : Tree) (location : Location) : Except FileError (Option Entry) :=
  if location.getLast?.any Path.isTooLong then .error .nameTooLong
  else .ok (tree.entry? location)

/-- Set the entry at a location; what stands elsewhere stays as it is. -/
def put (tree : Tree) (location : Location) (entry : Entry) : Tree :=
  { tree with entries := tree.entries.filter (·.1 ≠ location) ++ [(location, entry)] }

/-- One step from a directory; above the root there is the root. -/
def stepFrom (location : Location) (step : String) : Location :=
  if step = ".." then location.dropLast else location ++ [step]

def start (tree : Tree) (path : Path) : Location :=
  if path.isAbsolute then [] else tree.working

/-- Walk steps from a location. Whether something stands at the end is left open. -/
def walk (tree : Tree) (location : Location) : List String → Except FileError Location
  | [] => .ok location
  | step :: steps =>
      match tree.lookUp location with
      | .ok (some .directory) => tree.walk (stepFrom location step) steps
      | .ok (some (.file _)) => .error .notDirectory
      | .ok none => .error .missing
      | .error error => .error error

def locate (tree : Tree) (path : Path) : Except FileError Location :=
  match path.refusal? with
  | some error => .error error
  | none => tree.walk (tree.start path) path.steps

def isFile (tree : Tree) (path : Path) : Bool :=
  match tree.locate path with
  | .ok location =>
      match tree.lookUp location with
      | .ok (some (.file _)) => !path.namesDirectory
      | _ => false
  | .error _ => false

def readText (tree : Tree) (path : Path) : Except FileError String := do
  match ← tree.lookUp (← tree.locate path) with
  | none => .error .missing
  | some .directory => .error .isDirectory
  | some (.file content) =>
      if path.namesDirectory then .error .notDirectory
      else match String.fromUTF8? content with
        | some text => return text
        | none => .error .notText

/-- Where a file may be written, and what it holds now. A path with a slash at its end can
only name a directory, whatever stands there; a dot at its end is looked for in a directory
that must be there. -/
def openFile (tree : Tree) (path : Path) : Except FileError (Location × Option ByteArray) := do
  let location ← tree.locate path
  if path.namesDirectory && !path.ending.contains "." then .error .isDirectory
  else match ← tree.lookUp location with
    | none => if path.namesDirectory then .error .missing else return (location, none)
    | some .directory => .error .isDirectory
    | some (.file content) =>
        if path.namesDirectory then .error .notDirectory else return (location, some content)

def writeBytes (tree : Tree) (path : Path) (content : ByteArray) : Except FileError Tree := do
  let (location, _) ← tree.openFile path
  return tree.put location (.file content)

def openForAppend (tree : Tree) (path : Path) : Except FileError Tree := do
  let (location, content?) ← tree.openFile path
  match content? with
  | some _ => return tree
  | none => return tree.put location (.file ByteArray.empty)

/-- Walk steps from a directory and make those that lead nowhere yet. What has been made
stays, also if a later step fails. -/
def createFrom (tree : Tree) (location : Location) :
    List String → Except FileError Unit × Tree
  | [] => (.ok (), tree)
  | step :: steps =>
      let next := stepFrom location step
      match tree.lookUp next with
      | .ok (some .directory) => tree.createFrom next steps
      | .ok (some (.file _)) => (.error (if steps.isEmpty then .exists else .notDirectory), tree)
      | .ok none => (tree.put next .directory).createFrom next steps
      | .error error => (.error error, tree)

def createDirs (tree : Tree) (path : Path) : Except FileError Unit × Tree :=
  match path.refusal? with
  | some error => (.error error, tree)
  | none => tree.createFrom (tree.start path) path.steps

/-- The written form of an entry's place below a location. -/
def name (below : Location) (place : Location × Entry) : String :=
  "/".intercalate (place.1.drop below.length) ++
    (match place.2 with
     | .directory => "/"
     | .file _ => "")

/-- Everything below a location, in the order of the names. -/
def listing (tree : Tree) (below : Location) : List String :=
  let inside := tree.entries.filter fun place =>
    below.isPrefixOf place.1 && place.1.length != below.length
  (inside.map (name below)).mergeSort fun first second => first ≤ second

end Tree

/-- Work on a file tree, with notices. -/
abbrev TreeM := StateT Tree Logged

namespace TreeM

/-- Try a change of the tree; if it fails the tree stays as it is. -/
def attempt (change : Tree → Except FileError Tree) : TreeM (Except FileError Unit) := fun tree =>
  match change tree with
  | .ok changed => return (.ok (), changed)
  | .error error => return (.error error, tree)

instance : Access TreeM where
  isFile path := fun tree => return (tree.isFile path, tree)
  readText path := fun tree => return (tree.readText path, tree)
  writeText path text := attempt (·.writeBytes path text.toUTF8)
  openForAppend path := attempt (·.openForAppend path)
  createDirs path := fun tree => return tree.createDirs path

/-- What an action gives back. -/
def result (action : TreeM α) (tree : Tree) : α := (action tree).value.1

/-- The tree that an action leaves behind. -/
def leaves (action : TreeM α) (tree : Tree) : Tree := (action tree).value.2

variable (tree : Tree) (path : Path)

@[simp] theorem result_pure (value : α) : result (pure value) tree = value := rfl

@[simp] theorem leaves_pure (value : α) : leaves (pure value : TreeM α) tree = tree := rfl

@[simp] theorem result_bind (first : TreeM α) (next : α → TreeM β) :
    result (first >>= next) tree = result (next (result first tree)) (leaves first tree) := rfl

@[simp] theorem leaves_bind (first : TreeM α) (next : α → TreeM β) :
    leaves (first >>= next) tree = leaves (next (result first tree)) (leaves first tree) := rfl

/-- Notices do not touch the files. -/
@[simp] theorem result_logged (logged : Logged α) :
    result (liftM logged : TreeM α) tree = logged.value := rfl

@[simp] theorem leaves_logged (logged : Logged α) : leaves (liftM logged : TreeM α) tree = tree :=
  rfl

@[simp] theorem result_isFile : result (Access.isFile path) tree = tree.isFile path := rfl

@[simp] theorem leaves_isFile : leaves (Access.isFile path) tree = tree := rfl

@[simp] theorem result_readText : result (Access.readText path) tree = tree.readText path := rfl

@[simp] theorem leaves_readText : leaves (Access.readText path) tree = tree := rfl

@[simp] theorem result_createDirs :
    result (Access.createDirs path) tree = (tree.createDirs path).1 := rfl

@[simp] theorem leaves_createDirs :
    leaves (Access.createDirs path) tree = (tree.createDirs path).2 := rfl

/-- A change that fails leaves the tree as it is. -/
theorem leaves_attempt (change : Tree → Except FileError Tree) :
    leaves (attempt change) tree = (change tree).toOption.getD tree := by
  unfold leaves attempt
  cases change tree <;> rfl

@[simp] theorem leaves_writeText (text : String) :
    leaves (Access.writeText path text) tree =
      (tree.writeBytes path text.toUTF8).toOption.getD tree :=
  leaves_attempt tree _

end TreeM

end SpeciesBrowser.Files
