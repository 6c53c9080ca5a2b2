import FheSolidity.Output.FileNode
import FheSolidity.Output.Path

/-!
# Trees of files

The part of a file system that a run can see: directories and regular files from the root on, and
the current directory, from which relative paths lead. A path leads through directories only, so
on the way a missing name and a regular file are faults. So are a name that is too long for a
directory and a path that is too long or holds a NUL. Writing a file first makes the directories
that its path asks for; those stay even if the file cannot be written.
-/

namespace FheSolidity

/-- Why a file cannot be read or written. -/
inductive FileFault
  /-- There is nothing with the name. -/
  | notFound
  /-- A directory is where a file should be. -/
  | isDirectory
  /-- A file is where a directory should be. -/
  | notDirectory
  /-- A directory is to be made where there is something already. -/
  | alreadyExists
  /-- A name or a path is longer than the system takes. -/
  | nameTooLong
  /-- A path holds a NUL, which ends a path for the system. -/
  | holdsNul
  /-- The content is not UTF-8. -/
  | notText
  deriving DecidableEq, Repr

/-- The text that reports a fault. -/
def FileFault.message : FileFault → String
  | notFound => "No such file or directory (os error 2)"
  | isDirectory => "Is a directory (os error 21)"
  | notDirectory => "Not a directory (os error 20)"
  | alreadyExists => "File exists (os error 17)"
  | nameTooLong => "File name too long (os error 36)"
  | holdsNul => "file name contained an unexpected NUL byte"
  | notText => "stream did not contain valid UTF-8"

/-- A tree of files. -/
structure FileTree where
  /-- What is at the root. -/
  root : FileNode := .directory []
  /-- The location of the current directory. -/
  current : Location := []

namespace FileTree

/-! ## Ways -/

/-- The most bytes that a name in a directory can have. -/
def nameLimit : Nat := 255

/-- The most bytes that a path can have. -/
def pathLimit : Nat := 4095

/-- Where some steps lead. -/
structure Place where
  /-- The directories on the way from the root and the names that were taken in them, the last
  first. -/
  trail : List (FileNode × String)
  /-- What is there, if there is anything. -/
  node? : Option FileNode

/-- The names that lead to a place from the root. -/
def Place.location (place : Place) : Location :=
  (place.trail.map Prod.snd).reverse

/-- The place above a place. The root is above itself. -/
def Place.above (place : Place) : Place :=
  match place.trail with
  | [] => place
  | (directory, _) :: trail => ⟨trail, some directory⟩

/-- The place to which a step leads from a place. All but the step to the root need a directory to
start from, and a directory takes no name that is too long. -/
def step (t : FileTree) (place : Place) (s : PathStep) : Except FileFault Place :=
  match s, place.node? with
  | .root, _ => .ok ⟨[], some t.root⟩
  | _, none => .error .notFound
  | _, some (.file _) => .error .notDirectory
  | .here, some (.directory _) => .ok place
  | .up, some (.directory _) => .ok place.above
  | .name s, some (.directory entries) =>
    if nameLimit < s.utf8ByteSize then .error .nameTooLong
    else .ok ⟨(.directory entries, s) :: place.trail, entries.lookup s⟩

/-- The place to which some steps lead from the current directory. -/
def walk (t : FileTree) (steps : List PathStep) : Except FileFault Place :=
  (t.current.map PathStep.name ++ steps).foldlM t.step ⟨[], some t.root⟩

/-- Refuses a path that the system does not take, whatever is there. -/
def checkPath (path : Path) : Except FileFault Unit :=
  if path.text.toList.contains '\x00' then .error .holdsNul
  else if pathLimit < path.text.utf8ByteSize then .error .nameTooLong
  else .ok ()

/-- The place that a path names. -/
def locate (t : FileTree) (path : Path) : Except FileFault Place := do
  checkPath path
  t.walk path.steps

/-- Whether a path ends with the step to a name, and so may lead to something new. -/
def endsWithName (path : Path) : Bool :=
  match path.steps.getLast? with
  | some (.name _) => true
  | _ => false

/-- The tree with something else at a place. -/
def put (t : FileTree) (place : Place) (node : FileNode) : FileTree :=
  { t with root := t.root.put place.location node }

/-! ## Directories -/

/-- Whether a path leads to a directory. -/
def isDirectory (t : FileTree) (path : Path) : Bool :=
  match t.locate path with
  | .ok ⟨_, some (.directory _)⟩ => true
  | _ => false

/-- Makes a directory in a directory that is there. -/
def makeDirectory (t : FileTree) (path : Path) : Except FileFault FileTree := do
  let place ← t.locate path
  if endsWithName path && place.node?.isNone then return t.put place (.directory [])
  else .error .alreadyExists

/-- Makes a directory unless it is there, and the fault if it cannot be made. -/
def makeMissing (t : FileTree) (path : Path) : FileTree × Option FileFault :=
  match t.makeDirectory path with
  | .ok t' => (t', none)
  | .error fault => (t, if t.isDirectory path then none else some fault)

/-- Makes the first of some directories, of which each lies in the next, and those after it that are
missing. They are made only where the directory itself turns out to have nothing above it. -/
def makeDirectories (t : FileTree) : List Stage → FileTree × Option FileFault
  | [] => (t, none)
  | stage :: above =>
    match t.makeMissing stage.path with
    | (_, some .notFound) =>
      match makeDirectories t above with
      | (t', none) => t'.makeMissing stage.path
      | failed => failed
    | made => made

/-! ## Files -/

/-- The text of the file that a path names. -/
def read (t : FileTree) (path : Path) : Except FileFault String :=
  if path.steps.isEmpty then .error .notFound
  else do
    let place ← t.locate path
    match place.node? with
    | none => .error .notFound
    | some (.directory _) => .error .isDirectory
    | some (.file content) =>
      if path.endsWithSlash then .error .notDirectory
      else
        match String.fromUTF8? content with
        | some text => .ok text
        | none => .error .notText

/-- Sets the content of the file that a path names, in a directory that is there. A path that can
only name a directory is refused before its last name is looked up. -/
def store (t : FileTree) (path : Path) (content : String) : Except FileFault FileTree :=
  if path.steps.isEmpty then .error .notFound
  else do
    checkPath path
    if path.endsWithSlash || !endsWithName path then
      let _ ← t.walk (path.steps.dropLast ++ [.here])
      .error .isDirectory
    else
      let place ← t.walk path.steps
      match place.node? with
      | some (.directory _) => .error .isDirectory
      | _ => return t.put place (.file content.toUTF8)

/-- Writes a file, after the directories that its path asks for. -/
def write (t : FileTree) (path : Path) (content : String) : FileTree × Option FileFault :=
  match t.makeDirectories path.directories.reverse with
  | (t', none) =>
    match t'.store path content with
    | .ok t'' => (t'', none)
    | .error fault => (t', some fault)
  | failed => failed

/-- The regular files below a location, by the names that lead to them from there. -/
def filesBelow (t : FileTree) (loc : Location) : List (Location × ByteArray) :=
  match t.root.get? loc with
  | some node => node.files
  | none => []

end FileTree

end FheSolidity
