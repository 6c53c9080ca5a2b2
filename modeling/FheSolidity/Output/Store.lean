import FheSolidity.Output.Path

/-!
# Files kept in memory

A store holds the contents of files in the order in which their paths were first written. Writing
to a path that is there already replaces the content, and keeps its place and its spelling. Each
file carries the components of its path, so that a write takes no path apart but its own:
`StoredFile.hasComponents_components` says that comparing them compares the paths, and
`components_put` that a write keeps the paths that are there.
-/

namespace FheSolidity

/-- A file in a store. -/
structure StoredFile where
  /-- The path of the file, as it was first written. -/
  path : Path
  /-- The content of the file. -/
  content : String
  /-- The components of the path. -/
  components : List PathStep := path.components
  /-- The components are those of the path. -/
  components_eq : components = path.components := by rfl
  deriving Repr

namespace StoredFile

/-- Whether a file lies at the path with some components. -/
def hasComponents (file : StoredFile) (components : List PathStep) : Bool :=
  file.components == components

/-- A file lies at a path if its own path is the same. -/
theorem hasComponents_components (file : StoredFile) (path : Path) :
    file.hasComponents path.components = file.path.same path := by
  rw [hasComponents, file.components_eq, Path.same]

/-- Files after the content of one of them was set, or after it was added as the last. -/
def put (new : StoredFile) : List StoredFile → List StoredFile
  | [] => [new]
  | file :: files =>
    if file.hasComponents new.components then { file with content := new.content } :: files
    else file :: put new files

/-- A path that is there keeps its place, and any other comes last. -/
theorem components_put (new : StoredFile) (files : List StoredFile) :
    (put new files).map components =
      if new.components ∈ files.map components then files.map components
      else files.map components ++ [new.components] := by
  induction files with
  | nil => rfl
  | cons file files ih =>
    by_cases h : file.components = new.components
    · simp [put, hasComponents, h]
    · simp only [put, hasComponents, beq_iff_eq, h, if_false, List.map_cons, List.mem_cons,
        Ne.symm h, false_or, ih]
      split <;> simp

end StoredFile

/-- Files in memory. -/
structure Store where
  /-- The files, in the order of their first writing. -/
  files : List StoredFile := []
  /-- No two files have the same path. -/
  nodup_components : (files.map StoredFile.components).Nodup := by simp

namespace Store

/-- Writes a file. -/
def write (s : Store) (path : Path) (content : String) : Store where
  files := StoredFile.put { path, content } s.files
  nodup_components := by
    rw [StoredFile.components_put]
    split
    · exact s.nodup_components
    · next h => simpa [List.nodup_append, s.nodup_components] using h

/-- Writes files one after the other. -/
def writeAll (s : Store) (files : List (Path × String)) : Store :=
  files.foldl (fun s (path, content) => s.write path content) s

/-- The place of a path in a store. -/
def indexOf? (s : Store) (path : Path) : Option Nat :=
  let components := path.components
  s.files.findIdx? fun file => file.hasComponents components

/-- The content at a path. -/
def get? (s : Store) (path : Path) : Option String :=
  let components := path.components
  (s.files.find? fun file => file.hasComponents components).map StoredFile.content

end Store

end FheSolidity
