import FheSolidity.Event
import FheSolidity.Output.FileTree

/-!
# Writing files one after the other

Files are written in order, up to the first that cannot be written. Every file that is written
leaves an event.
-/

namespace FheSolidity

/-- What writing some files came to. -/
structure Writing where
  /-- The files afterwards. -/
  tree : FileTree
  /-- An event for each file that was written. -/
  events : List Event
  /-- The path that could not be written, and why, if there is one. -/
  fault : Option (Path × FileFault)

/-- The event of writing a file. -/
def wroteEvent (path : Path) (content : String) : Event :=
  .wrote path.text content.utf8ByteSize

/-- Writes files to a tree. -/
def FileTree.writeAll (t : FileTree) : List (Path × String) → Writing
  | [] => ⟨t, [], none⟩
  | (path, content) :: files =>
    match t.write path content with
    | (t', some fault) => ⟨t', [], some (path, fault)⟩
    | (t', none) =>
      let writing := t'.writeAll files
      { writing with events := wroteEvent path content :: writing.events }

end FheSolidity
