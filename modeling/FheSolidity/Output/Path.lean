import FheSolidity.Text.Pieces

/-!
# Paths

A path is the text that names a file, and a sequence of steps that lead to it. Slashes that follow
one another count once. A dot, which leads nowhere, is no component of a path unless it starts it:
`a//b`, `a/./b` and `a/b/` have the same components, and `./a` has others than `a`.
-/

namespace FheSolidity

/-- A path, as it is written. -/
structure Path where
  /-- The text of the path. -/
  text : String
  deriving DecidableEq, Repr

/-- One step on the way to a file. -/
inductive PathStep
  /-- To the root of all files. -/
  | root
  /-- To where one is. -/
  | here
  /-- To the directory above. -/
  | up
  /-- To what has this name in a directory. -/
  | name (name : String)
  deriving DecidableEq, Repr

namespace PathStep

/-- The step that a text between slashes stands for. -/
def ofSegment (segment : String) : PathStep :=
  if segment = "." then here else if segment = ".." then up else name segment

end PathStep

namespace Path

/-- Whether a path starts at the root. -/
def isAbsolute (p : Path) : Bool :=
  p.text.toList.head? == some '/'

/-- Whether a path ends with a slash, and so can only name a directory. -/
def endsWithSlash (p : Path) : Bool :=
  p.text.toList.getLast? == some '/'

/-- The texts between the slashes of a path, some of them possibly empty. -/
def segments (p : Path) : List String :=
  (Text.pieces (· == '/') p.text.toList).map String.ofList

/-- The steps of a path, every dot among them. -/
def steps (p : Path) : List PathStep :=
  (if p.isAbsolute then [PathStep.root] else []) ++
    (p.segments.filter fun segment => !segment.isEmpty).map PathStep.ofSegment

/-- The components of a path: its steps without the dots after the first step. -/
def components (p : Path) : List PathStep :=
  match p.steps with
  | [] => []
  | first :: others => first :: others.filter fun step => step != .here

/-- Whether two paths are the same, component by component. -/
def same (p q : Path) : Bool :=
  p.components == q.components

/-- The path that a text names inside a directory. An absolute path names the same everywhere. -/
def join (directory : Path) (text : String) : Path :=
  if (Path.mk text).isAbsolute || directory.text.isEmpty then ⟨text⟩
  else if directory.endsWithSlash then ⟨directory.text ++ text⟩
  else ⟨directory.text ++ "/" ++ text⟩

end Path

/-! ## Beginnings of paths -/

/-- A beginning of a path that ends with a component: the texts between its slashes, the last
first. -/
abbrev Stage := List String

/-- The path that a stage is, as it is written. -/
def Stage.path (stage : Stage) : Path :=
  if stage = [""] then ⟨"/"⟩ else ⟨"/".intercalate stage.reverse⟩

namespace Path

/-- The stages of a path after the text before some segments. -/
def stagesAfter (before : List String) : List String → List Stage
  | [] => []
  | segment :: segments =>
    if segment = "" || segment = "." then stagesAfter (segment :: before) segments
    else (segment :: before) :: stagesAfter (segment :: before) segments

/-- The stages of a path, one for each component. -/
def stages (p : Path) : List Stage :=
  match p.segments with
  | [] => []
  | first :: segments =>
    if first ≠ "" || p.isAbsolute then [first] :: stagesAfter [first] segments else []

/-- The directories that a path leads through, from the first to the one that it lies in. There are
none for a bare name, which lies in the current directory, and for the root. -/
def directories (p : Path) : List Stage :=
  p.stages.dropLast

end Path

end FheSolidity
