/-!
# Files and directories

What a name can stand for: a regular file with its content, or a directory with the files and
directories in it. Everything below a directory has a location, the names that lead to it from
there.
-/

namespace FheSolidity

/-- The names that lead from a directory to a file or directory below it. -/
abbrev Location := List String

/-- A file, or a directory with all that is below it. -/
inductive FileNode
  | directory (entries : List (String × FileNode))
  | file (content : ByteArray)

namespace FileNode

/-- The entries of a directory after something was put in the place of a name. -/
def setEntry (name : String) (node : FileNode) :
    List (String × FileNode) → List (String × FileNode)
  | [] => [(name, node)]
  | (other, old) :: entries =>
    if name = other then (name, node) :: entries else (other, old) :: setEntry name node entries

theorem lookup_setEntry (name other : String) (node : FileNode)
    (entries : List (String × FileNode)) :
    (setEntry name node entries).lookup other =
      if other = name then some node else entries.lookup other := by
  induction entries with
  | nil => grind [setEntry]
  | cons entry entries ih => grind [setEntry]

/-- What is at a location below. Nothing is below a file. -/
def get? : FileNode → Location → Option FileNode
  | node, [] => some node
  | file _, _ :: _ => none
  | directory entries, name :: loc =>
    match entries.lookup name with
    | some node => node.get? loc
    | none => none

/-- The node with another one at a location below, in directories that are made where they are
missing. Nothing is put below a file. -/
def put : FileNode → Location → FileNode → FileNode
  | _, [], new => new
  | file content, _ :: _, _ => file content
  | directory entries, name :: loc, new =>
    directory (setEntry name (((entries.lookup name).getD (directory [])).put loc new) entries)

/-- What is put where nothing can be below it takes that place alone: every other file stays, and
none is added. The place has to be in directories that are there. -/
theorem get?_put_eq_file_iff {node new : FileNode} {loc other : Location} {content : ByteArray}
    (hway : ∀ before name after, loc = before ++ name :: after →
      ∃ entries, node.get? before = some (directory entries))
    (hbelow : ∀ name after, node.get? (loc ++ name :: after) = none)
    (hnew : ∀ name after, new.get? (name :: after) = none) :
    (node.put loc new).get? other = some (file content) ↔
      if other = loc then new = file content else node.get? other = some (file content) := by
  induction loc generalizing node other with
  | nil =>
    cases other with
    | nil => simp [put, get?]
    | cons name after =>
      have : node.get? (name :: after) = none := hbelow name after
      simp [put, hnew, this]
  | cons name loc ih =>
    cases node with
    | file old =>
      obtain ⟨entries, h⟩ := hway [] name loc rfl
      simp [get?] at h
    | directory entries =>
      cases other with
      | nil => simp [put, get?]
      | cons name' other =>
        simp only [put, get?, lookup_setEntry]
        by_cases hname : name' = name
        · subst hname
          cases hchild : entries.lookup name' with
          | some child =>
            have := @ih child other
              (fun before step after h => by
                simpa [get?, hchild] using hway (name' :: before) step after (by simp [h]))
              (fun step after => by simpa [get?, hchild] using hbelow step after)
            simpa using this
          | none =>
            cases loc with
            | nil => cases other <;> simp [put, get?, hnew]
            | cons step after =>
              have := hway [name'] step after rfl
              simp [get?, hchild] at this
        · simp [hname]

mutual

/-- The regular files of a node, by their locations. -/
def files : FileNode → List (Location × ByteArray)
  | file content => [([], content)]
  | directory entries => filesIn entries

/-- The regular files below some entries of a directory, by their locations in it. -/
def filesIn : List (String × FileNode) → List (Location × ByteArray)
  | [] => []
  | (name, node) :: entries =>
    (node.files.map fun (loc, content) => (name :: loc, content)) ++ filesIn entries

end

end FileNode

end FheSolidity
