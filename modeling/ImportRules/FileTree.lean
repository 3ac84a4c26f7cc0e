import ImportRules.Path
/-!
# File trees

The files that a run can see, as a value: directories hold files and further directories under
names that differ. Reading and writing are functions on the tree, so that what a run does depends on
nothing else.
-/

namespace ImportRules

/-- A file or a directory. -/
inductive FileTree where
  | file (content : ByteArray)
  | directory (entries : List (Path × FileTree))

namespace FileTree

/-- The empty directory. -/
def empty : FileTree :=
  .directory []

def isFile : FileTree → Bool
  | .file _ => true
  | .directory _ => false

def isDirectory : FileTree → Bool
  | .file _ => false
  | .directory _ => true

/-- The text of a file, `none` for a directory and for bytes that are not UTF-8. -/
def text? : FileTree → Option String
  | .file content => String.fromUTF8? content
  | .directory _ => none

/-- What a name stands for in a directory. -/
def child? (tree : FileTree) (name : Path) : Option FileTree :=
  match tree with
  | .file _ => none
  | .directory entries => entries.lookup name

/-- What lies at the end of a path of names. -/
def get? (tree : FileTree) : List Path → Option FileTree
  | [] => some tree
  | name :: names => (tree.child? name).bind (get? · names)

/-- Sets what a name stands for. -/
def setEntry (name : Path) (value : FileTree) :
    List (Path × FileTree) → List (Path × FileTree)
  | [] => [(name, value)]
  | (other, old) :: rest =>
      if other = name then (name, value) :: rest else (other, old) :: setEntry name value rest

/-- Puts something at the end of a path of names. Directories that are missing on the way are made,
and a file on the way gives place to a directory. -/
def insert (tree : FileTree) (names : List Path) (value : FileTree) : FileTree :=
  match names with
  | [] => value
  | name :: names =>
      let entries :=
        match tree with
        | .file _ => []
        | .directory entries => entries
      .directory (setEntry name (insert ((entries.lookup name).getD empty) names value) entries)

/-- Takes away what lies at the end of a path of names. -/
def erase (tree : FileTree) (names : List Path) : FileTree :=
  match tree, names with
  | .directory entries, [name] => .directory (entries.filter (·.1 != name))
  | .directory entries, name :: names =>
      match entries.lookup name with
      | some inner => .directory (setEntry name (erase inner names) entries)
      | none => tree
  | _, _ => tree

mutual

/-- The paths of the files in a tree. -/
def files : FileTree → List (List Path)
  | .file _ => [[]]
  | .directory entries => filesIn entries

/-- The paths of the files in the entries of a directory. -/
def filesIn : List (Path × FileTree) → List (List Path)
  | [] => []
  | (name, tree) :: rest => (files tree).map (name :: ·) ++ filesIn rest

end

end FileTree

/-- Why a path leads nowhere. -/
inductive LookupError where
  | missing
  /-- The path goes on behind a file. -/
  | notDirectory
  deriving DecidableEq, Repr

/-- A file tree and the directory in it that paths are taken from. -/
structure Workspace where
  tree : FileTree := .empty
  here : List Path := []

namespace Workspace

/-- One step of following a path. `at` is where the path has led so far, latest name first. -/
def follow (workspace : Workspace) (reached : List Path) (segment : Path) :
    Except LookupError (List Path) :=
  match workspace.tree.get? reached.reverse with
  | some (.directory entries) =>
      if segment.isIdle then .ok reached
      else if segment = Path.ofText ".." then .ok reached.tail
      else if (entries.lookup segment).isSome then .ok (segment :: reached)
      else .error .missing
  | some (.file _) => .error .notDirectory
  | none => .error .missing

/-- The names from the top of the tree to what a path leads to. The empty path leads nowhere. -/
def locate (workspace : Workspace) (path : Path) : Except LookupError (List Path) :=
  if path.isEmpty then .error .missing
  else
    let start := if path.isAbsolute then [] else workspace.here.reverse
    (path.segments.foldlM workspace.follow start).map List.reverse

/-- What a path leads to. -/
def find (workspace : Workspace) (path : Path) : Except LookupError FileTree := do
  let names ← workspace.locate path
  match workspace.tree.get? names with
  | some tree => .ok tree
  | none => .error .missing

def find? (workspace : Workspace) (path : Path) : Option FileTree :=
  (workspace.find path).toOption

def has (workspace : Workspace) (path : Path) : Bool :=
  (workspace.find? path).isSome

def hasFile (workspace : Workspace) (path : Path) : Bool :=
  (workspace.find? path).any FileTree.isFile

/-- The text of the file that a path leads to. -/
def read? (workspace : Workspace) (path : Path) : Option String :=
  (workspace.find? path).bind FileTree.text?

/-- The names of a path that is taken from the starting directory, without empty names and dots. -/
def namesOf (workspace : Workspace) (path : Path) : List Path :=
  let names := path.segments.filter fun segment => !segment.isIdle
  if path.isAbsolute then names else workspace.here ++ names

/-- Writes a file or a directory, with the directories on the way to it. -/
def write (workspace : Workspace) (path : Path) (value : FileTree) : Workspace :=
  { workspace with tree := workspace.tree.insert (workspace.namesOf path) value }

/-- Removes a file or a directory with all that it holds. -/
def remove (workspace : Workspace) (path : Path) : Workspace :=
  { workspace with tree := workspace.tree.erase (workspace.namesOf path) }

/-- The paths of all files from the starting directory as they are shown, in order. -/
def files (workspace : Workspace) : List String :=
  let inside := (workspace.tree.get? workspace.here).getD .empty
  let shown := inside.files.map fun names => (Path.ofSegments names).display
  shown.mergeSort fun a b => decide (a ≤ b)

end Workspace

end ImportRules
