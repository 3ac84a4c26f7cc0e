import ImportRules.FileTree
import ImportRules.Ignore.Rule
/-!
# Walking a project

A walk visits the files below a directory, apart from those that ignore files rule out and from
what lies in a few directories that are never visited. For a path the ignore files of its
directory and of all directories above it are asked, the nearest first. A rule of an `.ignore` file
wins over one of a `.gitignore` file, and that over one of the exclude file of a repository. The
last two count only inside a repository, and only up to the directory that holds it. The excludes
that a user keeps for all repositories lie outside of the workspace, and there are taken to be none.
-/

namespace ImportRules

/-- The ignore files of a directory. -/
structure IgnoreFrame where
  /-- The name of the directory. -/
  name : Path
  plain : IgnoreFile := {}
  git : IgnoreFile := {}
  exclude : IgnoreFile := {}
  /-- The directory holds a repository. -/
  isRepository : Bool := false

namespace IgnoreFrame

/-- The ignore file in a file of a directory. -/
def fileIn (directory : FileTree) (names : List Path) : IgnoreFile :=
  match directory.get? names with
  | some (.file content) => .ofContent content
  | _ => {}

/-- The first line of a file, `none` if the file is empty. -/
def firstLine? (tree : FileTree) : Option String :=
  tree.text?.bind fun text =>
    if text.isEmpty then none else some (String.ofList (Text.firstLine text.toList))

/-- The directory with the settings of a repository that is linked by the file `link`. -/
def linkedSettings? (workspace : Workspace) (link : FileTree) : Option Path := do
  let line ← firstLine? link
  let target ← "gitdir: ".toList.isPrefixOf? line.toList
  let directory := Path.ofText (String.ofList target)
  let common ← firstLine? (← workspace.find? (directory.join "commondir"))
  some (if common.toList.head? = some '.' then directory.join common else Path.ofText common)

/-- The exclude file of the repository in a directory. -/
def excludeOf (workspace : Workspace) (directory : FileTree) : IgnoreFile :=
  match directory.child? ".git" with
  | some (.file content) =>
      let linked := (linkedSettings? workspace (.file content)).bind fun settings =>
        workspace.find? (settings.join "info/exclude")
      match linked with
      | some (.file content) => .ofContent content
      | _ => {}
  | _ => fileIn directory [".git", "info", "exclude"]

/-- The ignore files of a directory. -/
def ofDirectory (workspace : Workspace) (name : Path) (directory : FileTree) :
    IgnoreFrame where
  name := name
  plain := fileIn directory [".ignore"]
  git := fileIn directory [".gitignore"]
  exclude := excludeOf workspace directory
  isRepository := (directory.child? ".git").isSome

/-- Whether a line of one of the files is malformed. -/
def malformed (frame : IgnoreFrame) : Bool :=
  frame.plain.malformed || frame.git.malformed || frame.exclude.malformed

/-- The verdict of the nearest directory that has one. Frames stand nearest first, and `path` leads
from the first of them. A frame that satisfies `stop` is the last that is asked. -/
def nearest? (file : IgnoreFrame → IgnoreFile) (stop : IgnoreFrame → Bool) (isDirectory : Bool)
    (path : Path) : List IgnoreFrame → Option Verdict
  | [] => none
  | frame :: rest =>
      match (file frame).verdict? path isDirectory with
      | some verdict => some verdict
      | none =>
          if stop frame then none
          else nearest? file stop isDirectory (frame.name.join path) rest

/-- What all ignore files say about a name in the nearest directory. -/
def verdict? (frames : List IgnoreFrame) (name : Path) (isDirectory : Bool) : Option Verdict :=
  let plain := nearest? plain (fun _ => false) isDirectory name frames
  if frames.any isRepository then
    plain <|> nearest? git isRepository isDirectory name frames <|>
      nearest? exclude isRepository isDirectory name frames
  else plain

end IgnoreFrame

namespace Walk

/-- Names that are never visited. -/
def skippedNames : List Path :=
  ["node_modules", ".git"]

/-- Whether a walk visits a name in the nearest directory. -/
def visits (frames : List IgnoreFrame) (name : Path) (tree : FileTree) : Bool :=
  IgnoreFrame.verdict? frames name tree.isDirectory != some .ignored && !skippedNames.contains name

mutual

/-- The paths of the files that a walk finds in a tree, and their trees. `frames` are the ignore
files of the directories above it, and `name` is its own name. -/
def filesBelow (workspace : Workspace) (frames : List IgnoreFrame) (name : Path) :
    FileTree → List (List Path × FileTree)
  | .file content => [([], .file content)]
  | .directory entries =>
      filesAmong workspace (.ofDirectory workspace name (.directory entries) :: frames) entries

/-- The files that a walk finds among the entries of the nearest directory. -/
def filesAmong (workspace : Workspace) (frames : List IgnoreFrame) :
    List (Path × FileTree) → List (List Path × FileTree)
  | [] => []
  | (name, tree) :: rest =>
      (if visits frames name tree then
        (filesBelow workspace frames name tree).map fun (names, file) => (name :: names, file)
      else []) ++ filesAmong workspace frames rest

end

/-- The ignore files of the directories above the end of a path of names, nearest first. -/
def framesAbove (workspace : Workspace) (names : List Path) : List IgnoreFrame :=
  let above := (List.range names.length).map names.take
  (above.map fun path =>
    IgnoreFrame.ofDirectory workspace (path.getLast?.getD ⟨[]⟩)
      ((workspace.tree.get? path).getD .empty)).reverse

/-- The files below a directory. `none` means that the directory cannot be walked: the path leads
nowhere, or an ignore file above it is malformed. -/
def files? (workspace : Workspace) (root : Path) : Option (List (List Path × FileTree)) := do
  let names ← (workspace.locate root).toOption
  let tree ← workspace.tree.get? names
  let above := framesAbove workspace names
  if above.any IgnoreFrame.malformed then none
  else some (filesBelow workspace above (names.getLast?.getD ⟨[]⟩) tree)

end Walk

end ImportRules
