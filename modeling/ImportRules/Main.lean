import ImportRules.Command.Run
/-!
# The program

Reads those files that a command line can concern, runs it on them, and carries out what came of
it. Every decision is made by `Command.run`.
-/

namespace ImportRules.Main

/-- The names on the way to a path from the top of the file system. -/
def namesOf (directory path : Path) : List Path :=
  let climb := fun (names : List Path) (segment : Path) =>
    if segment.isIdle then names
    else if segment = Path.ofText ".." then names.tail
    else segment :: names
  ((directory.join path).segments.foldl climb []).reverse

/-- What lies at a path, with all that is below it or with nothing below it. The insides of
directories that are never visited are left out. -/
partial def readTree (path : Path) (deep : Bool) : IO (Option FileTree) := do
  let here : IO.FS.DirEntry := { root := path.display, fileName := "." }
  if ← here.path.isDir then
    if deep then
      let mut entries : List (Path × FileTree) := []
      for inner in ← here.path.readDir do
        let isVisited := !Walk.skippedNames.contains inner.fileName
        if let some tree ← readTree (path.join inner.fileName) isVisited then
          entries := (inner.fileName, tree) :: entries
      return some (.directory entries)
    else return some .empty
  else
    try return some (.file (← IO.FS.readBinFile path.display))
    catch _ => return none

/-- Adds what lies at a path, unless it is known already. -/
def load (directory : Path) (deep : Bool) (tree : FileTree) (path : Path) : IO FileTree := do
  let names := namesOf directory path
  match ← readTree (directory.join path) deep with
  | some found =>
      if !deep && (tree.get? names).isSome then return tree else return tree.insert names found
  | none => return tree

/-- Adds the directories on the way to a path. -/
def loadWay (directory : Path) (tree : FileTree) (path : Path) : IO FileTree :=
  let segments := path.segments
  let ways := (List.range segments.length).map fun n => Path.ofSegments (segments.take (n + 1))
  ways.foldlM (load directory false) tree

/-- Adds the ignore files of the directories above a path. -/
def loadIgnoreFiles (directory : Path) (tree : FileTree) (path : Path) : IO FileTree :=
  let names := namesOf directory path
  let above := (List.range names.length).map fun n =>
    Path.join "/" (Path.ofSegments (names.take n))
  let files := above.flatMap fun place =>
    [".ignore", ".gitignore", ".git", ".git/info/exclude"].map fun name : String => place.join name
  files.foldlM (load directory false) tree

/-- The files that a configuration refers to: diagrams and an edge file. -/
def filesOf (base : Path) (document : Config.Document) : List Path :=
  (document.diagram.filterMap (·.file) ++ document.extraction.edges.toList).map fun file : String =>
    base.join file

/-- Adds the files that a project consists of. -/
def loadProject (directory : Path) (tree : FileTree) (path : Path) : IO FileTree := do
  let tree ← loadWay directory tree path
  let isFile := (tree.get? (namesOf directory path)).any FileTree.isFile
  let root := if isFile then path.parent else path
  loadIgnoreFiles directory (← load directory true tree root) root

/-- Adds what a task on a project needs, given where its configuration may lie. -/
def loadTask (directory : Path) (environment : Command.Environment) (config : Option Path)
    (path : Path) : IO Command.Environment := do
  let places := config.toList ++
    [Path.ofText "archgraph.toml", ".archgraph.toml"].map path.join ++
    environment.globalDirectory.toList.map (·.join "config.toml")
  let tree ← places.foldlM (loadWay directory) environment.workspace.tree
  let workspace := { environment.workspace with tree }
  let found := Command.ConfigOrigin.find { environment with workspace } path config
  let base := (found.path?.getD ⟨[]⟩).parent
  let document := ((found.path?.bind workspace.read?).bind Config.Document.ofText?).getD {}
  let tree ← (filesOf base document).foldlM (loadWay directory) tree
  let project := (document.extraction.project.map fun project => base.join project).getD path
  let tree ← if document.extraction.edges.isSome then pure tree
    else loadProject directory tree project
  return { environment with workspace := { workspace with tree } }

/-- Adds what a request needs. -/
def loadRequest (directory : Path) (environment : Command.Environment) :
    Command.Request → IO Command.Environment
  | .run (.check path ..) config _ | .run (.listChecks path) config _
  | .run (.edges path) config _ => loadTask directory environment config path
  | .run (.init _) .. => do
      let tree ← loadWay directory environment.workspace.tree Command.starterPath
      return { environment with workspace := { environment.workspace with tree } }
  | _ => return environment

/-- Whether a request asks for all log lines. -/
def isVerbose : Command.Request → Bool
  | .run _ _ verbose => verbose
  | _ => false

/-- Writes the file that a request made, if it made one. -/
def store (request : Command.Request) (outcome : Command.Outcome) : IO Unit := do
  match request, outcome.workspace.read? Command.starterPath with
  | .run (.init _) .., some text =>
      if outcome.exit = 0 then IO.FS.writeFile Command.starterPath.display text
  | _, _ => return

end ImportRules.Main

open ImportRules in
/-- Runs a command line. -/
def main (arguments : List String) : IO UInt32 := do
  let directory := Path.ofText (← IO.currentDir).toString
  let home := (← IO.getEnv "HOME").map fun home => Path.join home ".archgraph"
  let globalDirectory := (← IO.getEnv "ARCHGRAPH_CONFIG_DIR").map Path.ofText <|> home
  let here := Main.namesOf directory "."
  let workspace : Workspace := { tree := FileTree.empty.insert here .empty, here }
  let request := Command.Request.ofArguments arguments
  let environment ← Main.loadRequest directory { workspace, globalDirectory } request
  let outcome := Command.run environment arguments
  Main.store request outcome
  for line in outcome.log do
    if line.level != .debug || Main.isVerbose request then IO.eprintln line.describe
  IO.print outcome.output
  if let some message := outcome.error then IO.eprintln s!"Error: {message}"
  if outcome.exit = 2 then IO.eprint (Command.helpText none)
  return outcome.exit.toUInt32
