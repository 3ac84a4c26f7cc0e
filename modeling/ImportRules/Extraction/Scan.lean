import ImportRules.Config.Basic
import ImportRules.Ignore.Walk
import ImportRules.Source.Imports
/-!
# Scanning a project

A scan walks the sources below a directory, reads their import statements and resolves them to
edges. The units of a project are all files with a source extension. Declaration files and excluded
units can be imported, but their own statements are not read.
-/

namespace ImportRules

/-- Why edges could not be extracted. -/
inductive ExtractError where
  | notFound (path : Path)
  | unreadable (path : Path)
  /-- The file is not a JSON list of edges. -/
  | badEdgeFile (path : Path)
  /-- The settings file of a project is malformed. -/
  | badSettings (path : Path)
  /-- The directory cannot be walked. -/
  | walk
  deriving DecidableEq, Repr

/-- What is not found is named in the message; the other messages end in a cause that is not
ours. -/
def ExtractError.message : ExtractError → String
  | .notFound path => s!"extraction source not found: {path}"
  | .unreadable path => s!"failed to read {path}"
  | .badEdgeFile path => s!"invalid edge file {path}"
  | .badSettings path => s!"invalid tsconfig {path}"
  | .walk => "failed to walk project"

/-- A file that a walk found. -/
structure SourceFile where
  /-- The path from the root of the project, as it is shown. -/
  unit : String
  path : Path
  tree : FileTree

namespace ScanOptions

/-- Whether a file counts as a source, by its name. -/
def accepts (options : ScanOptions) (name : Path) : Bool :=
  name.extension?.any (options.extensions.map Path.ofText).contains

/-- Whether the statements of a unit are read. -/
def reads (options : ScanOptions) (unit : String) : Bool :=
  !(".d.ts".toList.isSuffixOf unit.toList || options.exclude.any (·.isMatch unit))

end ScanOptions

namespace Scan

/-- The file at the end of a path of names below a root. -/
def fileAt (root : Path) (names : List Path) (tree : FileTree) : SourceFile where
  unit := Text.joined "/" (names.map Path.display)
  path := names.foldl Path.join root
  tree := tree

/-- Whether a path of names comes before another or is the same. -/
def namesLe (names others : List Path) : Bool :=
  decide (names.map Path.bytes ≤ others.map Path.bytes)

/-- The source files below a directory, in order of their units. Files whose units are shown alike
are in order of their paths. -/
def discover (workspace : Workspace) (root : Path) (options : ScanOptions) :
    Except ExtractError (List SourceFile) :=
  match Walk.files? workspace root with
  | none => .error .walk
  | some found =>
      let sources := found.filter fun entry => entry.1.getLast?.any options.accepts
      let files := (sources.mergeSort fun a b => namesLe a.1 b.1).map fun entry =>
        fileAt root entry.1 entry.2
      .ok (files.mergeSort fun a b => decide (a.unit ≤ b.unit))

/-- The edges of a unit with a given text. -/
def edgesOf (resolver : Source.Resolver) (unit text : String) : List Edge :=
  (Source.imports text.toList).map fun statement =>
    match resolver.resolve unit statement.specifier with
    | .internal target => { source := unit, target, external := false, kinds := statement.kinds }
    | .external target => { source := unit, target, external := true, kinds := statement.kinds }

/-- The edges of a file. -/
def edgesOfFile (resolver : Source.Resolver) (file : SourceFile) :
    Except ExtractError (List Edge) :=
  match file.tree.text? with
  | some text => .ok (edgesOf resolver file.unit text)
  | none => .error (.unreadable file.path)

/-- The resolver of a project with the given files. -/
def resolverOf (options : ScanOptions) (aliases : Source.AliasTable) (files : List SourceFile) :
    Source.Resolver where
  units := files.map (·.unit)
  extensions := options.extensions
  aliases := aliases

/-- The edges of the files whose statements are read, in the order of the files. -/
def edgesOfFiles (options : ScanOptions) (aliases : Source.AliasTable) (files : List SourceFile) :
    Except ExtractError (List Edge) := do
  let read ← (files.filter fun file => options.reads file.unit).mapM
    (edgesOfFile (resolverOf options aliases files))
  .ok read.flatten

/-- The aliases in a settings file. -/
def readSettings (workspace : Workspace) (path : Path) :
    Except ExtractError Source.AliasTable :=
  match workspace.read? path with
  | none => .error (.unreadable path)
  | some text =>
      match Source.AliasTable.ofText? text with
      | some aliases => .ok aliases
      | none => .error (.badSettings path)

/-- The root of a project and its aliases. The path of a project is its root, or the settings file
in it. -/
def openProject (workspace : Workspace) (path : Path) :
    Except ExtractError (Path × Source.AliasTable) :=
  match workspace.find? path with
  | none => .error (.notFound path)
  | some (.file _) => (readSettings workspace path).map (path.parent, ·)
  | some (.directory _) =>
      let settings := path.join "tsconfig.json"
      if workspace.hasFile settings then (readSettings workspace settings).map (path, ·)
      else .ok (path, {})

end Scan

/-- What a scan found. -/
structure Scan where
  root : Path
  /-- Number of files whose statements were read. -/
  sources : Nat
  edges : List Edge

namespace Scan

/-- Scans the project at a path. -/
def run (workspace : Workspace) (path : Path) (options : ScanOptions) :
    Except ExtractError Scan := do
  let (root, aliases) ← openProject workspace path
  let files ← discover workspace root options
  let edges ← edgesOfFiles options aliases files
  .ok { root, sources := (files.filter fun file => options.reads file.unit).length, edges }

/-- What a scan logs. -/
def log (scan : Scan) : List LogLine :=
  let count := scan.edges.length
  [⟨.info, s!"Scanned {scan.sources} source files, {count} edges, in {scan.root}", none⟩]

end Scan

end ImportRules
