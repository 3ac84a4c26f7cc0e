import ImportRules.Command.Output
import ImportRules.Config.Loader
import ImportRules.Extraction.Session
/-!
# Running a command

A command works on a file tree and gives a new one together with what it prints, what it logs and
its exit status: 0, 1 if a check or the command itself fails, and 2 if the command line is not
understood.
-/

namespace ImportRules.Command

/-- The surroundings of a run. -/
structure Environment where
  workspace : Workspace
  /-- The directory of the configuration that is used where a project has none. -/
  globalDirectory : Option Path := none

/-- What a run came to. -/
structure Outcome where
  exit : Nat := 0
  output : String := ""
  log : List LogLine := []
  /-- Why the command failed. -/
  error : Option String := none
  workspace : Workspace

namespace Environment

/-- The outcome of a command that prints a text and leaves the files alone. -/
def printing (environment : Environment) (output : String) : Outcome :=
  { output, workspace := environment.workspace }

/-- The outcome of a command that fails. -/
def failing (environment : Environment) (log : List LogLine) (message : String) : Outcome :=
  { exit := 1, log, error := some message, workspace := environment.workspace }

end Environment

/-- Where a configuration was found. -/
inductive ConfigOrigin where
  | explicit (path : Path)
  | project (path : Path)
  | global (path : Path)
  | missing
  deriving DecidableEq, Repr

namespace ConfigOrigin

def path? : ConfigOrigin → Option Path
  | .explicit path | .project path | .global path => some path
  | .missing => none

/-- Looks for a configuration: one that is asked for is taken without looking, then come the files
of the project and the file of the global directory. -/
def find (environment : Environment) (project : Path) : Option Path → ConfigOrigin
  | some path => .explicit path
  | none =>
      let local? := ([Path.ofText "archgraph.toml", ".archgraph.toml"].map project.join).find?
        environment.workspace.has
      let global? := (environment.globalDirectory.map (·.join "config.toml")).filter
        environment.workspace.has
      match local?, global? with
      | some path, _ => .project path
      | none, some path => .global path
      | none, none => .missing

/-- What is logged when a configuration is loaded. -/
def log : ConfigOrigin → List LogLine
  | .global path => [⟨.info, s!"Using global config: {path}", none⟩]
  | _ => []

/-- Loads the configuration, or says why that fails. -/
def load (workspace : Workspace) (origin : ConfigOrigin) : Except String Config :=
  match origin.path? with
  | none => .error noConfig
  | some path =>
      match Config.ofFile workspace.read? path with
      | .ok config => .ok config
      | .error _ => .error s!"Failed to load config: {path}"

/-- The settings on where edges come from; without a configuration they are the default ones. -/
def extraction (workspace : Workspace) : ConfigOrigin → Except String ExtractionSettings
  | .missing => .ok {}
  | origin => (origin.load workspace).map (·.extraction)

end ConfigOrigin

/-- What is logged before checks are run: names that are asked for in vain, and what is checked. -/
def selectionLog (config : Config) (only : List String) (source : EdgeSource) : List LogLine :=
  let unknown := only.filter fun name => !config.checks.any (·.name == name)
  let checks := (config.select only).checks
  (unknown.map fun name => ⟨.warn, s!"No check named '{name}' in config", none⟩) ++
    (if checks.isEmpty then [⟨.warn, "No checks to run", none⟩] else []) ++
    [⟨.info, s!"Checking {source.describe} with {checks.length} check(s)", none⟩]

/-- Says from where edges could not be extracted. -/
def extractionFailure (source : EdgeSource) : String :=
  s!"Failed to extract edges from {source.describe}"

/-- Runs the checks of a configuration. -/
def check (environment : Environment) (origin : ConfigOrigin) (path : Path)
    (format : OutputFormat) (only : List String) (failOn : Severity) : Outcome :=
  match origin.load environment.workspace with
  | .error message => environment.failing origin.log message
  | .ok config =>
      let source := config.extraction.sourceFrom path
      let log := origin.log ++ selectionLog config only source
      match Extraction.fresh environment.workspace source config.extraction.scanOptions with
      | .error _ => environment.failing log (extractionFailure source)
      | .ok extraction =>
          let checks := (config.select only).checks
          let report := runChecks checks extraction.edges
          { exit := if report.failsAt failOn then 1 else 0
            output := formatReport report failOn format
            log := log ++ extraction.logIn path source ++ runLog path checks extraction.edges
            workspace := environment.workspace }

/-- Lists the kinds of checks and the checks of a configuration. -/
def listChecks (environment : Environment) (origin : ConfigOrigin) : Outcome :=
  match origin.path? with
  | none => environment.printing (kindsTable ++ lines ["", noConfig])
  | some path =>
      match origin.load environment.workspace with
      | .error message =>
          { environment.failing origin.log message with output := kindsTable }
      | .ok config =>
          { environment.printing (kindsTable ++ checksTable path config.checks) with
            log := origin.log }

/-- Prints the edges that a check would see. Without a configuration the path is scanned. -/
def edges (environment : Environment) (origin : ConfigOrigin) (path : Path) : Outcome :=
  match origin.extraction environment.workspace with
  | .error message => environment.failing origin.log message
  | .ok settings =>
      let source := settings.sourceFrom path
      match Extraction.fresh environment.workspace source settings.scanOptions with
      | .error _ => environment.failing origin.log (extractionFailure source)
      | .ok extraction =>
          { environment.printing (edgeList extraction.edges) with
            log := origin.log ++ extraction.logIn "edges" source }

/-- The file that a new configuration is written to. -/
def starterPath : Path :=
  Path.join "." "archgraph.toml"

/-- The outcome with a configuration to start from in place. -/
def writeStarter (environment : Environment) : Outcome :=
  { output := createdText starterPath
    workspace := environment.workspace.write starterPath (.file starterConfig.toUTF8) }

/-- Writes a configuration to start from. What is there already stays, unless it is a file and
`force` is set. -/
def init (environment : Environment) (force : Bool) : Outcome :=
  match environment.workspace.find? starterPath, force with
  | none, _ | some (.file _), true => writeStarter environment
  | some (.directory _), true => environment.failing [] "Is a directory (os error 21)"
  | some _, false =>
      environment.failing []
        s!"Configuration file already exists at {starterPath}. Use --force to overwrite."

/-- Does a task. -/
def perform (environment : Environment) (config : Option Path) : Task → Outcome
  | .check path format only failOn =>
      check environment (.find environment path config) path format only failOn
  | .listChecks path => listChecks environment (.find environment path config)
  | .init force => init environment force
  | .edges path => edges environment (.find environment path config) path

/-- Runs a command line. -/
def run (environment : Environment) (arguments : List String) : Outcome :=
  match Request.ofArguments arguments with
  | .usage => { environment.printing "" with exit := 2 }
  | .help command => environment.printing (helpText command)
  | .version => environment.printing versionText
  | .run task config _ => perform environment config task

end ImportRules.Command
