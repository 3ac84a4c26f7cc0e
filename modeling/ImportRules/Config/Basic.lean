import ImportRules.Check
import ImportRules.Path
import ImportRules.Source.Resolver
/-!
# Configurations

A configuration that has passed all tests: where edges come from, which files count as sources,
and the checks to run.
-/

namespace ImportRules

/-- Where edges come from. -/
inductive EdgeSource where
  /-- A JSON file that lists edges. -/
  | edgeFile (path : Path)
  /-- A directory of sources, or the settings file in it. -/
  | project (path : Path)
  deriving DecidableEq, Repr

/-- A source as written in messages. Sources that are written alike are not told apart. -/
def EdgeSource.describe : EdgeSource → String
  | .edgeFile path => s!"edges:{path}"
  | .project path => s!"project:{path}"

/-- Which files of a project are scanned. -/
structure ScanOptions where
  exclude : List Glob := []
  /-- Extensions without their dot. -/
  extensions : List String := Source.defaultExtensions

/-- Settings on where edges come from. -/
structure ExtractionSettings where
  source : Option EdgeSource := none
  exclude : List Glob := []
  /-- Extensions without their dot. None at all stands for the default ones. -/
  extensions : List String := []

namespace ExtractionSettings

/-- The source of edges, which is the project at the root unless another one is set. -/
def sourceFrom (settings : ExtractionSettings) (root : Path) : EdgeSource :=
  settings.source.getD (.project root)

def scanOptions (settings : ExtractionSettings) : ScanOptions where
  exclude := settings.exclude
  extensions :=
    if settings.extensions.isEmpty then Source.defaultExtensions else settings.extensions

end ExtractionSettings

/-- A configuration. -/
structure Config where
  extraction : ExtractionSettings := {}
  checks : List NamedCheck := []

/-- The configuration with only the checks that are asked for; no names ask for all of them. -/
def Config.select (config : Config) (names : List String) : Config :=
  if names.isEmpty then config
  else { config with checks := config.checks.filter fun named => names.contains named.name }

end ImportRules
