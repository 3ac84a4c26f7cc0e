import ImportRules.Automaton.Search
import ImportRules.Expression.Reader
import ImportRules.Glob
import ImportRules.UnitPath
/-!
# Filters on units

A filter looks at one part of a unit's path and asks whether a pattern fits it: a glob must
describe the whole part, a regular expression must match somewhere in it. A list of filters
accepts the units that all of them accept.
-/

namespace ImportRules

/-- Why a pattern is refused. -/
inductive PatternError where
  | empty
  | invalidGlob (pattern reason : String)
  | invalidRegex (pattern : String)
  | captureGroups (pattern : String) (found : Nat)
  | unknownTarget (name : String)
  deriving DecidableEq, Repr

def PatternError.message : PatternError → String
  | .empty => "pattern must not be empty"
  | .invalidGlob pattern reason => s!"invalid glob pattern `{pattern}`: {reason}"
  | .invalidRegex pattern => s!"invalid regex `{pattern}`"
  | .captureGroups pattern found =>
      s!"slice pattern `{pattern}` must have exactly one capture group, found {found}"
  | .unknownTarget name =>
      s!"unknown match target `{name}`, expected: filename, path, directory, unit"

/-- The part of a path that a filter looks at. -/
inductive Target where
  | filename
  | path
  | directory
  /-- The file name without its last extension. -/
  | unit
  deriving DecidableEq, Repr

namespace Target

def name : Target → String
  | .filename => "filename"
  | .path => "path"
  | .directory => "directory"
  | .unit => "unit"

/-- The target with a given name. -/
def ofName : String → Except PatternError Target
  | "filename" => .ok .filename
  | "path" => .ok .path
  | "directory" => .ok .directory
  | "unit" => .ok .unit
  | other => .error (.unknownTarget other)

/-- The part of a unit's path that a target names. -/
def select (target : Target) (unit : String) : String :=
  match target with
  | .path => unit
  | .filename => UnitPath.fileName unit
  | .directory => UnitPath.directory unit
  | .unit => UnitPath.stem unit

end Target

/-- A glob or a regular expression. -/
inductive Pattern where
  | glob (parsed : Glob)
  | regex (raw : String) (automaton : Automaton)

namespace Pattern

/-- Reads a glob that must not be empty. -/
def readGlob (text : String) : Except PatternError Glob :=
  if text.isEmpty then .error .empty
  else
    match Glob.ofText text with
    | .ok parsed => .ok parsed
    | .error fault => .error (.invalidGlob text fault.message)

/-- The pattern that a glob stands for. -/
def ofGlob (text : String) : Except PatternError Pattern :=
  (readGlob text).map .glob

/-- Reads a regular expression. -/
def ofRegex (text : String) : Except PatternError Pattern :=
  if text.isEmpty then .error .empty
  else
    match Expression.ofText? text.toList with
    | some parsed => .ok (.regex text parsed.automaton)
    | none => .error (.invalidRegex text)

/-- Whether a pattern fits a text. -/
def isMatch : Pattern → String → Bool
  | .glob parsed, text => parsed.isMatch text
  | .regex _ automaton, text => automaton.isMatch text.toList

def describe : Pattern → String
  | .glob parsed => s!"glob \"{parsed.raw}\""
  | .regex raw _ => s!"regex /{raw}/"

end Pattern

/-- A pattern and the part of a path that it is held against. -/
structure Filter where
  pattern : Pattern
  target : Target

namespace Filter

/-- Whether a filter accepts a unit. -/
def accepts (filter : Filter) (unit : String) : Bool :=
  filter.pattern.isMatch (filter.target.select unit)

def describe (filter : Filter) : String :=
  s!"{filter.target.name} matching {filter.pattern.describe}"

/-- Whether all filters accept a unit. -/
def allAccept (filters : List Filter) (unit : String) : Bool :=
  filters.all (·.accepts unit)

end Filter

end ImportRules
