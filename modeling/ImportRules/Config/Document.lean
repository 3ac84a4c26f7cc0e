import ImportRules.Toml.Basic
/-!
# The configuration as written

The entries of a configuration file before anything about them is checked: patterns are texts,
severities are words, and two settings that exclude each other may both be there. Missing settings
have their defaults.
-/

namespace ImportRules.Config

/-- Where edges come from and which files count as sources. -/
structure ExtractionEntry where
  edges : Option String := none
  project : Option String := none
  exclude : List String := []
  extensions : List String := []
  deriving DecidableEq, Repr

/-- How units are grouped. -/
inductive ProjectionEntry where
  | identity
  | slices (pattern regex : Option String)
  | suffix (groups : List (String × String))
  deriving DecidableEq, Repr

/-- A condition on units. -/
structure FilterEntry where
  glob : Option String := none
  regex : Option String := none
  target : Option String := none
  deriving DecidableEq, Repr

structure CyclesEntry where
  name : String
  projection : ProjectionEntry := .identity
  ignoreExternal : Bool := true
  maxCycles : Option Nat := none
  severity : String := "error"
  deriving DecidableEq, Repr

structure DependencyEntry where
  name : String
  mode : String
  objects : List FilterEntry := []
  subjects : List FilterEntry := []
  allowEmpty : Bool := false
  includeExternal : Bool := false
  severity : String := "error"
  deriving DecidableEq, Repr

structure DiagramEntry where
  name : String
  projection : ProjectionEntry := .identity
  file : Option String := none
  text : Option String := none
  ignoreUnknown : Bool := false
  ignoreExternal : Bool := true
  severity : String := "error"
  deriving DecidableEq, Repr

structure RelationEntry where
  source : String
  target : String
  deriving DecidableEq, Repr

structure ForbiddenEntry where
  name : String
  projection : ProjectionEntry := .identity
  rules : List RelationEntry
  ignoreExternal : Bool := true
  severity : String := "error"
  deriving DecidableEq, Repr

structure FilesEntry where
  name : String
  objects : List FilterEntry := []
  mode : String := "should"
  pattern : FilterEntry
  allowEmpty : Bool := false
  severity : String := "error"
  deriving DecidableEq, Repr

/-- A whole configuration file. -/
structure Document where
  extraction : ExtractionEntry := {}
  cycles : List CyclesEntry := []
  dependency : List DependencyEntry := []
  diagram : List DiagramEntry := []
  forbidden : List ForbiddenEntry := []
  files : List FilesEntry := []
  deriving DecidableEq, Repr

end ImportRules.Config
