import ImportRules.Cycle.Basic
import ImportRules.Diagram.Basic
import ImportRules.Json.Basic
import ImportRules.Text.Basic
/-!
# Violations

What a check can find wrong. Every violation carries what its report needs: the links with all the
imports behind them, the units, the filters.
-/

namespace ImportRules

/-- Why a link does not fit a diagram or a list of forbidden relations. -/
inductive DiagramReason where
  | undeclaredRelation
  | unknownComponent
  | forbidden
  deriving DecidableEq, Repr

def DiagramReason.name : DiagramReason → String
  | .undeclaredRelation => "undeclared-relation"
  | .unknownComponent => "unknown-component"
  | .forbidden => "forbidden"

/-- A side of a rule: the units it is about, or those it relates them to. -/
inductive Side where
  | object
  | subject
  deriving DecidableEq, Repr

def Side.name : Side → String
  | .object => "object"
  | .subject => "subject"

/-- A side of a rule that no unit is on, with descriptions of its filters. -/
structure EmptySide where
  side : Side
  filters : List String
  deriving DecidableEq, Repr

/-- A violation. -/
inductive Violation where
  /-- A dependency that leaves the allowed targets or, negated, meets a target that it must not. -/
  | dependency (link : Link) (negated : Bool)
  | cycle (found : Cycle)
  /-- A link that a diagram does not declare or that is forbidden, with the relation that forbids
  it. -/
  | diagram (link : Link) (relation : Option Relation) (reason : DiagramReason)
  /-- A rule with a side that no unit is on. -/
  | emptyResult (sides : List EmptySide)
  /-- A unit that does not meet an expectation or, negated, meets it. -/
  | file (unit expectation : String) (negated : Bool)
  deriving DecidableEq, Repr

namespace Violation

/-- Stable code of the kind of violation. -/
def code : Violation → String
  | .dependency .. => "DEP001"
  | .cycle .. => "CYCLE001"
  | .diagram .. => "DIAGRAM001"
  | .emptyResult .. => "EMPTY001"
  | .file .. => "FILE001"

/-- The imports behind a link, one line each. -/
def importLines (link : Link) : String :=
  String.join (link.edges.map fun edge => s!"\n    - {edge.describe}")

def describeSide (empty : EmptySide) : String :=
  let filters :=
    if empty.filters.isEmpty then "(any unit)" else String.intercalate " and " empty.filters
  s!"\n    {empty.side.name}s: {filters}"

/-- The violation in words, followed by the imports behind it. -/
def describe : Violation → String
  | .dependency link true =>
      s!"{link.source} must not depend on {link.target}" ++ importLines link
  | .dependency link false =>
      s!"{link.source} depends on {link.target}, which is outside the allowed targets" ++
        importLines link
  | .cycle found =>
      s!"cycle detected: {found.describe}" ++ String.join (found.links.map importLines)
  | .diagram link relation reason =>
      let summary :=
        match reason, relation with
        | .forbidden, some relation =>
            s!"{link.describe} matches forbidden relation {relation.describe}"
        | .forbidden, none => s!"{link.describe} is forbidden"
        | .unknownComponent, _ =>
            s!"{link.describe} involves a component missing from the diagram"
        | .undeclaredRelation, _ => s!"{link.describe} is not a relation of the diagram"
      summary ++ importLines link
  | .emptyResult sides => "rule matched no units" ++ String.join (sides.map describeSide)
  | .file unit expectation true => s!"{unit} must not satisfy: {expectation}"
  | .file unit expectation false => s!"{unit} does not satisfy: {expectation}"

/-- The code and the first line of the description. -/
def summary (violation : Violation) : String :=
  s!"[{violation.code}] " ++ String.ofList (Text.firstLine violation.describe.toList)

end Violation

/-! ## JSON form -/

/-- An edge as a JSON object. -/
def Edge.toJson (edge : Edge) : Json :=
  .object
    [("source", .string edge.source),
     ("target", .string edge.target),
     ("external", .bool edge.external),
     ("importKinds", .ofTexts (edge.kinds.map ImportKind.name))]

/-- A link as a JSON object. -/
def Link.toJson (link : Link) : Json :=
  .object
    [("sourceLabel", .string link.source),
     ("targetLabel", .string link.target),
     ("cumulatedEdges", .array (link.edges.map Edge.toJson))]

/-- A relation as a JSON object. -/
def Relation.toJson (relation : Relation) : Json :=
  .object [("source", .string relation.source), ("target", .string relation.target)]

/-- An empty side as a JSON object. -/
def EmptySide.toJson (empty : EmptySide) : Json :=
  .object [("partition", .string empty.side.name), ("filters", .ofTexts empty.filters)]

/-- A violation as a JSON object that starts with its kind. -/
def Violation.toJson : Violation → Json
  | .dependency link negated =>
      .object
        [("kind", .string "dependency"), ("edge", link.toJson), ("negated", .bool negated)]
  | .cycle found =>
      .object
        [("kind", .string "cycle"),
         ("cycle", .object [("edges", .array (found.links.map Link.toJson))])]
  | .diagram link relation reason =>
      .object
        [("kind", .string "diagram"),
         ("edge", link.toJson),
         ("rule", (relation.map Relation.toJson).getD .null),
         ("reason", .string reason.name)]
  | .emptyResult sides =>
      .object
        [("kind", .string "empty-result"), ("partitions", .array (sides.map EmptySide.toJson))]
  | .file unit expectation negated =>
      .object
        [("kind", .string "file"),
         ("unit", .string unit),
         ("expectation", .string expectation),
         ("negated", .bool negated)]

end ImportRules
