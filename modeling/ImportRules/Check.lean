import ImportRules.Cycle.Search
import ImportRules.Log
import ImportRules.Report
import ImportRules.Rule.Adherence
import ImportRules.Rule.Dependency
import ImportRules.Rule.Files
/-!
# Checks

A check is a question put to the edges of a project: are there cycles, is a rule kept, is a diagram
followed. A run puts a list of named checks to the same edges and gathers their findings in
order; no check sees what the others found.
-/

namespace ImportRules

/-- How edges become links before they are looked at. -/
structure View where
  projection : Projection
  ignoreExternal : Bool := true

/-- The links of a view. -/
def View.links (view : View) (edges : List Edge) : List Link :=
  view.projection.links (Edge.select view.ignoreExternal edges)

/-- A check. -/
inductive Check where
  | cycles (view : View) (limit : Option Nat)
  | dependency (rule : DependencyRule)
  | diagram (view : View) (rule : DiagramRule)
  | forbidden (view : View) (rule : ForbiddenRule)
  | files (rule : FileRule)

namespace Check

def kind : Check → String
  | .cycles .. => "cycles"
  | .dependency .. => "dependency"
  | .diagram .. => "diagram"
  | .forbidden .. => "forbidden"
  | .files .. => "files"

/-- The violations that a check finds. -/
def evaluate : Check → List Edge → List Violation
  | .cycles view limit, edges => (searchCycles (view.links edges) limit).cycles.map .cycle
  | .dependency rule, edges => rule.check edges
  | .diagram view rule, edges => rule.check (view.links edges)
  | .forbidden view rule, edges => rule.check (view.links edges)
  | .files rule, edges => rule.check edges

/-- The log line on how many links a projection made. -/
def projectedLine (projection : Projection) (links : List Link) : LogLine :=
  ⟨.debug, s!"Projected into {links.length} edge(s) using {projection.describe}", none⟩

/-- What a check logs while it is evaluated. -/
def log : Check → List Edge → List LogLine
  | .cycles view limit, edges =>
      let links := view.links edges
      let found := searchCycles links limit
      let count := found.cycles.length
      [projectedLine view.projection links] ++
        (if found.truncated then
          [⟨.warn, s!"Cycle search stopped after {count} cycle(s); results are incomplete", none⟩]
        else []) ++
        [⟨.debug, s!"Found {count} cycle(s)", none⟩]
  | .dependency rule, edges =>
      let links := rule.links edges
      let objects := (DependencyRule.side rule.objects links).length
      let subjects := (DependencyRule.side rule.subjects links).length
      [projectedLine .identity links,
       ⟨.debug,
        s!"Dependency rule partitions: {objects} object(s), {subjects} subject(s)", none⟩]
  | .diagram view _, edges | .forbidden view _, edges =>
      [projectedLine view.projection (view.links edges)]
  | .files _, edges =>
      [projectedLine .identity (Projection.identity.links (Edge.select true edges))]

end Check

/-- A check with its name and the severity of its findings. -/
structure NamedCheck where
  name : String
  severity : Severity
  check : Check

namespace NamedCheck

/-- The findings of a check. -/
def findings (named : NamedCheck) (edges : List Edge) : List Finding :=
  (named.check.evaluate edges).map fun violation => ⟨named.name, named.severity, violation⟩

/-- What a run logs on a check. -/
def log (named : NamedCheck) (edges : List Edge) : List LogLine :=
  let count := (named.check.evaluate edges).length
  named.check.log edges ++
    [⟨.debug, s!"{named.check.kind} check '{named.name}': {count} violation(s)", none⟩]

end NamedCheck

/-- Runs checks on the same edges. -/
def runChecks (checks : List NamedCheck) (edges : List Edge) : Report where
  findings := checks.flatMap (·.findings edges)
  edgesChecked := edges.length
  checksRun := checks.length

/-- What a run logs, in the scope of its name. -/
def runLog (scope : String) (checks : List NamedCheck) (edges : List Edge) : List LogLine :=
  let found := (runChecks checks edges).findings.length
  let total : LogLine :=
    ⟨.info, s!"Ran {checks.length} check(s) over {edges.length} edge(s): {found} finding(s)", none⟩
  (checks.flatMap (fun named => named.log edges) ++ [total]).map (LogLine.inScope scope)

end ImportRules
