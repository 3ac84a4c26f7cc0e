import ImportRules.Filter
import ImportRules.Node
import ImportRules.Projection.Basic
import ImportRules.Rule.Basic
import ImportRules.Violation
/-!
# Dependency rules

A dependency rule is about the units on its object side. In the mode `should` all their
dependencies have to lie on the subject side, in the mode `should-not` none of them may. A side
that no unit is on makes the rule pointless and is reported instead, unless that is allowed.
-/

namespace ImportRules

/-- A rule on the dependencies between two sets of units. -/
structure DependencyRule where
  mode : RuleMode
  objects : List Filter
  subjects : List Filter
  allowEmpty : Bool := false
  includeExternal : Bool := false

namespace DependencyRule

/-- A rule needs a filter on one of its sides. -/
def create (mode : RuleMode) (objects subjects : List Filter) (allowEmpty includeExternal : Bool) :
    Except RuleError DependencyRule :=
  if objects.isEmpty && subjects.isEmpty then .error .noFilters
  else .ok { mode, objects, subjects, allowEmpty, includeExternal }

/-- The links between units that the rule looks at. -/
def links (rule : DependencyRule) (edges : List Edge) : List Link :=
  Projection.identity.links (Edge.select (!rule.includeExternal) edges)

/-- The units of a list of links that all filters accept. -/
def side (filters : List Filter) (links : List Link) : List String :=
  ((Node.ofLinks links false).map (·.label)).filter (Filter.allAccept filters)

/-- A link that breaks the rule, given the units on either side. -/
def isBroken (mode : RuleMode) (objects subjects : List String) (link : Link) : Bool :=
  !link.isLoop && objects.contains link.source &&
    match mode with
    | .should => !subjects.contains link.target
    | .shouldNot => subjects.contains link.target

/-- The sides that no unit is on. -/
def emptySides (rule : DependencyRule) (objects subjects : List String) : List EmptySide :=
  (if objects.isEmpty then [⟨.object, rule.objects.map Filter.describe⟩] else []) ++
    (if subjects.isEmpty then [⟨.subject, rule.subjects.map Filter.describe⟩] else [])

/-- The violations of a rule. -/
def check (rule : DependencyRule) (edges : List Edge) : List Violation :=
  let links := rule.links edges
  let objects := side rule.objects links
  let subjects := side rule.subjects links
  let empty := if rule.allowEmpty then [] else rule.emptySides objects subjects
  if empty.isEmpty then
    (links.filter (isBroken rule.mode objects subjects)).map fun link =>
      .dependency link (rule.mode == .shouldNot)
  else [.emptyResult empty]

end DependencyRule

end ImportRules
