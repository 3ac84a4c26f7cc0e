import ImportRules.Filter
import ImportRules.Node
import ImportRules.Projection.Basic
import ImportRules.Rule.Basic
import ImportRules.Violation
/-!
# File rules

A file rule is about the units of a project one by one: every unit that its filters accept has to
meet an expectation, or must not meet it. External imports play no part.
-/

namespace ImportRules

/-- What a unit is expected to be. -/
inductive Expectation where
  /-- Accepted by a filter. -/
  | fits (filter : Filter)
  /-- Whatever the description says of the unit's node. -/
  | holds (description : String) (predicate : Node → Bool)

namespace Expectation

/-- Whether a node meets an expectation. -/
def isMet : Expectation → Node → Bool
  | .fits filter, node => filter.accepts node.label
  | .holds _ predicate, node => predicate node

def describe : Expectation → String
  | .fits filter => filter.describe
  | .holds description _ => description

end Expectation

/-- A rule on single units. -/
structure FileRule where
  objects : List Filter
  mode : RuleMode
  expectation : Expectation
  allowEmpty : Bool := false

namespace FileRule

/-- A rule without filters needs an expectation that is a filter itself. -/
def create (objects : List Filter) (mode : RuleMode) (expectation : Expectation)
    (allowEmpty : Bool) : Except RuleError FileRule :=
  match objects, expectation with
  | [], .holds .. => .error .noFilters
  | _, _ => .ok { objects, mode, expectation, allowEmpty }

/-- The nodes of the units that the rule is about. -/
def nodes (rule : FileRule) (edges : List Edge) : List Node :=
  (Node.ofLinks (Projection.identity.links (Edge.select true edges)) true).filter fun node =>
    Filter.allAccept rule.objects node.label

/-- The violations of a rule. -/
def check (rule : FileRule) (edges : List Edge) : List Violation :=
  match rule.nodes edges with
  | [] =>
      if rule.allowEmpty then []
      else [.emptyResult [⟨.object, rule.objects.map Filter.describe⟩]]
  | nodes =>
      let negated := rule.mode == .shouldNot
      (nodes.filter fun node => rule.expectation.isMet node == negated).map fun node =>
        .file node.label rule.expectation.describe negated

end FileRule

end ImportRules
