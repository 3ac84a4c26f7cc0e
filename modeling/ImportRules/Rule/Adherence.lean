import ImportRules.Diagram.Basic
import ImportRules.Violation
/-!
# Adherence of links to diagrams

Links are held against a diagram, which must declare every one of them, or against a list of
forbidden relations, none of which may occur. Links within one label never break a diagram.
-/

namespace ImportRules

/-- A diagram that links have to follow. -/
structure DiagramRule where
  diagram : Diagram
  /-- Links with an end that is no component are let pass. -/
  ignoreUnknown : Bool := false
  deriving DecidableEq, Repr

namespace DiagramRule

/-- What is wrong with a link, if anything. -/
def judge? (rule : DiagramRule) (link : Link) : Option Violation :=
  if link.isLoop then none
  else if rule.diagram.declares link.source && rule.diagram.declares link.target then
    if rule.diagram.allows link.source link.target then none
    else some (.diagram link none .undeclaredRelation)
  else if rule.ignoreUnknown then none
  else some (.diagram link none .unknownComponent)

/-- The violations among a list of links. -/
def check (rule : DiagramRule) (links : List Link) : List Violation :=
  links.filterMap rule.judge?

end DiagramRule

/-- Relations that must not occur. -/
structure ForbiddenRule where
  relations : List Relation
  deriving DecidableEq, Repr

namespace ForbiddenRule

/-- The first relation that forbids a link. -/
def covering? (rule : ForbiddenRule) (link : Link) : Option Relation :=
  rule.relations.find? fun relation =>
    relation.source == link.source && relation.target == link.target

/-- The violations among a list of links. -/
def check (rule : ForbiddenRule) (links : List Link) : List Violation :=
  links.filterMap fun link =>
    (rule.covering? link).map fun relation => .diagram link (some relation) .forbidden

end ForbiddenRule

end ImportRules
