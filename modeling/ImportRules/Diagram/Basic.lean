import ImportRules.Ascending
/-!
# Component diagrams

A diagram declares components and directed relations between them. Both are sets; they are kept in
ascending order without repetition, so that equal diagrams are equal as values.
-/

namespace ImportRules

/-- A directed relation between two labels, declared or forbidden. -/
structure Relation where
  source : String
  target : String
  deriving DecidableEq, Repr

namespace Relation

def describe (relation : Relation) : String :=
  s!"{relation.source} -> {relation.target}"

/-- Order by source, then by target. -/
def before (a b : Relation) : Bool :=
  a.source < b.source || (a.source == b.source && a.target < b.target)

end Relation

/-- Components and relations of a diagram. -/
structure Diagram where
  components : List String := []
  relations : List Relation := []
  deriving DecidableEq, Repr

namespace Diagram

/-- Declares a component. -/
def addComponent (diagram : Diagram) (name : String) : Diagram :=
  { diagram with components := insertAscending (fun a b => decide (a < b)) name diagram.components }

/-- Declares a relation and both its ends. -/
def addRelation (diagram : Diagram) (relation : Relation) : Diagram :=
  let diagram := (diagram.addComponent relation.source).addComponent relation.target
  { diagram with relations := insertAscending Relation.before relation diagram.relations }

/-- The diagram of a list of relations. -/
def ofRelations (relations : List Relation) : Diagram :=
  relations.foldl addRelation {}

/-- The label is a declared component. -/
def declares (diagram : Diagram) (label : String) : Bool :=
  diagram.components.contains label

/-- The relation between two labels is declared. -/
def allows (diagram : Diagram) (source target : String) : Bool :=
  diagram.relations.contains ⟨source, target⟩

end Diagram

end ImportRules
