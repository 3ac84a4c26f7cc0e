/-!
# Edges of the import graph

An edge is one import statement: the unit that imports, what it imports, and how. An edge whose
target lies outside the project is external; its target is then the specifier as written.
-/

namespace ImportRules

/-- How something is imported. -/
inductive ImportKind where
  | value
  | type
  | default
  | named
  | wildcard
  deriving DecidableEq, Repr

namespace ImportKind

def name : ImportKind → String
  | .value => "value"
  | .type => "type"
  | .default => "default"
  | .named => "named"
  | .wildcard => "namespace"

/-- The kind with a given name. -/
def ofName? : String → Option ImportKind
  | "value" => some .value
  | "type" => some .type
  | "default" => some .default
  | "named" => some .named
  | "namespace" => some .wildcard
  | _ => none

@[simp]
theorem ofName?_name (kind : ImportKind) : ofName? kind.name = some kind := by
  cases kind <;> rfl

end ImportKind

/-- One import. A statement that imports only for its effect has no kinds. -/
structure Edge where
  source : String
  target : String
  external : Bool := false
  kinds : List ImportKind := []
  deriving DecidableEq, Repr

namespace Edge

/-- The import brings in types and no values. -/
def isTypeOnly (edge : Edge) : Bool :=
  edge.kinds.contains .type && !edge.kinds.contains .value

def describe (edge : Edge) : String :=
  let mark := if edge.external then " (external)" else ""
  let names := String.intercalate ", " (edge.kinds.map ImportKind.name)
  let kinds := if edge.kinds.isEmpty then "" else s!" [{names}]"
  s!"{edge.source} -> {edge.target}{mark}{kinds}"

/-- The edges that count when external ones are ignored on demand. -/
def select (ignoreExternal : Bool) (edges : List Edge) : List Edge :=
  edges.filter fun edge => !(ignoreExternal && edge.external)

end Edge

end ImportRules
