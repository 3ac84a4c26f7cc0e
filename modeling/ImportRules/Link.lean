import ImportRules.Edge
/-!
# Links between labels

Units are grouped under labels, and a link gathers all edges that lead from one label to another.
Links are kept in the order in which their first edges occur, and the edges of a link in the order
in which they occur.
-/

namespace ImportRules

/-- All edges from one label to another. -/
structure Link where
  source : String
  target : String
  edges : List Edge
  deriving DecidableEq, Repr

namespace Link

/-- Both ends carry the same label. -/
def isLoop (link : Link) : Bool :=
  link.source == link.target

/-- The link stands for external imports only. -/
def isExternal (link : Link) : Bool :=
  !link.edges.isEmpty && link.edges.all (·.external)

def describe (link : Link) : String :=
  s!"{link.source} -> {link.target}"

/-- Adds an edge to the link between two labels, which is appended if there is none yet. -/
def insert (source target : String) (edge : Edge) : List Link → List Link
  | [] => [⟨source, target, [edge]⟩]
  | link :: links =>
      if link.source = source ∧ link.target = target then
        { link with edges := link.edges ++ [edge] } :: links
      else link :: insert source target edge links

end Link

end ImportRules
