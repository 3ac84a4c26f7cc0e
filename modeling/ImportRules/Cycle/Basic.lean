import ImportRules.Node
/-!
# Cycles and the graph they are searched in

A cycle is a closed chain of links through distinct labels. It is searched for in the graph of the
links that join different labels: the labels in ascending order, each with its outgoing links in
the order of their targets. Of several links between the same labels the first one counts.
-/

namespace ImportRules

/-- A closed chain of links, beginning at its smallest label. -/
structure Cycle where
  links : List Link
  deriving DecidableEq, Repr

namespace Cycle

/-- The labels on a cycle in walking order, the first one not repeated. -/
def labels (cycle : Cycle) : List String :=
  cycle.links.map (·.source)

def describe (cycle : Cycle) : String :=
  match cycle.links with
  | [] => ""
  | first :: _ => String.intercalate " -> " (cycle.labels ++ [first.source])

end Cycle

/-- A label with its outgoing links. -/
structure Vertex where
  label : String
  out : List Link
  deriving DecidableEq, Repr

/-- The vertices of a graph in ascending order of their labels. -/
abbrev Graph := List Vertex

namespace Graph

/-- The links between different labels that leave a label, one for every target, targets in
ascending order. -/
def outOf (links : List Link) (label : String) : List Link :=
  ((links.filter fun link => !link.isLoop && link.source == label).mergeSort
    fun a b => decide (a.target ≤ b.target)).eraseDupsBy fun a b => a.target == b.target

/-- The graph of the links that join different labels. -/
def ofLinks (links : List Link) : Graph :=
  (sortedLabels ((links.filter (!·.isLoop)).flatMap fun link => [link.source, link.target])).map
    fun label => ⟨label, outOf links label⟩

/-- The outgoing links of a label. -/
def out (graph : Graph) (label : String) : List Link :=
  match graph.find? (·.label == label) with
  | some vertex => vertex.out
  | none => []

/-- The labels of a graph. -/
def labels (graph : Graph) : List String :=
  graph.map (·.label)

/-- Number of links of a graph, which no vertex exceeds. -/
def size (graph : Graph) : Nat :=
  (graph.flatMap (·.out)).length

theorem length_out_le_size (graph : Graph) (label : String) :
    (graph.out label).length ≤ graph.size := by
  induction graph with
  | nil => simp [out]
  | cons vertex graph ih =>
      unfold out size at *
      simp only [List.find?_cons, List.flatMap_cons, List.length_append]
      split
      next vertex' hfound =>
        split at hfound
        · cases hfound
          omega
        · rw [hfound] at ih
          dsimp only at ih
          omega
      · simp

end Graph

end ImportRules
