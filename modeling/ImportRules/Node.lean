import ImportRules.Ascending
import ImportRules.Link
/-!
# Nodes of a link graph

A node is a label together with the links that lead to it and from it. The nodes of a list of links
are listed in the order of their labels, each once.
-/

namespace ImportRules

/-- Labels in ascending order, each once. -/
def sortedLabels (labels : List String) : List String :=
  (labels.mergeSort fun a b => decide (a ≤ b)).eraseDups

/-- A label with its links. -/
structure Node where
  label : String
  incoming : List Link
  outgoing : List Link
  deriving DecidableEq, Repr

namespace Node

/-- The labels that a node depends on. -/
def dependencies (node : Node) : List String :=
  node.outgoing.map (·.target)

/-- The labels that depend on a node. -/
def dependents (node : Node) : List String :=
  node.incoming.map (·.source)

/-- The node of a label that no link touches. -/
def bare (label : String) : Node where
  label := label
  incoming := []
  outgoing := []

/-- The node with one more link from it. -/
def send (link : Link) (node : Node) : Node :=
  { node with outgoing := node.outgoing ++ [link] }

/-- The node with one more link to it. -/
def receive (link : Link) (node : Node) : Node :=
  { node with incoming := node.incoming ++ [link] }

/-- Changes the node of a label among nodes in ascending order. A label that has no node gets one in
its place. -/
def alter (label : String) (change : Node → Node) : List Node → List Node :=
  alterAscending (fun a b => decide (a < b)) (·.label) label (change (bare label)) change

/-- Takes in a link, first at the node that it leaves and then at the node that it reaches. -/
def takeIn (nodes : List Node) (link : Link) : List Node :=
  alter link.target (receive link) (alter link.source (send link) nodes)

/-- The nodes of a list of links, which are taken in one by one. On demand, links that stand for
external imports only are passed over. -/
def ofLinks (links : List Link) (ignoreExternal : Bool) : List Node :=
  links.foldl
    (fun nodes link => if ignoreExternal && link.isExternal then nodes else takeIn nodes link) []

end Node

end ImportRules
