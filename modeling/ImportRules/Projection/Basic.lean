import ImportRules.Link
import ImportRules.Projection.Slice
import ImportRules.Projection.Suffix
/-!
# Projections

A projection gives units their labels, and by that turns edges between units into links between
labels. An edge with an end that has no label is left out.
-/

namespace ImportRules

/-- How units get their labels. -/
inductive Projection where
  /-- Every unit is its own label. -/
  | identity
  | slices (pattern : SlicePattern)
  | suffix (table : SuffixTable)

namespace Projection

/-- The label of a unit. -/
def label? : Projection → String → Option String
  | .identity, unit => some unit
  | .slices pattern, unit => pattern.label? unit
  | .suffix table, unit => table.group? unit

/-- The labels of both ends of an edge, if both have one. -/
def labels? (projection : Projection) (edge : Edge) : Option (String × String) := do
  let source ← projection.label? edge.source
  let target ← projection.label? edge.target
  some (source, target)

/-- Takes an edge into the links built so far. -/
def gather (projection : Projection) (links : List Link) (edge : Edge) : List Link :=
  match projection.labels? edge with
  | some (source, target) => Link.insert source target edge links
  | none => links

/-- The links between the labels of a list of edges. -/
def links (projection : Projection) (edges : List Edge) : List Link :=
  edges.foldl projection.gather []

def describe : Projection → String
  | .identity => "identity"
  | .slices pattern => s!"slices of \"{pattern.raw}\""
  | .suffix table => s!"suffix groups ({table.entries.length})"

end Projection

end ImportRules
