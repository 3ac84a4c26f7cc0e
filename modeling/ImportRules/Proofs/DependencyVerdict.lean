import ImportRules.Proofs.LinkPartition
import ImportRules.Proofs.NodeRow
import ImportRules.Rule.Dependency
/-!
# What a dependency rule reports

The verdict of a dependency rule, said on the edges themselves: without links, nodes and sorted
labels, only in terms of the edges that the rule looks at, of the units at their ends and of the
pairs of units that they join. Checking the rule gives exactly this verdict.
-/

namespace ImportRules

/-- The units at the ends of an edge. -/
def Edge.ends (edge : Edge) : String × String :=
  (edge.source, edge.target)

/-- The units at the ends of a list of edges. -/
def endUnits (edges : List Edge) : List String :=
  edges.flatMap fun edge => [edge.source, edge.target]

namespace DependencyRule

/-! ## The verdict -/

/-- The edges that the rule looks at: internal ones, and external ones on demand. -/
def kept (rule : DependencyRule) (edges : List Edge) : List Edge :=
  edges.filter fun edge => rule.includeExternal || !edge.external

/-- The units at the ends of a list of edges that all filters accept. -/
def unitsOn (filters : List Filter) (edges : List Edge) : List String :=
  (endUnits edges).filter fun unit => filters.all (·.accepts unit)

/-- The sides that no unit is on, objects before subjects. -/
def missingSides (rule : DependencyRule) (edges : List Edge) : List EmptySide :=
  (if unitsOn rule.objects edges = [] then
    [⟨.object, rule.objects.map Filter.describe⟩] else []) ++
  (if unitsOn rule.subjects edges = [] then
    [⟨.subject, rule.subjects.map Filter.describe⟩] else [])

/-- An edge from the first to the second unit breaks the rule: the first one is an object, and the
second one is no subject although it should be one, or is one although it should not. -/
def Breaks (rule : DependencyRule) (edges : List Edge) (ends : String × String) : Prop :=
  ends.1 ≠ ends.2 ∧ ends.1 ∈ unitsOn rule.objects edges ∧
    match rule.mode with
    | .should => ends.2 ∉ unitsOn rule.subjects edges
    | .shouldNot => ends.2 ∈ unitsOn rule.subjects edges

instance (rule : DependencyRule) (edges : List Edge) (ends : String × String) :
    Decidable (rule.Breaks edges ends) := by
  unfold Breaks
  cases rule.mode <;> exact inferInstance

/-- What the rule has to report: the sides without units where these are not allowed, and otherwise
every pair of units that breaks it, in the order of the first edges, with all its edges. -/
def verdict (rule : DependencyRule) (edges : List Edge) : List Violation :=
  let kept := rule.kept edges
  if rule.allowEmpty = false ∧ rule.missingSides kept ≠ [] then
    [.emptyResult (rule.missingSides kept)]
  else
    ((kept.map Edge.ends).eraseDups.filter fun ends => rule.Breaks kept ends).map fun ends =>
      .dependency ⟨ends.1, ends.2, kept.filter fun edge => edge.ends = ends⟩
        (rule.mode == .shouldNot)

/-! ## Checking gives the verdict -/

theorem select_eq_kept (rule : DependencyRule) (edges : List Edge) :
    Edge.select (!rule.includeExternal) edges = rule.kept edges := by
  simp [Edge.select, kept]

/-- Between units, links are pairs of units with their edges. -/
theorem identity_links_eq_map (edges : List Edge) :
    Projection.identity.links edges =
      (edges.map Edge.ends).eraseDups.map fun ends =>
        ⟨ends.1, ends.2, edges.filter fun edge => edge.ends = ends⟩ := by
  have hlabels : Projection.identity.labels? = fun edge => some edge.ends := rfl
  have hjoins : ∀ ends,
      Projection.identity.joins ends = fun edge => decide (edge.ends = ends) := by
    intro ends
    funext edge
    rw [Projection.joins, hlabels, Option.some_beq_some, beq_eq_decide]
  rw [Projection.links_eq_map, hlabels, List.filterMap_eq_map']
  simp only [hjoins]

theorem mem_endUnits_links {edges : List Edge} {unit : String} :
    unit ∈ ((Projection.identity.links edges).flatMap fun link => [link.source, link.target]) ↔
      unit ∈ endUnits edges := by
  simp [identity_links_eq_map, endUnits, Edge.ends]

/-- A unit is on a side exactly if it is at an end of an edge and all filters accept it. -/
theorem mem_side_iff {filters : List Filter} {edges : List Edge} {unit : String} :
    unit ∈ side filters (Projection.identity.links edges) ↔ unit ∈ unitsOn filters edges := by
  simp only [side, Node.map_label_ofLinks, Node.endLabels, Bool.false_and, Bool.not_false,
    List.filter_true, List.mem_filter, mem_sortedLabels, mem_endUnits_links, unitsOn,
    Filter.allAccept]

theorem isEmpty_side (filters : List Filter) (edges : List Edge) :
    (side filters (Projection.identity.links edges)).isEmpty =
      decide (unitsOn filters edges = []) := by
  rw [Bool.eq_iff_iff, decide_eq_true_iff, List.isEmpty_iff, List.eq_nil_iff_forall_not_mem,
    List.eq_nil_iff_forall_not_mem]
  simp only [mem_side_iff]

theorem isBroken_iff (rule : DependencyRule) (edges : List Edge) (link : Link) :
    isBroken rule.mode (side rule.objects (Projection.identity.links edges))
        (side rule.subjects (Projection.identity.links edges)) link = true ↔
      rule.Breaks edges link.ends := by
  unfold isBroken Breaks
  cases rule.mode <;> simp [Link.isLoop, Link.ends, mem_side_iff, and_assoc]

theorem emptySides_eq_missingSides (rule : DependencyRule) (edges : List Edge) :
    rule.emptySides (side rule.objects (Projection.identity.links edges))
        (side rule.subjects (Projection.identity.links edges)) =
      rule.missingSides edges := by
  simp [emptySides, missingSides, isEmpty_side]

/-- The broken links are the pairs that break the rule, with their edges. -/
theorem filter_isBroken_links (rule : DependencyRule) (edges : List Edge) :
    (Projection.identity.links edges).filter
        (isBroken rule.mode (side rule.objects (Projection.identity.links edges))
          (side rule.subjects (Projection.identity.links edges))) =
      ((edges.map Edge.ends).eraseDups.filter fun ends => rule.Breaks edges ends).map fun ends =>
        ⟨ends.1, ends.2, edges.filter fun edge => edge.ends = ends⟩ := by
  have hbroken : isBroken rule.mode (side rule.objects (Projection.identity.links edges))
      (side rule.subjects (Projection.identity.links edges)) =
        fun link => decide (rule.Breaks edges link.ends) := by
    funext link
    rw [Bool.eq_iff_iff, decide_eq_true_iff]
    exact rule.isBroken_iff edges link
  rw [hbroken, identity_links_eq_map, List.filter_map]
  rfl

/-- A rule that may find nothing to look at reports the pairs of units that break it. -/
theorem check_of_allowEmpty {rule : DependencyRule} (hallow : rule.allowEmpty = true)
    (edges : List Edge) :
    rule.check edges =
      (((rule.kept edges).map Edge.ends).eraseDups.filter fun ends =>
        rule.Breaks (rule.kept edges) ends).map fun ends =>
          .dependency ⟨ends.1, ends.2, (rule.kept edges).filter fun edge => edge.ends = ends⟩
            (rule.mode == .shouldNot) := by
  unfold check links
  simp only [select_eq_kept, emptySides_eq_missingSides, filter_isBroken_links, List.map_map,
    hallow]
  rfl

/-- Checking a dependency rule gives its verdict. -/
theorem check_eq_verdict (rule : DependencyRule) (edges : List Edge) :
    rule.check edges = rule.verdict edges := by
  unfold check verdict links
  simp only [select_eq_kept, emptySides_eq_missingSides, filter_isBroken_links, List.map_map]
  cases hallow : rule.allowEmpty with
  | true => simp [Function.comp_def]
  | false =>
      by_cases hmissing : rule.missingSides (rule.kept edges) = []
      · simp [hmissing, Function.comp_def]
      · simp [hmissing]

end DependencyRule

end ImportRules
