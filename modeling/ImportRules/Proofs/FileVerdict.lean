import ImportRules.Proofs.DependencyVerdict
import ImportRules.Proofs.NodeView
import ImportRules.Rule.Files
/-!
# What a file rule reports

The verdict of a file rule, said on the imports themselves: which units there are, which of them the
rule is about, and what an expectation gets to see of a unit, namely the internal imports of it and
by it, gathered by the unit at their other end. Links, nodes and the two places where external
imports are left out play no part in it.
-/

namespace ImportRules

variable {edges : List Edge} {unit : String}

/-! ## A unit among the imports -/

/-- All imports between two units. -/
def importsBetween (edges : List Edge) (ends : String × String) : Link :=
  ⟨ends.1, ends.2, edges.filter fun edge => edge.ends = ends⟩

/-- A unit with the imports of it and by it, each neighbour once in the order of first imports. -/
def Node.ofUnit (edges : List Edge) (unit : String) : Node where
  label := unit
  incoming := ((edges.filter (·.target = unit)).map (·.source)).eraseDups.map fun source =>
    importsBetween edges (source, unit)
  outgoing := ((edges.filter (·.source = unit)).map (·.target)).eraseDups.map fun target =>
    importsBetween edges (unit, target)

/-- The links that touch a unit are told apart by their other ends. -/
theorem filter_identity_links {neighbour? : String × String → Option String}
    {toNeighbour : String → String × String}
    (hends : ∀ ends neighbour, neighbour? ends = some neighbour → toNeighbour neighbour = ends)
    {touches : Link → Bool} (htouches : ∀ link, touches link = (neighbour? link.ends).isSome)
    (edges : List Edge) :
    (Projection.identity.links edges).filter touches =
      ((edges.map Edge.ends).filterMap neighbour?).eraseDups.map fun neighbour =>
        importsBetween edges (toNeighbour neighbour) := by
  have hapart : ∀ ends other neighbour, neighbour? ends = some neighbour →
      neighbour? other = some neighbour → ends = other := by
    intro ends other neighbour hneighbour hother
    exact (hends ends neighbour hneighbour).symm.trans (hends other neighbour hother)
  have hlinks : Projection.identity.links edges =
      (edges.map Edge.ends).eraseDups.map (importsBetween edges) :=
    DependencyRule.identity_links_eq_map edges
  rw [hlinks, ← filterMap_eraseDups hapart]
  induction (edges.map Edge.ends).eraseDups with
  | nil => rfl
  | cons ends rest ih =>
      rw [List.map_cons, List.filter_cons, htouches]
      change (if (neighbour? ends).isSome then _ else _) = _
      cases hneighbour : neighbour? ends with
      | none => simpa [hneighbour] using ih
      | some neighbour => simpa [hneighbour, hends ends neighbour hneighbour] using ih

theorem filter_target_links (edges : List Edge) (unit : String) :
    (Projection.identity.links edges).filter (·.target == unit) =
      ((edges.filter (·.target = unit)).map (·.source)).eraseDups.map fun source =>
        importsBetween edges (source, unit) := by
  have hsources : (edges.filter (·.target = unit)).map (·.source) =
      (edges.map Edge.ends).filterMap fun ends => if ends.2 = unit then some ends.1 else none := by
    rw [List.filterMap_map, ← List.filterMap_eq_map, List.filterMap_filter]
    simp only [decide_eq_true_eq]
    rfl
  rw [hsources]
  apply filter_identity_links
  · intro ends source hsource
    obtain ⟨htarget, hsource⟩ := Option.ite_none_right_eq_some.mp hsource
    exact Prod.ext (Option.some.inj hsource).symm htarget.symm
  · intro link
    by_cases htarget : link.target = unit <;> simp [Link.ends, htarget]

theorem filter_source_links (edges : List Edge) (unit : String) :
    (Projection.identity.links edges).filter (·.source == unit) =
      ((edges.filter (·.source = unit)).map (·.target)).eraseDups.map fun target =>
        importsBetween edges (unit, target) := by
  have htargets : (edges.filter (·.source = unit)).map (·.target) =
      (edges.map Edge.ends).filterMap fun ends => if ends.1 = unit then some ends.2 else none := by
    rw [List.filterMap_map, ← List.filterMap_eq_map, List.filterMap_filter]
    simp only [decide_eq_true_eq]
    rfl
  rw [htargets]
  apply filter_identity_links
  · intro ends target htarget
    obtain ⟨hsource, htarget⟩ := Option.ite_none_right_eq_some.mp htarget
    exact Prod.ext hsource.symm (Option.some.inj htarget).symm
  · intro link
    by_cases hsource : link.source = unit <;> simp [Link.ends, hsource]

/-- What a unit's node holds is what the links between units show of it. -/
theorem ofUnit_eq_around (edges : List Edge) (unit : String) :
    Node.ofUnit edges unit = Node.around (Projection.identity.links edges) unit := by
  rw [Node.ofUnit, Node.around, filter_target_links, filter_source_links]

namespace FileRule

/-! ## The verdict -/

/-- A unit is at fault: it does not meet the expectation although it should, or meets it although it
should not. -/
def Faults (rule : FileRule) (edges : List Edge) (unit : String) : Prop :=
  match rule.mode with
  | .should => rule.expectation.isMet (Node.ofUnit edges unit) = false
  | .shouldNot => rule.expectation.isMet (Node.ofUnit edges unit) = true

/-- The units that a rule is about, in ascending order. -/
def sortedObjects (rule : FileRule) (edges : List Edge) : List String :=
  (Node.endLabels (Projection.identity.links edges)).filter (Filter.allAccept rule.objects)

theorem isMet_beq_iff (rule : FileRule) (edges : List Edge) (unit : String) :
    (rule.expectation.isMet (Node.ofUnit edges unit) == (rule.mode == .shouldNot)) = true ↔
      rule.Faults edges unit := by
  unfold Faults
  rw [beq_iff_eq]
  cases rule.mode <;> rfl

theorem mem_sortedObjects (rule : FileRule) :
    unit ∈ rule.sortedObjects edges ↔ unit ∈ DependencyRule.unitsOn rule.objects edges := by
  rw [sortedObjects, List.mem_filter, Node.endLabels, mem_sortedLabels,
    DependencyRule.mem_endUnits_links, DependencyRule.unitsOn, List.mem_filter]
  rfl

theorem sortedObjects_eq_nil_iff (rule : FileRule) :
    rule.sortedObjects edges = [] ↔ DependencyRule.unitsOn rule.objects edges = [] := by
  simp only [List.eq_nil_iff_forall_not_mem, mem_sortedObjects]

theorem sortedObjects_pairwise (rule : FileRule) (edges : List Edge) :
    (rule.sortedObjects edges).Pairwise (· < ·) :=
  (sortedLabels_pairwise _).filter _

/-- The nodes that a rule looks at are those of its units among the internal imports. -/
theorem nodes_eq_map (rule : FileRule) (edges : List Edge) :
    rule.nodes edges =
      (rule.sortedObjects (Edge.select true edges)).map (Node.ofUnit (Edge.select true edges)) := by
  -- External imports are left out once more as links, when there are none any more.
  have hkept : ∀ link ∈ Projection.identity.links (Edge.select true edges),
      (true && link.isExternal) = false := by
    intro link hlink
    rw [Bool.true_and, Projection.isExternal_eq_false_of_select hlink]
  have hunits : Node.ofUnit (Edge.select true edges) =
      Node.around (Projection.identity.links (Edge.select true edges)) :=
    funext fun unit => ofUnit_eq_around _ unit
  rw [nodes, Node.ofLinks_of_kept hkept, List.filter_map, hunits]
  rfl

/-- A file rule reports that it is about no unit, unless it may be, and otherwise the units at
fault, each once and in ascending order. What an expectation sees of a unit are the links between
units that lead to it and from it, with no neighbour twice. -/
theorem check_by_units (rule : FileRule) (edges : List Edge) :
    let internal := edges.filter (!·.external)
    let objects := DependencyRule.unitsOn rule.objects internal
    (∃ units : List String, units.Pairwise (· < ·) ∧
      (∀ unit, unit ∈ units ↔ unit ∈ objects ∧ rule.Faults internal unit) ∧
      rule.check edges =
        if objects = [] then
          if rule.allowEmpty then []
          else [.emptyResult [⟨.object, rule.objects.map Filter.describe⟩]]
        else
          units.map fun unit =>
            .file unit rule.expectation.describe (rule.mode == .shouldNot)) ∧
      ∀ unit,
        (Node.ofUnit internal unit).incoming =
            (Projection.identity.links internal).filter (·.target = unit) ∧
          (Node.ofUnit internal unit).outgoing =
            (Projection.identity.links internal).filter (·.source = unit) ∧
          (Node.ofUnit internal unit).dependents.Nodup ∧
          (Node.ofUnit internal unit).dependencies.Nodup := by
  intro internal objects
  have hselect : Edge.select true edges = internal := by simp [Edge.select, internal]
  have hdistinct := (Projection.identity.partition_links internal).distinct
  refine ⟨⟨(rule.sortedObjects internal).filter fun unit =>
    rule.expectation.isMet (Node.ofUnit internal unit) == (rule.mode == .shouldNot),
    (rule.sortedObjects_pairwise internal).filter _, ?_, ?_⟩, ?_⟩
  · intro unit
    rw [List.mem_filter, mem_sortedObjects, isMet_beq_iff]
  · rw [check, nodes_eq_map, hselect]
    cases hobjects : rule.sortedObjects internal with
    | nil => rw [if_pos ((sortedObjects_eq_nil_iff rule).mp hobjects)]; rfl
    | cons unit units =>
        have hne : objects ≠ [] := by
          rw [Ne, ← sortedObjects_eq_nil_iff, hobjects]
          exact List.cons_ne_nil unit units
        rw [if_neg hne, List.map_cons]
        dsimp only
        rw [← List.map_cons, List.filter_map, List.map_map]
        rfl
  · intro unit
    rw [ofUnit_eq_around]
    exact ⟨rfl, rfl, Node.nodup_dependents_around hdistinct unit,
      Node.nodup_dependencies_around hdistinct unit⟩

end FileRule

end ImportRules
