import ImportRules.Check
import ImportRules.Proofs.Cycle.Enumeration
import ImportRules.Proofs.FileVerdict
/-!
# Further edges take no violation away

Nothing that a check holds against some edges is made up for by further ones: whatever is reported
about a list of edges is reported about every longer one too, perhaps with more edges behind it.
Put the other way round, deleting an import never causes a violation. Checks that complain about
finding nothing to look at, and searches that stop at a limit, are the exceptions.
-/

namespace ImportRules

/-- What a violation is about, whichever edges are behind it. -/
inductive Violation.Identity where
  | dependency (ends : String × String) (negated : Bool)
  | cycle (labels : List String)
  | diagram (ends : String × String) (relation : Option Relation) (reason : DiagramReason)
  | emptyResult (sides : List EmptySide)
  | file (unit expectation : String) (negated : Bool)
  deriving DecidableEq, Repr

def Violation.identity : Violation → Violation.Identity
  | .dependency link negated => .dependency link.ends negated
  | .cycle found => .cycle found.labels
  | .diagram link relation reason => .diagram link.ends relation reason
  | .emptyResult sides => .emptyResult sides
  | .file unit expectation negated => .file unit expectation negated

/-- Checks whose findings only add up: searches for cycles without a limit, diagrams, forbidden
relations, and rules that may have nothing to look at, as long as they look at no more than units
and the edges between two of them. -/
def Check.Cumulative : Check → Prop
  | .cycles _ limit => limit = none
  | .dependency rule => rule.allowEmpty = true
  | .diagram .. | .forbidden .. => True
  | .files rule => rule.allowEmpty = true ∧ ∃ filter, rule.expectation = .fits filter

section Links

variable {edges edges' : List Edge}

theorem select_subset (hsubset : edges ⊆ edges') (ignoreExternal : Bool) :
    Edge.select ignoreExternal edges ⊆ Edge.select ignoreExternal edges' :=
  List.filter_subset _ hsubset

/-- Labels that have a link keep it. -/
theorem ends_links_subset (projection : Projection) (hsubset : edges ⊆ edges') :
    (projection.links edges).map Link.ends ⊆ (projection.links edges').map Link.ends := by
  intro ends hends
  obtain ⟨edge, hedge, hlabels⟩ := Projection.mem_ends_links_iff.mp hends
  exact Projection.mem_ends_links_iff.mpr ⟨edge, hsubset hedge, hlabels⟩

theorem ends_view_subset (view : View) (hsubset : edges ⊆ edges') :
    (view.links edges).map Link.ends ⊆ (view.links edges').map Link.ends :=
  ends_links_subset view.projection (select_subset hsubset view.ignoreExternal)

theorem endUnits_subset (hsubset : edges ⊆ edges') : endUnits edges ⊆ endUnits edges' := by
  intro unit hunit
  obtain ⟨edge, hedge, hends⟩ := List.mem_flatMap.mp hunit
  exact List.mem_flatMap.mpr ⟨edge, hsubset hedge, hends⟩

end Links

section Adherence

variable {links links' : List Link}

/-- Links that are judged by their ends are judged alike among more links. -/
theorem identity_filterMap_subset (hends : links.map Link.ends ⊆ links'.map Link.ends)
    {judge? : Link → Option Violation}
    (hjudge : ∀ link other : Link, link.ends = other.ends →
      (judge? link).map Violation.identity = (judge? other).map Violation.identity) :
    (links.filterMap judge?).map Violation.identity ⊆
      (links'.filterMap judge?).map Violation.identity := by
  simp only [List.map_filterMap]
  intro identity hidentity
  obtain ⟨link, hlink, hjudged⟩ := List.mem_filterMap.mp hidentity
  obtain ⟨other, hother, hsame⟩ := List.mem_map.mp (hends (List.mem_map_of_mem hlink))
  exact List.mem_filterMap.mpr ⟨other, hother, (hjudge other link hsame).trans hjudged⟩

theorem DiagramRule.judge?_identity (rule : DiagramRule) {link other : Link}
    (hends : link.ends = other.ends) :
    (rule.judge? link).map Violation.identity = (rule.judge? other).map Violation.identity := by
  obtain ⟨source, target, edges⟩ := link
  obtain ⟨source', target', edges'⟩ := other
  cases hends
  simp only [DiagramRule.judge?, Link.isLoop]
  split
  · rfl
  · split <;> split <;> rfl

theorem ForbiddenRule.judge_identity (rule : ForbiddenRule) {link other : Link}
    (hends : link.ends = other.ends) :
    ((rule.covering? link).map fun relation =>
        Violation.diagram link (some relation) .forbidden).map Violation.identity =
      ((rule.covering? other).map fun relation =>
        Violation.diagram other (some relation) .forbidden).map Violation.identity := by
  obtain ⟨source, target, edges⟩ := link
  obtain ⟨source', target', edges'⟩ := other
  cases hends
  simp only [Option.map_map]
  rfl

end Adherence

section Rules

variable {edges edges' : List Edge}

theorem DependencyRule.unitsOn_subset (filters : List Filter) (hsubset : edges ⊆ edges') :
    unitsOn filters edges ⊆ unitsOn filters edges' :=
  List.filter_subset _ (endUnits_subset hsubset)

/-- A unit that is looked at already does not come to lie on a side because of further edges. -/
theorem DependencyRule.mem_unitsOn_of_subset {filters : List Filter} {unit : String}
    (hunit : unit ∈ endUnits edges) (hside : unit ∈ unitsOn filters edges') :
    unit ∈ unitsOn filters edges :=
  List.mem_filter.mpr ⟨hunit, (List.mem_filter.mp hside).2⟩

theorem DependencyRule.Breaks.mono {rule : DependencyRule} {ends : String × String}
    (hsubset : edges ⊆ edges') (hends : ends ∈ edges.map Edge.ends)
    (hbreaks : rule.Breaks edges ends) : rule.Breaks edges' ends := by
  obtain ⟨hne, hobject, hsubject⟩ := hbreaks
  refine ⟨hne, unitsOn_subset _ hsubset hobject, ?_⟩
  cases hmode : rule.mode with
  | should =>
      rw [hmode] at hsubject
      obtain ⟨edge, hedge, rfl⟩ := List.mem_map.mp hends
      have hunit : edge.target ∈ endUnits edges := List.mem_flatMap.mpr ⟨edge, hedge, by simp⟩
      exact fun hside => hsubject (mem_unitsOn_of_subset hunit hside)
  | shouldNot =>
      rw [hmode] at hsubject
      exact unitsOn_subset _ hsubset hsubject

theorem DependencyRule.check_identity_subset {rule : DependencyRule}
    (hallow : rule.allowEmpty = true) (hsubset : edges ⊆ edges') :
    (rule.check edges).map Violation.identity ⊆ (rule.check edges').map Violation.identity := by
  have hkept : rule.kept edges ⊆ rule.kept edges' := List.filter_subset _ hsubset
  rw [check_of_allowEmpty hallow, check_of_allowEmpty hallow, List.map_map, List.map_map]
  intro identity hidentity
  obtain ⟨ends, hends, rfl⟩ := List.mem_map.mp hidentity
  rw [List.mem_filter, List.mem_eraseDups, decide_eq_true_iff] at hends
  refine List.mem_map.mpr ⟨ends, ?_, rfl⟩
  rw [List.mem_filter, List.mem_eraseDups, decide_eq_true_iff]
  exact ⟨List.map_subset _ hkept hends.1, hends.2.mono hkept hends.1⟩

/-- The units that a file rule is about are the ends of internal edges that its filters accept. -/
theorem FileRule.mem_label_nodes_iff {rule : FileRule} {unit : String} :
    unit ∈ (rule.nodes edges).map (·.label) ↔
      unit ∈ endUnits (Edge.select true edges) ∧ Filter.allAccept rule.objects unit = true := by
  have hlabels : (rule.nodes edges).map (·.label) =
      rule.sortedObjects (Edge.select true edges) := by
    rw [FileRule.nodes_eq_map, List.map_map]
    exact List.map_id _
  rw [hlabels, FileRule.mem_sortedObjects, DependencyRule.unitsOn, List.mem_filter]
  rfl

/-- A file rule that expects a filter to accept looks at one unit at a time. -/
theorem FileRule.mem_check_iff {rule : FileRule} {filter : Filter}
    (hfits : rule.expectation = .fits filter) (hallow : rule.allowEmpty = true)
    {violation : Violation} :
    violation ∈ rule.check edges ↔
      ∃ unit ∈ (rule.nodes edges).map (·.label),
        filter.accepts unit = (rule.mode == .shouldNot) ∧
          violation = .file unit filter.describe (rule.mode == .shouldNot) := by
  unfold FileRule.check
  split
  next hnone => simp [hnone, hallow]
  next =>
    simp only [List.mem_map, List.mem_filter, hfits, Expectation.isMet, Expectation.describe,
      beq_iff_eq]
    constructor
    · rintro ⟨node, ⟨hnode, hmet⟩, rfl⟩
      exact ⟨node.label, ⟨node, hnode, rfl⟩, hmet, rfl⟩
    · rintro ⟨_, ⟨node, hnode, rfl⟩, hmet, rfl⟩
      exact ⟨node, ⟨hnode, hmet⟩, rfl⟩

theorem FileRule.check_identity_subset {rule : FileRule} {filter : Filter}
    (hfits : rule.expectation = .fits filter) (hallow : rule.allowEmpty = true)
    (hsubset : edges ⊆ edges') :
    (rule.check edges).map Violation.identity ⊆ (rule.check edges').map Violation.identity := by
  apply List.map_subset
  intro violation hviolation
  obtain ⟨unit, hunit, hreported⟩ := (mem_check_iff hfits hallow).mp hviolation
  refine (mem_check_iff hfits hallow).mpr ⟨unit, ?_, hreported⟩
  rw [mem_label_nodes_iff] at hunit ⊢
  exact ⟨endUnits_subset (select_subset hsubset true) hunit.1, hunit.2⟩

end Rules

section Cycles

variable {links links' : List Link}

theorem Arc.mono (hends : links.map Link.ends ⊆ links'.map Link.ends) {source target : String}
    (harc : Arc links source target) : Arc links' source target := by
  obtain ⟨hne, link, hlink, hlinked⟩ := harc
  obtain ⟨other, hother, hsame⟩ := List.mem_map.mp (hends (List.mem_map_of_mem hlink))
  exact ⟨hne, other, hother, hsame.trans hlinked⟩

/-- A cycle is not hidden by further links: it is still a closed chain of arcs through distinct
labels, and the search misses none of these. -/
theorem labels_findCycles_subset (hends : links.map Link.ends ⊆ links'.map Link.ends) :
    (findCycles links).map Cycle.labels ⊆ (findCycles links').map Cycle.labels := by
  intro labels hlabels
  obtain ⟨hclosed, hdistinct⟩ := mem_labels_findCycles_iff.mp hlabels
  refine mem_labels_findCycles_iff.mpr ⟨?_, hdistinct⟩
  have hmap := hclosed.map (f := id) fun _ _ _ _ harc => Arc.mono hends harc
  rwa [List.map_id] at hmap

theorem searchCycles_none (links : List Link) :
    (searchCycles links none).cycles = findCycles links := by
  rw [searchCycles_eq, findCycles_eq]
  rfl

/-- What the violations of a search without a limit are about. -/
theorem identity_searchCycles (links : List Link) :
    ((searchCycles links none).cycles.map Violation.cycle).map Violation.identity =
      ((findCycles links).map Cycle.labels).map Violation.Identity.cycle := by
  rw [searchCycles_none, List.map_map, List.map_map]
  rfl

theorem searchCycles_identity_subset (hends : links.map Link.ends ⊆ links'.map Link.ends) :
    ((searchCycles links none).cycles.map Violation.cycle).map Violation.identity ⊆
      ((searchCycles links' none).cycles.map Violation.cycle).map Violation.identity := by
  rw [identity_searchCycles, identity_searchCycles]
  exact List.map_subset _ (labels_findCycles_subset hends)

end Cycles

/-- Whatever a check whose findings add up reports about some edges, it reports about every list
that has these edges and further ones. -/
theorem evaluate_sublist {check : Check} (hcumulative : check.Cumulative)
    {edges edges' : List Edge} (hsublist : edges.Sublist edges') :
    (check.evaluate edges).map Violation.identity ⊆
      (check.evaluate edges').map Violation.identity := by
  have hsubset : edges ⊆ edges' := hsublist.subset
  cases check with
  | cycles view limit =>
      obtain rfl : limit = none := hcumulative
      exact searchCycles_identity_subset (ends_view_subset view hsubset)
  | dependency rule => exact rule.check_identity_subset hcumulative hsubset
  | diagram view rule =>
      exact identity_filterMap_subset (ends_view_subset view hsubset)
        fun _ _ => rule.judge?_identity
  | forbidden view rule =>
      exact identity_filterMap_subset (ends_view_subset view hsubset)
        fun _ _ => rule.judge_identity
  | files rule =>
      obtain ⟨hallow, filter, hfits⟩ := hcumulative
      exact FileRule.check_identity_subset hfits hallow hsubset

/-- A cycle of two units stays reported when an edge between them is doubled and a third unit comes
in. -/
theorem evaluate_sublist_mutual :
    let edges : List Edge := [⟨"a", "b", false, []⟩, ⟨"b", "a", false, []⟩]
    let edges' : List Edge :=
      [⟨"b", "c", false, []⟩, ⟨"a", "b", false, []⟩, ⟨"a", "b", false, [.type]⟩,
        ⟨"b", "a", false, []⟩]
    let check := Check.cycles ⟨.identity, true⟩ none
    check.Cumulative ∧ edges.Sublist edges' ∧
      .cycle ["a", "b"] ∈ (check.evaluate edges').map Violation.identity := by
  intro edges edges' check
  have hcumulative : check.Cumulative := rfl
  have hsublist : edges.Sublist edges' := by decide
  refine ⟨hcumulative, hsublist, evaluate_sublist hcumulative hsublist ?_⟩
  have hlinks : (View.mk .identity true).links edges =
      [⟨"a", "b", [⟨"a", "b", false, []⟩]⟩, ⟨"b", "a", [⟨"b", "a", false, []⟩]⟩] := by
    decide
  have hcycles : (check.evaluate edges).map Violation.identity =
      ((findCycles ((View.mk .identity true).links edges)).map Cycle.labels).map .cycle :=
    identity_searchCycles _
  have hclosed : ClosedChain (Arc ((View.mk .identity true).links edges)) ["a", "b"] := by
    simp [hlinks, ClosedChain, Arc, Link.ends]
  rw [hcycles]
  refine List.mem_map_of_mem (mem_labels_findCycles_iff.mpr ⟨hclosed, by decide, ?_⟩)
  exact List.forall_mem_singleton.mpr (by decide)

end ImportRules
