import ImportRules.Proofs.LinkPartition
import ImportRules.Proofs.NodeRow
/-!
# The nodes of a link graph

The nodes of a list of links are the ends of the links in ascending order, each with the links that
touch it. As no two links of a projection have the same ends, a node meets each of its neighbours
once, and what one node has as a dependency has that node as a dependent. Which nodes there are and
which neighbours they have depends on the ends of the links alone, so it makes no difference whether
external imports are left out edge by edge or link by link.
-/

namespace ImportRules

namespace Node

variable {links : List Link} {label source target : String}

theorem mem_endLabels_of_ends (hends : (source, target) ∈ links.map Link.ends) :
    source ∈ endLabels links ∧ target ∈ endLabels links := by
  obtain ⟨link, hlink, heq⟩ := List.mem_map.mp hends
  obtain ⟨hsource, htarget⟩ := Prod.mk.inj heq
  exact ⟨mem_endLabels.mpr ⟨link, hlink, .inl hsource⟩,
    mem_endLabels.mpr ⟨link, hlink, .inr htarget⟩⟩

/-- Where no link is left out, there is a node for every end of a link. -/
theorem ofLinks_of_kept {ignoreExternal : Bool}
    (hkept : ∀ link ∈ links, (ignoreExternal && link.isExternal) = false) :
    ofLinks links ignoreExternal = (endLabels links).map (around links) := by
  have hall : (links.filter fun link => !(ignoreExternal && link.isExternal)) = links := by
    apply List.filter_eq_self.mpr
    intro link hlink
    rw [hkept link hlink, Bool.not_false]
  rw [ofLinks_eq_map, hall]

theorem ofLinks_false (links : List Link) :
    ofLinks links false = (endLabels links).map (around links) :=
  ofLinks_of_kept fun _ _ => rfl

theorem map_label_ofLinks_false (links : List Link) :
    (ofLinks links false).map (·.label) = endLabels links := by
  rw [ofLinks_false, List.map_map]
  exact List.map_id _

theorem exists_mem_ofLinks_false_iff {holds : Node → Prop} :
    (∃ node ∈ ofLinks links false, node.label = label ∧ holds node) ↔
      label ∈ endLabels links ∧ holds (around links label) := by
  rw [ofLinks_false]
  constructor
  · rintro ⟨node, hnode, rfl, hholds⟩
    obtain ⟨label, hlabel, rfl⟩ := List.mem_map.mp hnode
    exact ⟨hlabel, hholds⟩
  · rintro ⟨hlabel, hholds⟩
    exact ⟨around links label, List.mem_map_of_mem hlabel, rfl, hholds⟩

/-! ## Neighbours -/

theorem mem_dependencies_around :
    target ∈ (around links source).dependencies ↔ (source, target) ∈ links.map Link.ends := by
  simp [around, dependencies, Link.ends, and_assoc]

theorem mem_dependents_around :
    source ∈ (around links target).dependents ↔ (source, target) ∈ links.map Link.ends := by
  simp only [around, dependents, Link.ends, List.mem_map, List.mem_filter, beq_iff_eq,
    Prod.mk.injEq]
  grind

/-- Links with different ends but one end in common differ at their other ends. -/
theorem nodup_map_filter {near far : Link → String} (hdistinct : (links.map Link.ends).Nodup)
    (hends : ∀ link other, near link = near other → far link = far other → link.ends = other.ends)
    (label : String) : ((links.filter (near · == label)).map far).Nodup := by
  have hnodup : (links.filter (near · == label)).Nodup := (List.Nodup.of_map _ hdistinct).filter _
  apply hnodup.map_on
  intro link hlink other hother hfar
  obtain ⟨hlink, hnear⟩ := List.mem_filter.mp hlink
  obtain ⟨hother, hnear'⟩ := List.mem_filter.mp hother
  have hsame : near link = near other := (beq_iff_eq.mp hnear).trans (beq_iff_eq.mp hnear').symm
  exact List.inj_on_of_nodup_map hdistinct hlink hother (hends link other hsame hfar)

theorem nodup_dependencies_around (hdistinct : (links.map Link.ends).Nodup) (label : String) :
    (around links label).dependencies.Nodup := by
  apply nodup_map_filter hdistinct
  intro link other hsource htarget
  exact Prod.ext hsource htarget

theorem nodup_dependents_around (hdistinct : (links.map Link.ends).Nodup) (label : String) :
    (around links label).dependents.Nodup := by
  apply nodup_map_filter hdistinct
  intro link other htarget hsource
  exact Prod.ext hsource htarget

/-- A node has a dependency exactly if a link leads there. -/
theorem exists_dependencies_iff :
    (∃ node ∈ ofLinks links false, node.label = source ∧ target ∈ node.dependencies) ↔
      (source, target) ∈ links.map Link.ends := by
  rw [exists_mem_ofLinks_false_iff, mem_dependencies_around]
  exact ⟨And.right, fun hends => ⟨(mem_endLabels_of_ends hends).1, hends⟩⟩

theorem exists_dependents_iff :
    (∃ node ∈ ofLinks links false, node.label = target ∧ source ∈ node.dependents) ↔
      (source, target) ∈ links.map Link.ends := by
  rw [exists_mem_ofLinks_false_iff, mem_dependents_around]
  exact ⟨And.right, fun hends => ⟨(mem_endLabels_of_ends hends).2, hends⟩⟩

/-- The nodes of a projection's links ascend strictly by label, and their labels are the ends of the
links. A node has the links from it and the links to it in their order, with no neighbour twice. A
label is a dependency of another exactly if that one is its dependent, which is if an edge leads
from the one to the other. -/
theorem ofLinks_links (projection : Projection) (edges : List Edge) :
    let links := projection.links edges
    let nodes := ofLinks links false
    (nodes.map (·.label)).Pairwise (· < ·) ∧
      (∀ label, label ∈ nodes.map (·.label) ↔
        ∃ link ∈ links, link.source = label ∨ link.target = label) ∧
      (∀ node ∈ nodes,
        node.outgoing = links.filter (·.source = node.label) ∧
          node.incoming = links.filter (·.target = node.label) ∧
          node.dependencies.Nodup ∧ node.dependents.Nodup) ∧
      ∀ source target,
        ((∃ node ∈ nodes, node.label = source ∧ target ∈ node.dependencies) ↔
          ∃ node ∈ nodes, node.label = target ∧ source ∈ node.dependents) ∧
        ((∃ node ∈ nodes, node.label = source ∧ target ∈ node.dependencies) ↔
          ∃ edge ∈ edges, projection.labels? edge = some (source, target)) := by
  intro links nodes
  have hdistinct : (links.map Link.ends).Nodup := (projection.partition_links edges).distinct
  have hlabels : nodes.map (·.label) = endLabels links := map_label_ofLinks_false links
  rw [hlabels]
  refine ⟨sortedLabels_pairwise _, fun label => mem_endLabels, ?_, ?_⟩
  · intro node hnode
    rw [show nodes = (endLabels links).map (around links) from ofLinks_false links] at hnode
    obtain ⟨label, -, rfl⟩ := List.mem_map.mp hnode
    exact ⟨rfl, rfl, nodup_dependencies_around hdistinct label,
      nodup_dependents_around hdistinct label⟩
  · intro source target
    rw [exists_dependencies_iff, exists_dependents_iff, Projection.mem_ends_links_iff]
    exact ⟨Iff.rfl, Iff.rfl⟩

/-- A unit that imports itself and is imported twice by another one. -/
theorem ofLinks_links_loop :
    let edges : List Edge :=
      [⟨"b", "b", false, []⟩, ⟨"a", "b", false, []⟩, ⟨"a", "b", false, [.type]⟩]
    let node : Node :=
      ⟨"b",
        [⟨"b", "b", [⟨"b", "b", false, []⟩]⟩,
          ⟨"a", "b", [⟨"a", "b", false, []⟩, ⟨"a", "b", false, [.type]⟩]⟩],
        [⟨"b", "b", [⟨"b", "b", false, []⟩]⟩]⟩
    node ∈ ofLinks (Projection.identity.links edges) false ∧
      node.dependencies.Nodup ∧ node.dependents.Nodup := by
  intro edges node
  have hnode : node ∈ ofLinks (Projection.identity.links edges) false := by
    have hends : ("b", "b") ∈ (Projection.identity.links edges).map Link.ends := by decide
    rw [ofLinks_false]
    exact List.mem_map.mpr ⟨"b", (mem_endLabels_of_ends hends).1, by decide⟩
  exact ⟨hnode, ((ofLinks_links .identity edges).2.2.1 node hnode).2.2⟩

/-! ## Leaving out external imports -/

variable {others : List Link}

theorem ofLinks_true (links : List Link) :
    ofLinks links true = ofLinks (links.filter (!·.isExternal)) false := by
  rw [ofLinks_eq_foldl, ofLinks_eq_foldl, List.filter_filter]
  simp

/-- The nodes have one label and the same neighbours, if perhaps in another order. -/
def Agrees (node other : Node) : Prop :=
  node.label = other.label ∧ node.dependencies.Perm other.dependencies ∧
    node.dependents.Perm other.dependents

theorem map_label_eq_of_agrees {nodes others : List Node}
    (hagrees : List.Forall₂ Agrees nodes others) :
    nodes.map (·.label) = others.map (·.label) := by
  induction hagrees with
  | nil => rfl
  | cons hfirst _ ih => rw [List.map_cons, List.map_cons, hfirst.1, ih]

theorem mem_endLabels_iff_ends :
    label ∈ endLabels links ↔ ∃ ends ∈ links.map Link.ends, ends.1 = label ∨ ends.2 = label := by
  simp [mem_endLabels, Link.ends]

theorem endLabels_congr
    (hends : ∀ ends, ends ∈ links.map Link.ends ↔ ends ∈ others.map Link.ends) :
    endLabels links = endLabels others := by
  apply (sortedLabels_pairwise _).eq_of_mem_iff (sortedLabels_pairwise _)
  intro label
  change label ∈ endLabels links ↔ label ∈ endLabels others
  simp only [mem_endLabels_iff_ends, hends]

theorem around_agrees (hlinks : (links.map Link.ends).Nodup)
    (hothers : (others.map Link.ends).Nodup)
    (hends : ∀ ends, ends ∈ links.map Link.ends ↔ ends ∈ others.map Link.ends) (label : String) :
    (around links label).Agrees (around others label) := by
  refine ⟨rfl, ?_, ?_⟩
  · apply (List.perm_ext_iff_of_nodup (nodup_dependencies_around hlinks label)
      (nodup_dependencies_around hothers label)).mpr
    intro target
    rw [mem_dependencies_around, mem_dependencies_around, hends]
  · apply (List.perm_ext_iff_of_nodup (nodup_dependents_around hlinks label)
      (nodup_dependents_around hothers label)).mpr
    intro source
    rw [mem_dependents_around, mem_dependents_around, hends]

/-- Links with the same ends have nodes that agree one by one. -/
theorem ofLinks_false_agrees (hlinks : (links.map Link.ends).Nodup)
    (hothers : (others.map Link.ends).Nodup)
    (hends : ∀ ends, ends ∈ links.map Link.ends ↔ ends ∈ others.map Link.ends) :
    List.Forall₂ Agrees (ofLinks links false) (ofLinks others false) := by
  rw [ofLinks_false, ofLinks_false, endLabels_congr hends, List.forall₂_map_left_iff,
    List.forall₂_map_right_iff, List.forall₂_same]
  intro label _
  exact around_agrees hlinks hothers hends label

/-- Dropping the links that stand for external imports only, and dropping external imports before
they are gathered into links, give nodes with the same labels in the same order, the same
dependencies and the same dependents. -/
theorem ofLinks_ignoring_external (projection : Projection) (edges : List Edge) :
    let late := ofLinks (projection.links edges) true
    let early := ofLinks (projection.links (Edge.select true edges)) false
    late.map (·.label) = early.map (·.label) ∧ List.Forall₂ Agrees late early := by
  intro late early
  have hagrees : List.Forall₂ Agrees late early := by
    rw [show late = _ from ofLinks_true (projection.links edges)]
    apply ofLinks_false_agrees
    · exact (projection.partition_links edges).distinct.sublist (List.filter_sublist.map _)
    · exact (projection.partition_links (Edge.select true edges)).distinct
    · intro ends
      exact Projection.mem_ends_internal_iff
  exact ⟨map_label_eq_of_agrees hagrees, hagrees⟩

end Node

end ImportRules
