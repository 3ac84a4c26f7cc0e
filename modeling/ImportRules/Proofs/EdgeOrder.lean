import ImportRules.Check
import ImportRules.Proofs.Cycle.Enumeration
import ImportRules.Proofs.NodeRow
import Mathlib.Data.List.Perm.Basic
/-!
# The order of the edges does not matter

Edges come in whatever order they were found in, and no check may depend on it. Reordered edges
give the same links up to the order of the links and of the edges in each of them. From there on
every check is followed to its violations: those that go through sorted labels keep their order,
the others report in the order of the links.
-/

namespace ImportRules

/-- Entries of two lists are related one to one, in whatever order they stand. -/
def UpToOrder {α β : Type} (related : α → β → Prop) (entries : List α) (others : List β) : Prop :=
  ∃ reordered, entries.Perm reordered ∧ List.Forall₂ related reordered others

/-- What related entries have in common stands in the same places. -/
theorem map_eq_of_forall₂ {α β κ : Type} {related : α → β → Prop} {f : α → κ} {g : β → κ}
    (hsame : ∀ a b, related a b → f a = g b) {entries : List α} {others : List β}
    (hrelated : List.Forall₂ related entries others) : entries.map f = others.map g := by
  rw [← List.forall₂_eq_eq_eq, List.forall₂_map_left_iff, List.forall₂_map_right_iff]
  exact hrelated.imp hsame

namespace UpToOrder

variable {α β γ δ : Type} {related : α → β → Prop} {entries : List α} {others : List β}

theorem filterMap {related' : γ → δ → Prop} {f : α → Option γ} {g : β → Option δ}
    (hrespects : ∀ a b, related a b → Option.Rel related' (f a) (g b))
    (hupto : UpToOrder related entries others) :
    UpToOrder related' (entries.filterMap f) (others.filterMap g) := by
  obtain ⟨reordered, hperm, hrelated⟩ := hupto
  exact ⟨reordered.filterMap f, hperm.filterMap f,
    List.rel_filterMap (fun a b => hrespects a b) hrelated⟩

theorem filter {p : α → Bool} {q : β → Bool} (hrespects : ∀ a b, related a b → p a = q b)
    (hupto : UpToOrder related entries others) :
    UpToOrder related (entries.filter p) (others.filter q) := by
  obtain ⟨reordered, hperm, hrelated⟩ := hupto
  refine ⟨reordered.filter p, hperm.filter p, List.rel_filter ?_ hrelated⟩
  intro a b hab
  exact Bool.eq_iff_iff.mp (hrespects a b hab)

theorem map {related' : γ → δ → Prop} {f : α → γ} {g : β → δ}
    (hrespects : ∀ a b, related a b → related' (f a) (g b))
    (hupto : UpToOrder related entries others) :
    UpToOrder related' (entries.map f) (others.map g) := by
  obtain ⟨reordered, hperm, hrelated⟩ := hupto
  exact ⟨reordered.map f, hperm.map f, List.rel_map hrespects hrelated⟩

/-- What related entries have in common occurs in both lists or in neither. -/
theorem mem_map_iff {κ : Type} {f : α → κ} {g : β → κ} (hsame : ∀ a b, related a b → f a = g b)
    (hupto : UpToOrder related entries others) (value : κ) :
    value ∈ entries.map f ↔ value ∈ others.map g := by
  obtain ⟨reordered, hperm, hrelated⟩ := hupto
  rw [← map_eq_of_forall₂ hsame hrelated]
  exact (hperm.map f).mem_iff

end UpToOrder

/-- A list can be reordered the way its image can. -/
theorem exists_perm_map_eq {α κ : Type} {f : α → κ} {entries : List α} {values : List κ}
    (hperm : (entries.map f).Perm values) :
    ∃ reordered, entries.Perm reordered ∧ reordered.map f = values := by
  obtain ⟨reordered, hvalues, hreordered⟩ :=
    (congrFun₂ (List.eq_map_comp_perm f) values entries).mpr hperm.symm
  exact ⟨reordered, hreordered.symm, hvalues.symm⟩

/-- Lists with the same values under a key are related entry by entry if entries with the same key
are. -/
theorem forall₂_of_map_eq {α β κ : Type} {related : α → β → Prop} {f : α → κ} {g : β → κ}
    {entries : List α} {others : List β} (hmap : entries.map f = others.map g)
    (hrelated : ∀ a ∈ entries, ∀ b ∈ others, f a = g b → related a b) :
    List.Forall₂ related entries others := by
  induction entries generalizing others with
  | nil =>
      rw [List.map_nil, eq_comm, List.map_eq_nil_iff] at hmap
      exact hmap ▸ List.Forall₂.nil
  | cons a entries ih =>
      obtain ⟨b, others, rfl, hkey, hrest⟩ := List.map_eq_cons_iff.mp hmap.symm
      refine List.Forall₂.cons (hrelated a List.mem_cons_self b List.mem_cons_self hkey.symm) ?_
      refine ih hrest.symm ?_
      intro c hc d hd
      exact hrelated c (List.mem_cons_of_mem _ hc) d (List.mem_cons_of_mem _ hd)

/-! ## Links -/

/-- Links with the same ends and, up to order, the same edges. -/
def Link.Alike (link other : Link) : Prop :=
  link.ends = other.ends ∧ link.edges.Perm other.edges

theorem Link.Alike.source_eq {link other : Link} (halike : link.Alike other) :
    link.source = other.source :=
  congrArg Prod.fst halike.1

theorem Link.Alike.target_eq {link other : Link} (halike : link.Alike other) :
    link.target = other.target :=
  congrArg Prod.snd halike.1

theorem Link.Alike.isExternal_eq {link other : Link} (halike : link.Alike other) :
    link.isExternal = other.isExternal := by
  unfold Link.isExternal
  rw [halike.2.isEmpty_eq, halike.2.all_eq]

/-- Cycles along the same labels, with the same edges up to order. -/
def Cycle.Alike (cycle other : Cycle) : Prop :=
  List.Forall₂ Link.Alike cycle.links other.links

theorem Cycle.Alike.labels_eq {cycle other : Cycle} (halike : cycle.Alike other) :
    cycle.labels = other.labels :=
  map_eq_of_forall₂ (fun _ _ hlink => hlink.source_eq) halike

section Links

variable {projection : Projection} {edges edges' : List Edge}

/-- Reordered edges give links with the same ends. -/
theorem mem_ends_links_of_perm (hperm : edges.Perm edges') (ends : String × String) :
    ends ∈ (projection.links edges).map Link.ends ↔
      ends ∈ (projection.links edges').map Link.ends := by
  rw [Projection.mem_ends_links_iff, Projection.mem_ends_links_iff]
  simp only [hperm.mem_iff]

/-- Links of reordered edges with the same ends are alike. -/
theorem Link.alike_of_ends (hperm : edges.Perm edges') {link other : Link}
    (hlink : link ∈ projection.links edges) (hother : other ∈ projection.links edges')
    (hends : link.ends = other.ends) : link.Alike other := by
  refine ⟨hends, ?_⟩
  rw [(Projection.mem_links_iff.mp hlink).2, (Projection.mem_links_iff.mp hother).2, hends]
  exact hperm.filter _

/-- Reordered edges give the same links up to order. -/
theorem links_upToOrder (hperm : edges.Perm edges') :
    UpToOrder Link.Alike (projection.links edges) (projection.links edges') := by
  have hends : ((projection.links edges).map Link.ends).Perm
      ((projection.links edges').map Link.ends) := by
    rw [List.perm_ext_iff_of_nodup (projection.partition_links edges).distinct
      (projection.partition_links edges').distinct]
    exact mem_ends_links_of_perm hperm
  obtain ⟨reordered, hreordered, hmap⟩ := exists_perm_map_eq hends
  refine ⟨reordered, hreordered, forall₂_of_map_eq hmap ?_⟩
  intro link hlink other hother
  exact Link.alike_of_ends hperm (hreordered.mem_iff.mpr hlink) hother

end Links

/-! ## Violations -/

/-- Violations that differ at most in the order of the edges of their links. -/
inductive Violation.Alike : Violation → Violation → Prop
  | dependency {link other : Link} {negated : Bool} (hlink : link.Alike other) :
      Alike (.dependency link negated) (.dependency other negated)
  | cycle {cycle other : Cycle} (hcycle : cycle.Alike other) : Alike (.cycle cycle) (.cycle other)
  | diagram {link other : Link} {relation : Option Relation} {reason : DiagramReason}
      (hlink : link.Alike other) :
      Alike (.diagram link relation reason) (.diagram other relation reason)
  | emptyResult {sides : List EmptySide} : Alike (.emptyResult sides) (.emptyResult sides)
  | file {unit expectation : String} {negated : Bool} :
      Alike (.file unit expectation negated) (.file unit expectation negated)

section Adherence

variable {links links' : List Link}

theorem DiagramRule.judge?_rel (rule : DiagramRule) {link other : Link}
    (halike : link.Alike other) :
    Option.Rel Violation.Alike (rule.judge? link) (rule.judge? other) := by
  -- With the ends made one, both sides branch on the same conditions.
  obtain ⟨source, target, edges⟩ := link
  obtain ⟨source', target', edges'⟩ := other
  obtain rfl : source = source' := halike.source_eq
  obtain rfl : target = target' := halike.target_eq
  simp only [DiagramRule.judge?, Link.isLoop]
  split
  · exact .none
  · split
    · split
      · exact .none
      · exact .some (.diagram halike)
    · split
      · exact .none
      · exact .some (.diagram halike)

theorem DiagramRule.check_upToOrder (rule : DiagramRule)
    (hlinks : UpToOrder Link.Alike links links') :
    UpToOrder Violation.Alike (rule.check links) (rule.check links') :=
  hlinks.filterMap fun _ _ => rule.judge?_rel

theorem ForbiddenRule.check_upToOrder (rule : ForbiddenRule)
    (hlinks : UpToOrder Link.Alike links links') :
    UpToOrder Violation.Alike (rule.check links) (rule.check links') := by
  refine hlinks.filterMap ?_
  intro link other halike
  have hcovering : rule.covering? link = rule.covering? other := by
    rw [ForbiddenRule.covering?, ForbiddenRule.covering?, halike.source_eq, halike.target_eq]
  rw [hcovering]
  cases rule.covering? other with
  | none => exact .none
  | some relation => exact .some (.diagram halike)

end Adherence

section Nodes

variable {links links' : List Link}

/-- Which labels have nodes does not depend on the order of the links. -/
theorem Node.map_label_ofLinks_congr (hlinks : UpToOrder Link.Alike links links')
    (ignoreExternal : Bool) :
    (Node.ofLinks links ignoreExternal).map (·.label) =
      (Node.ofLinks links' ignoreExternal).map (·.label) := by
  -- A label depends on a link only through what alike links share.
  have hmem : ∀ (links : List Link) (label : String),
      label ∈ (links.filter fun link => !(ignoreExternal && link.isExternal)).flatMap
          (fun link => [link.source, link.target]) ↔
        ∃ shape ∈ links.map fun link => (link.ends, link.isExternal),
          !(ignoreExternal && shape.2) = true ∧ (label = shape.1.1 ∨ label = shape.1.2) := by
    intro links label
    simp [Link.ends, and_assoc]
  rw [Node.map_label_ofLinks, Node.map_label_ofLinks]
  apply sortedLabels_congr
  intro label
  rw [hmem, hmem]
  have hshape := hlinks.mem_map_iff (f := fun link => (link.ends, link.isExternal))
    (g := fun link => (link.ends, link.isExternal))
    (fun link other halike => by rw [halike.1, halike.isExternal_eq])
  simp only [hshape]

theorem DependencyRule.side_congr (hlinks : UpToOrder Link.Alike links links')
    (filters : List Filter) :
    DependencyRule.side filters links = DependencyRule.side filters links' := by
  unfold DependencyRule.side
  rw [Node.map_label_ofLinks_congr hlinks]

end Nodes

section Rules

variable {edges edges' : List Edge}

theorem select_perm (hperm : edges.Perm edges') (ignoreExternal : Bool) :
    (Edge.select ignoreExternal edges).Perm (Edge.select ignoreExternal edges') :=
  hperm.filter _

theorem DependencyRule.check_upToOrder (rule : DependencyRule) (hperm : edges.Perm edges') :
    UpToOrder Violation.Alike (rule.check edges) (rule.check edges') := by
  have hlinks : UpToOrder Link.Alike (rule.links edges) (rule.links edges') :=
    links_upToOrder (select_perm hperm _)
  unfold DependencyRule.check
  simp only [DependencyRule.side_congr hlinks]
  -- By now both runs have the same empty sides, and what these are plays no part.
  generalize (if rule.allowEmpty = true then [] else rule.emptySides _ _) = empty
  split
  · refine (hlinks.filter ?_).map fun link other halike => .dependency halike
    intro link other halike
    simp only [DependencyRule.isBroken, Link.isLoop, halike.source_eq, halike.target_eq]
  · exact ⟨_, List.Perm.refl _, .cons Violation.Alike.emptyResult .nil⟩

/-- The units that a file rule is about do not depend on the order of the edges. -/
theorem FileRule.map_label_nodes_perm (rule : FileRule) (hperm : edges.Perm edges') :
    (rule.nodes edges).map (·.label) = (rule.nodes edges').map (·.label) := by
  have hlabels := Node.map_label_ofLinks_congr
    (@links_upToOrder .identity _ _ (select_perm hperm true)) true
  have hfilter := congrArg (List.filter (Filter.allAccept rule.objects)) hlabels
  rw [List.filter_map, List.filter_map] at hfilter
  exact hfilter

/-- A file rule that expects a filter to accept looks at nothing but units. -/
theorem FileRule.check_congr {rule : FileRule} {filter : Filter}
    (hfits : rule.expectation = .fits filter)
    (hlabels : (rule.nodes edges).map (·.label) = (rule.nodes edges').map (·.label)) :
    rule.check edges = rule.check edges' := by
  have hunits : ∀ nodes : List Node,
      (nodes.filter fun node => rule.expectation.isMet node == (rule.mode == .shouldNot)).map
          (fun node =>
            Violation.file node.label rule.expectation.describe (rule.mode == .shouldNot)) =
        ((nodes.map (·.label)).filter fun unit =>
          filter.accepts unit == (rule.mode == .shouldNot)).map
            fun unit => Violation.file unit filter.describe (rule.mode == .shouldNot) := by
    intro nodes
    rw [hfits, List.filter_map, List.map_map]
    rfl
  unfold FileRule.check
  cases hnodes : rule.nodes edges with
  | nil =>
      rw [hnodes, List.map_nil, eq_comm, List.map_eq_nil_iff] at hlabels
      rw [hlabels]
  | cons node nodes =>
      rw [hnodes] at hlabels
      obtain ⟨node', nodes', hnodes', -, -⟩ := List.map_eq_cons_iff.mp hlabels.symm
      rw [hnodes'] at hlabels ⊢
      simp only [hunits, hlabels]

end Rules

/-! ## Cycles -/

/-- The links of a cycle lead along its labels. -/
theorem Cycle.IsElementary.map_ends {links : List Link} {cycle : Cycle}
    (hcycle : cycle.IsElementary links) :
    cycle.links.map Link.ends = cycle.labels.zip (cycle.labels.rotate 1) := by
  rw [Cycle.labels, ← map_target_eq_rotate hcycle.closed, List.zip_map']
  rfl

/-- Only which arcs there are matters for the labels of the cycles. -/
theorem map_labels_findCycles_congr {links links' : List Link}
    (harcs : ∀ source target, Arc links source target ↔ Arc links' source target) :
    (findCycles links).map Cycle.labels = (findCycles links').map Cycle.labels := by
  have hsame : Arc links = Arc links' := by
    funext source target
    exact propext (harcs source target)
  apply (labels_findCycles_pairwise links).eq_of_mem_iff (labels_findCycles_pairwise links')
  intro labels
  rw [mem_labels_findCycles_iff, mem_labels_findCycles_iff, hsame]

theorem upTo_forall₂ {α β : Type} {related : α → β → Prop} {entries : List α} {others : List β}
    (hrelated : List.Forall₂ related entries others) (limit : Option Nat) :
    List.Forall₂ related (upTo limit entries) (upTo limit others) := by
  cases limit with
  | none => exact hrelated
  | some limit => exact List.forall₂_take limit hrelated

section Search

variable {edges edges' : List Edge}

/-- Reordered edges give the same cycles in the same order. -/
theorem findCycles_alike (projection : Projection) (hperm : edges.Perm edges') :
    List.Forall₂ Cycle.Alike (findCycles (projection.links edges))
      (findCycles (projection.links edges')) := by
  have harcs : ∀ source target,
      Arc (projection.links edges) source target ↔ Arc (projection.links edges') source target := by
    intro source target
    have hends := @mem_ends_links_of_perm projection _ _ hperm (source, target)
    rw [List.mem_map, List.mem_map] at hends
    rw [Arc, Arc, hends]
  refine forall₂_of_map_eq (map_labels_findCycles_congr harcs) ?_
  intro cycle hcycle other hother hlabels
  have hcycle := isElementary_of_mem_findCycles hcycle
  have hother := isElementary_of_mem_findCycles hother
  have hends : cycle.links.map Link.ends = other.links.map Link.ends := by
    rw [hcycle.map_ends, hother.map_ends, hlabels]
  refine forall₂_of_map_eq hends ?_
  intro link hlink link' hlink'
  exact Link.alike_of_ends hperm (hcycle.first link hlink).mem (hother.first link' hlink').mem

/-- A search through reordered edges reports the same, also where it is cut off. -/
theorem searchCycles_alike (projection : Projection) (hperm : edges.Perm edges')
    (limit : Option Nat) :
    List.Forall₂ Cycle.Alike
      (searchCycles (projection.links edges) limit).cycles
      (searchCycles (projection.links edges') limit).cycles ∧
    (searchCycles (projection.links edges) limit).truncated =
      (searchCycles (projection.links edges') limit).truncated := by
  have halike := findCycles_alike projection hperm
  rw [findCycles_eq, findCycles_eq] at halike
  rw [searchCycles_eq, searchCycles_eq]
  refine ⟨upTo_forall₂ halike limit, ?_⟩
  cases limit with
  | none => rfl
  | some limit => simp only [exceeds, halike.length_eq]

end Search

/-- Checks do not depend on the order of the edges. A check for cycles reports the same label
sequences in the same order and is cut off at the same place; a file rule that expects a filter to
accept reports the very same; all other checks report the same up to order. Links in violations
that correspond have the same edges up to order. -/
theorem evaluate_perm {edges edges' : List Edge} (hperm : edges.Perm edges') :
    (∀ (view : View) (limit : Option Nat),
      List.Forall₂ Violation.Alike ((Check.cycles view limit).evaluate edges)
        ((Check.cycles view limit).evaluate edges') ∧
      (searchCycles (view.links edges) limit).cycles.map Cycle.labels =
        (searchCycles (view.links edges') limit).cycles.map Cycle.labels ∧
      (searchCycles (view.links edges) limit).truncated =
        (searchCycles (view.links edges') limit).truncated) ∧
    (∀ rule : DependencyRule, UpToOrder Violation.Alike ((Check.dependency rule).evaluate edges)
      ((Check.dependency rule).evaluate edges')) ∧
    (∀ (view : View) (rule : DiagramRule), UpToOrder Violation.Alike
      ((Check.diagram view rule).evaluate edges) ((Check.diagram view rule).evaluate edges')) ∧
    (∀ (view : View) (rule : ForbiddenRule), UpToOrder Violation.Alike
      ((Check.forbidden view rule).evaluate edges) ((Check.forbidden view rule).evaluate edges')) ∧
    ∀ (rule : FileRule) (filter : Filter), rule.expectation = .fits filter →
      (Check.files rule).evaluate edges = (Check.files rule).evaluate edges' := by
  have hlinks : ∀ view : View, UpToOrder Link.Alike (view.links edges) (view.links edges') :=
    fun view => links_upToOrder (select_perm hperm _)
  refine ⟨?_, fun rule => rule.check_upToOrder hperm,
    fun view rule => rule.check_upToOrder (hlinks view),
    fun view rule => rule.check_upToOrder (hlinks view), ?_⟩
  · intro view limit
    obtain ⟨halike, htruncated⟩ :=
      searchCycles_alike view.projection (select_perm hperm view.ignoreExternal) limit
    exact ⟨List.rel_map (fun _ _ hcycle => .cycle hcycle) halike,
      map_eq_of_forall₂ (fun _ _ hcycle => hcycle.labels_eq) halike, htruncated⟩
  · intro rule filter hfits
    exact FileRule.check_congr hfits (rule.map_label_nodes_perm hperm)

/-- Two units that import each other, found in either order. -/
theorem evaluate_perm_mutual :
    let edges : List Edge := [⟨"a", "b", false, []⟩, ⟨"b", "a", false, []⟩]
    let rule : FileRule := ⟨[], .shouldNot, .fits ⟨.glob ⟨"a", [.char 'a']⟩, .path⟩, false⟩
    edges.Perm edges.reverse ∧
      List.Forall₂ Violation.Alike ((Check.cycles ⟨.identity, true⟩ (some 1)).evaluate edges)
        ((Check.cycles ⟨.identity, true⟩ (some 1)).evaluate edges.reverse) ∧
      (Check.files rule).evaluate edges = (Check.files rule).evaluate edges.reverse := by
  intro edges rule
  have hperm : edges.Perm edges.reverse := (List.reverse_perm edges).symm
  obtain ⟨hcycles, -, -, -, hfiles⟩ := evaluate_perm hperm
  exact ⟨hperm, (hcycles ⟨.identity, true⟩ (some 1)).1, hfiles rule _ rfl⟩

end ImportRules
