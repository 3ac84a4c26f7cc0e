import ImportRules.Projection.Basic
import Mathlib.Algebra.Ring.Nat
import Mathlib.Data.List.Induction
import Mathlib.Data.List.Nodup
/-!
# Links partition the labelled edges

A projection takes in the edges one after the other, and the links that it has built so far are
always an ordered partition of the edges it has seen: a link for every pair of labels that occurs,
in the order in which the pairs occur first, each with all its edges in their order.
-/

namespace ImportRules

namespace Link

/-- The labels at both ends of a link. -/
def ends (link : Link) : String × String :=
  (link.source, link.target)

theorem eq_of_ends {link other : Link} (hends : link.ends = other.ends)
    (hedges : link.edges = other.edges) : link = other := by
  obtain ⟨source, target, edges⟩ := link
  obtain ⟨source', target', edges'⟩ := other
  cases hends
  cases hedges
  rfl

/-- The link with another edge if it has the given ends, else unchanged. -/
def extend (ends : String × String) (edge : Edge) (link : Link) : Link :=
  if link.ends = ends then { link with edges := link.edges ++ [edge] } else link

@[simp]
theorem ends_extend (ends : String × String) (edge : Edge) (link : Link) :
    (link.extend ends edge).ends = link.ends := by
  unfold extend
  split <;> rfl

theorem extend_of_ne {ends : String × String} {link : Link} (hne : link.ends ≠ ends) (edge : Edge) :
    link.extend ends edge = link :=
  if_neg hne

theorem edges_extend (ends : String × String) (edge : Edge) (link : Link) :
    (link.extend ends edge).edges =
      link.edges ++ if link.ends = ends then [edge] else [] := by
  unfold extend
  split <;> simp

theorem insert_of_notMem {source target : String} {edge : Edge} {links : List Link}
    (hnew : (source, target) ∉ links.map ends) :
    insert source target edge links = links ++ [⟨source, target, [edge]⟩] := by
  induction links with
  | nil => rfl
  | cons link links ih =>
      simp only [List.map_cons, List.mem_cons, not_or] at hnew
      have hends : ¬(link.source = source ∧ link.target = target) := by
        rintro ⟨rfl, rfl⟩
        exact hnew.1 rfl
      rw [insert, if_neg hends, ih hnew.2, List.cons_append]

/-- As no two links have the same ends, extending one of them extends all that could be meant. -/
theorem insert_of_mem {source target : String} {edge : Edge} {links : List Link}
    (hdistinct : (links.map ends).Nodup) (hold : (source, target) ∈ links.map ends) :
    insert source target edge links = links.map (extend (source, target) edge) := by
  induction links with
  | nil => simp at hold
  | cons link links ih =>
      simp only [List.map_cons, List.nodup_cons] at hdistinct
      rw [insert, List.map_cons]
      by_cases hends : link.source = source ∧ link.target = target
      · have heq : link.ends = (source, target) := by simp [ends, hends]
        have hrest : links.map (extend (source, target) edge) = links := by
          refine (List.map_congr_left ?_).trans (List.map_id links)
          intro other hother
          refine extend_of_ne (fun hsame => hdistinct.1 ?_) edge
          rw [heq, ← hsame]
          exact List.mem_map_of_mem hother
        rw [if_pos hends, hrest, extend, if_pos heq]
      · have hne : link.ends ≠ (source, target) := by simpa [ends] using hends
        have hmem : (source, target) ∈ links.map ends := by
          simpa [Ne.symm hne] using hold
        rw [if_neg hends, ih hdistinct.2 hmem, extend_of_ne hne]

/-- Inserting adds one edge. -/
theorem sum_length_insert (source target : String) (edge : Edge) (links : List Link) :
    ((insert source target edge links).map (·.edges.length)).sum =
      (links.map (·.edges.length)).sum + 1 := by
  induction links with
  | nil => rfl
  | cons link links ih =>
      rw [insert]
      split
      · simp only [List.map_cons, List.sum_cons, List.length_append, List.length_singleton]
        omega
      · simp only [List.map_cons, List.sum_cons, ih]
        omega

end Link

namespace Projection

/-- Whether an edge leads between the given labels. -/
def joins (projection : Projection) (ends : String × String) (edge : Edge) : Bool :=
  projection.labels? edge == some ends

theorem filter_joins_append (projection : Projection) (ends : String × String)
    (edges : List Edge) (edge : Edge) :
    (edges ++ [edge]).filter (projection.joins ends) =
      edges.filter (projection.joins ends) ++
        if projection.labels? edge = some ends then [edge] else [] := by
  by_cases hends : projection.labels? edge = some ends <;> simp [joins, hends]

/-- A list of links is the ordered partition of the edges that have labels. -/
structure Partition (projection : Projection) (edges : List Edge) (links : List Link) : Prop where
  distinct : (links.map Link.ends).Nodup
  nonempty : ∀ link ∈ links, link.edges ≠ []
  gathered : ∀ link ∈ links, link.edges = edges.filter (projection.joins link.ends)
  /-- Links stand in the order of their first edges. -/
  ordered : links.Pairwise fun earlier later =>
    edges.findIdx (projection.joins earlier.ends) < edges.findIdx (projection.joins later.ends)
  covered : ∀ edge ∈ edges, ∀ ends, projection.labels? edge = some ends →
    ends ∈ links.map Link.ends

namespace Partition

variable {projection : Projection} {edges : List Edge} {links : List Link}

theorem nil : projection.Partition [] [] := by
  constructor <;> simp

/-- No edge seen leads between labels that no link has. -/
theorem not_joins (hpartition : projection.Partition edges links) {ends : String × String}
    (hnew : ends ∉ links.map Link.ends) (edge : Edge) (hedge : edge ∈ edges) :
    projection.joins ends edge = false := by
  refine beq_eq_false_iff_ne.mpr ?_
  intro hlabels
  exact hnew (hpartition.covered edge hedge ends hlabels)

/-- Every link has its first edge among the edges seen. -/
theorem findIdx_lt (hpartition : projection.Partition edges links) {link : Link}
    (hlink : link ∈ links) : edges.findIdx (projection.joins link.ends) < edges.length := by
  obtain ⟨edge, hedge⟩ := List.exists_mem_of_ne_nil _ (hpartition.nonempty link hlink)
  rw [hpartition.gathered link hlink, List.mem_filter] at hedge
  exact List.findIdx_lt_length_of_exists ⟨edge, hedge⟩

/-- Further edges do not move the first edge of a link. -/
theorem findIdx_append (hpartition : projection.Partition edges links) {link : Link}
    (hlink : link ∈ links) (more : List Edge) :
    (edges ++ more).findIdx (projection.joins link.ends) =
      edges.findIdx (projection.joins link.ends) := by
  rw [List.findIdx_append, if_pos (hpartition.findIdx_lt hlink)]

/-- Nor do they change the order of the links. -/
theorem ordered_append (hpartition : projection.Partition edges links) (more : List Edge) :
    links.Pairwise fun earlier later =>
      (edges ++ more).findIdx (projection.joins earlier.ends) <
        (edges ++ more).findIdx (projection.joins later.ends) := by
  refine hpartition.ordered.imp_of_mem ?_
  intro earlier later hearlier hlater hlt
  rwa [hpartition.findIdx_append hearlier, hpartition.findIdx_append hlater]

/-- An edge without labels changes nothing. -/
theorem skip (hpartition : projection.Partition edges links) {edge : Edge}
    (hnone : projection.labels? edge = none) : projection.Partition (edges ++ [edge]) links where
  distinct := hpartition.distinct
  nonempty := hpartition.nonempty
  gathered link hlink := by
    rw [filter_joins_append, hnone, hpartition.gathered link hlink]
    simp
  ordered := hpartition.ordered_append [edge]
  covered other hother ends hends := by
    rcases List.mem_append.mp hother with hseen | hlast
    · exact hpartition.covered other hseen ends hends
    · rw [List.mem_singleton.mp hlast, hnone] at hends
      cases hends

/-- An edge between labels that occurred before goes to the end of their link. -/
theorem extend (hpartition : projection.Partition edges links) {edge : Edge}
    {source target : String} (hlabels : projection.labels? edge = some (source, target))
    (hold : (source, target) ∈ links.map Link.ends) :
    projection.Partition (edges ++ [edge]) (links.map (Link.extend (source, target) edge)) where
  distinct := by
    rw [List.map_map]
    simpa only [Function.comp_def, Link.ends_extend] using hpartition.distinct
  nonempty := by
    simp only [List.mem_map]
    rintro _ ⟨link, hlink, rfl⟩
    have hedges := hpartition.nonempty link hlink
    simp [Link.edges_extend, hedges]
  gathered := by
    simp only [List.mem_map]
    rintro _ ⟨link, hlink, rfl⟩
    rw [Link.ends_extend, Link.edges_extend, filter_joins_append, hlabels,
      hpartition.gathered link hlink]
    simp only [Option.some.injEq, eq_comm]
  ordered := by
    rw [List.pairwise_map]
    simp only [Link.ends_extend]
    exact hpartition.ordered_append [edge]
  covered other hother ends hends := by
    rw [List.map_map]
    simp only [Function.comp_def, Link.ends_extend]
    rcases List.mem_append.mp hother with hseen | hlast
    · exact hpartition.covered other hseen ends hends
    · rw [List.mem_singleton.mp hlast, hlabels] at hends
      cases hends
      exact hold

/-- An edge between labels that did not occur before starts a link behind all others. -/
theorem append (hpartition : projection.Partition edges links) {edge : Edge}
    {source target : String} (hlabels : projection.labels? edge = some (source, target))
    (hnew : (source, target) ∉ links.map Link.ends) :
    projection.Partition (edges ++ [edge]) (links ++ [⟨source, target, [edge]⟩]) where
  distinct := by
    rw [List.map_append, List.map_singleton, ← List.concat_eq_append]
    exact hpartition.distinct.concat hnew
  nonempty link hlink := by
    rcases List.mem_append.mp hlink with hseen | hlast
    · exact hpartition.nonempty link hseen
    · simp [List.mem_singleton.mp hlast]
  gathered link hlink := by
    rw [filter_joins_append, hlabels]
    rcases List.mem_append.mp hlink with hseen | hlast
    · have hne : (source, target) ≠ link.ends := by
        rintro heq
        exact hnew (heq ▸ List.mem_map_of_mem hseen)
      simp [hne, hpartition.gathered link hseen]
    · rw [List.mem_singleton.mp hlast]
      have hnone : edges.filter (projection.joins (source, target)) = [] :=
        List.filter_eq_nil_iff.mpr fun other hother => by
          simp [hpartition.not_joins hnew other hother]
      simp [Link.ends, hnone]
  ordered := by
    rw [List.pairwise_append]
    refine ⟨hpartition.ordered_append [edge], List.pairwise_singleton _ _, ?_⟩
    intro earlier hearlier later hlater
    rw [List.mem_singleton.mp hlater, hpartition.findIdx_append hearlier]
    -- The first edge between new labels is the one just taken in, behind all others.
    have hlast : (edges ++ [edge]).findIdx (projection.joins (source, target)) =
        edges.length := by
      rw [List.findIdx_append, if_neg]
      · simp [joins, hlabels, List.findIdx_cons]
      · rw [List.findIdx_eq_length_of_false (hpartition.not_joins hnew)]
        exact Nat.lt_irrefl _
    exact Nat.lt_of_lt_of_eq (hpartition.findIdx_lt hearlier) hlast.symm
  covered other hother ends hends := by
    rw [List.map_append, List.map_singleton, List.mem_append]
    rcases List.mem_append.mp hother with hseen | hlast
    · exact Or.inl (hpartition.covered other hseen ends hends)
    · rw [List.mem_singleton.mp hlast, hlabels] at hends
      cases hends
      exact Or.inr (List.mem_singleton_self _)

/-- Taking in an edge keeps the partition. -/
theorem gather (hpartition : projection.Partition edges links) (edge : Edge) :
    projection.Partition (edges ++ [edge]) (projection.gather links edge) := by
  unfold Projection.gather
  split
  next source target hlabels =>
    by_cases hold : (source, target) ∈ links.map Link.ends
    · rw [Link.insert_of_mem hpartition.distinct hold]
      exact hpartition.extend hlabels hold
    · rw [Link.insert_of_notMem hold]
      exact hpartition.append hlabels hold
  next hnone => exact hpartition.skip hnone

end Partition

theorem links_append (projection : Projection) (edges : List Edge) (edge : Edge) :
    projection.links (edges ++ [edge]) = projection.gather (projection.links edges) edge := by
  simp [links, List.foldl_append]

/-- The links of a list of edges partition it. -/
theorem partition_links (projection : Projection) (edges : List Edge) :
    projection.Partition edges (projection.links edges) := by
  induction edges using List.reverseRecOn with
  | nil => exact Partition.nil
  | append_singleton edges edge ih =>
      rw [links_append]
      exact ih.gather edge

theorem sum_length_links (projection : Projection) (edges : List Edge) :
    ((projection.links edges).map (·.edges.length)).sum =
      edges.countP fun edge => (projection.labels? edge).isSome := by
  induction edges using List.reverseRecOn with
  | nil => rfl
  | append_singleton edges edge ih =>
      rw [links_append, gather, List.countP_append, ← ih]
      split
      next source target hlabels => simp [Link.sum_length_insert, hlabels]
      next hnone => simp [hnone]

/-- A link is a link of the edges exactly if it has an edge and lacks none. -/
theorem mem_links_iff {projection : Projection} {edges : List Edge} {link : Link} :
    link ∈ projection.links edges ↔
      link.edges ≠ [] ∧ link.edges = edges.filter (projection.joins link.ends) := by
  have hpartition := projection.partition_links edges
  constructor
  · intro hlink
    exact ⟨hpartition.nonempty link hlink, hpartition.gathered link hlink⟩
  · rintro ⟨hne, heq⟩
    obtain ⟨edge, hedge⟩ := List.exists_mem_of_ne_nil _ hne
    rw [heq, List.mem_filter] at hedge
    obtain ⟨other, hother, hends⟩ :=
      List.mem_map.mp (hpartition.covered edge hedge.1 link.ends (beq_iff_eq.mp hedge.2))
    have hedges : other.edges = link.edges := by
      rw [hpartition.gathered other hother, hends, heq]
    exact Link.eq_of_ends hends hedges ▸ hother

theorem isExternal_eq_false_iff {projection : Projection} {edges : List Edge} {link : Link}
    (hlink : link ∈ projection.links edges) :
    link.isExternal = false ↔ ∃ edge ∈ link.edges, edge.external = false := by
  have hne : link.edges ≠ [] := (mem_links_iff.mp hlink).1
  simp [Link.isExternal, hne]

/-- Links of internal edges do not stand for external imports. -/
theorem isExternal_eq_false_of_select {projection : Projection} {edges : List Edge} {link : Link}
    (hlink : link ∈ projection.links (Edge.select true edges)) : link.isExternal = false := by
  obtain ⟨hne, hedges⟩ := mem_links_iff.mp hlink
  obtain ⟨edge, hedge⟩ := List.exists_mem_of_ne_nil _ hne
  refine (isExternal_eq_false_iff hlink).mpr ⟨edge, hedge, ?_⟩
  rw [hedges, List.mem_filter, Edge.select, List.mem_filter] at hedge
  simpa using hedge.1.2

/-- Two labels have a link exactly if an edge leads between them. -/
theorem mem_ends_links_iff {projection : Projection} {edges : List Edge} {ends : String × String} :
    ends ∈ (projection.links edges).map Link.ends ↔
      ∃ edge ∈ edges, projection.labels? edge = some ends := by
  have hpartition := projection.partition_links edges
  constructor
  · intro hmem
    obtain ⟨link, hlink, rfl⟩ := List.mem_map.mp hmem
    obtain ⟨edge, hedge⟩ := List.exists_mem_of_ne_nil _ (hpartition.nonempty link hlink)
    rw [hpartition.gathered link hlink, List.mem_filter] at hedge
    exact ⟨edge, hedge.1, beq_iff_eq.mp hedge.2⟩
  · rintro ⟨edge, hedge, hlabels⟩
    exact hpartition.covered edge hedge ends hlabels

/-- Links that stand for more than external imports join the labels that internal edges join. -/
theorem mem_ends_internal_iff {projection : Projection} {edges : List Edge}
    {ends : String × String} :
    ends ∈ ((projection.links edges).filter (!·.isExternal)).map Link.ends ↔
      ends ∈ (projection.links (Edge.select true edges)).map Link.ends := by
  rw [mem_ends_links_iff]
  constructor
  · intro hends
    obtain ⟨link, hkept, rfl⟩ := List.mem_map.mp hends
    obtain ⟨hlink, hinternal⟩ := List.mem_filter.mp hkept
    obtain ⟨edge, hedge, hexternal⟩ :=
      (isExternal_eq_false_iff hlink).mp (by simpa using hinternal)
    rw [(mem_links_iff.mp hlink).2, List.mem_filter] at hedge
    refine ⟨edge, ?_, beq_iff_eq.mp hedge.2⟩
    rw [Edge.select, List.mem_filter, hexternal]
    exact ⟨hedge.1, rfl⟩
  · rintro ⟨edge, hedge, hlabels⟩
    obtain ⟨hedge, hinternal⟩ := List.mem_filter.mp hedge
    -- The link of the edge may have external edges as well, but not only them.
    obtain ⟨link, hlink, rfl⟩ :=
      List.mem_map.mp (mem_ends_links_iff.mpr ⟨edge, hedge, hlabels⟩)
    have hmem : edge ∈ link.edges := by
      rw [(mem_links_iff.mp hlink).2, List.mem_filter]
      exact ⟨hedge, beq_iff_eq.mpr hlabels⟩
    have hkept : link.isExternal = false :=
      (isExternal_eq_false_iff hlink).mpr ⟨edge, hmem, by simpa using hinternal⟩
    apply List.mem_map_of_mem
    rw [List.mem_filter, hkept]
    exact ⟨hlink, rfl⟩

/-- The ends of the links are the pairs of labels that occur, in the order of their first edges. -/
theorem map_ends_links (projection : Projection) (edges : List Edge) :
    (projection.links edges).map Link.ends = (edges.filterMap projection.labels?).eraseDups := by
  induction edges using List.reverseRecOn with
  | nil => rfl
  | append_singleton edges edge ih =>
      rw [links_append, gather, List.filterMap_append, List.eraseDups_append, ← ih]
      split
      next source target hlabels =>
        have hlast : [edge].filterMap projection.labels? = [(source, target)] := by simp [hlabels]
        have hmem : (source, target) ∈ (projection.links edges).map Link.ends ↔
            (source, target) ∈ edges.filterMap projection.labels? := by
          rw [ih, List.mem_eraseDups]
        rw [hlast, List.cons_removeAll]
        by_cases hold : (source, target) ∈ (projection.links edges).map Link.ends
        · rw [Link.insert_of_mem (projection.partition_links edges).distinct hold, List.map_map]
          simp [Function.comp_def, ← hmem, hold]
        · rw [Link.insert_of_notMem hold]
          simp [← hmem, hold, Link.ends, List.eraseDups_cons]
      next hnone => simp [hnone]

/-- The links, pair of labels by pair of labels. -/
theorem links_eq_map (projection : Projection) (edges : List Edge) :
    projection.links edges =
      ((edges.filterMap projection.labels?).eraseDups).map fun ends =>
        ⟨ends.1, ends.2, edges.filter (projection.joins ends)⟩ := by
  rw [← map_ends_links, List.map_map]
  refine ((List.map_congr_left ?_).trans (List.map_id _)).symm
  intro link hlink
  exact Link.eq_of_ends rfl ((projection.partition_links edges).gathered link hlink).symm

/-- The links hold exactly the edges that have labels. -/
theorem exists_mem_links_iff {projection : Projection} {edges : List Edge} {edge : Edge} :
    (∃ link ∈ projection.links edges, edge ∈ link.edges) ↔
      edge ∈ edges ∧ (projection.labels? edge).isSome := by
  have hpartition := projection.partition_links edges
  constructor
  · rintro ⟨link, hlink, hmem⟩
    rw [hpartition.gathered link hlink, List.mem_filter, joins, beq_iff_eq] at hmem
    exact ⟨hmem.1, Option.isSome_iff_exists.mpr ⟨_, hmem.2⟩⟩
  · rintro ⟨hedge, hsome⟩
    obtain ⟨ends, hends⟩ := Option.isSome_iff_exists.mp hsome
    obtain ⟨link, hlink, rfl⟩ := List.mem_map.mp (hpartition.covered edge hedge ends hends)
    refine ⟨link, hlink, ?_⟩
    rw [hpartition.gathered link hlink, List.mem_filter]
    exact ⟨hedge, beq_iff_eq.mpr hends⟩

/-- The links are the labelled edges, sorted into non-empty groups with distinct ends. Groups keep
the order of the edges, and stand in the order of their first edges. -/
theorem links_group_edges (projection : Projection) (edges : List Edge) :
    ((projection.links edges).map Link.ends).Nodup ∧
      (∀ link ∈ projection.links edges,
        link.edges ≠ [] ∧ link.edges = edges.filter (projection.joins link.ends)) ∧
      ((projection.links edges).Pairwise fun earlier later =>
        edges.findIdx (projection.joins earlier.ends) <
          edges.findIdx (projection.joins later.ends)) ∧
      (∀ edge, (∃ link ∈ projection.links edges, edge ∈ link.edges) ↔
        edge ∈ edges ∧ (projection.labels? edge).isSome) ∧
      ((projection.links edges).map (·.edges.length)).sum =
        edges.countP fun edge => (projection.labels? edge).isSome := by
  have hpartition := projection.partition_links edges
  refine ⟨hpartition.distinct, ?_, hpartition.ordered, fun edge => exists_mem_links_iff,
    sum_length_links projection edges⟩
  intro link hlink
  exact mem_links_iff.mp hlink

/-- A link of two edges, with an edge between other units among them. -/
theorem links_group_parallel_edges :
    let edges : List Edge :=
      [⟨"a", "b", false, []⟩, ⟨"b", "a", false, []⟩, ⟨"a", "b", false, [.type]⟩]
    let link : Link := ⟨"a", "b", [⟨"a", "b", false, []⟩, ⟨"a", "b", false, [.type]⟩]⟩
    link ∈ identity.links edges ∧ link.edges = edges.filter (identity.joins link.ends) := by
  intro edges link
  have hlink : link ∈ identity.links edges := by decide
  exact ⟨hlink, ((links_group_edges identity edges).2.1 link hlink).2⟩

end Projection

end ImportRules
