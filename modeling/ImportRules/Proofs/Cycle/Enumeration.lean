import ImportRules.Proofs.ClosedChain
import ImportRules.Proofs.Cycle.Graph
import ImportRules.Proofs.Cycle.Tour
/-!
# Every elementary cycle, once

The search finds exactly the elementary cycles: closed chains of links through distinct labels that
begin at their least label. They come in ascending order of their labels, which is why none of them
comes twice.
-/

namespace ImportRules

/-- One link leads to where the next one begins. -/
def Link.Meets (link next : Link) : Prop :=
  link.target = next.source

/-- A closed chain of links through at least two labels, all distinct and the least one first. Each
link leads to another label and is the first one that does. -/
structure Cycle.IsElementary (links : List Link) (cycle : Cycle) : Prop where
  length : 2 ≤ cycle.links.length
  closed : ClosedChain Link.Meets cycle.links
  distinct : cycle.labels.Nodup
  leastFirst : LeastFirst cycle.labels
  loopless : ∀ link ∈ cycle.links, link.source ≠ link.target
  first : ∀ link ∈ cycle.links, link.IsFirst links

/-- The links of a closed chain lead to the labels that they come from, one place on. -/
theorem map_target_eq_rotate {links : List Link} (hclosed : ClosedChain Link.Meets links) :
    links.map Link.target = (links.map Link.source).rotate 1 := by
  have hopen : ∀ (link next : Link) (rest : List Link),
      (link :: rest ++ [next]).IsChain Link.Meets →
        (link :: rest).map Link.target = rest.map Link.source ++ [next.source] := by
    intro link next rest hchain
    induction rest generalizing link with
    | nil => simpa [Link.Meets] using hchain
    | cons second rest ih =>
        obtain ⟨hmeets, hrest⟩ := List.isChain_cons_cons.mp hchain
        rw [List.map_cons, ih second hrest, show link.target = second.source from hmeets]
        rfl
  cases links with
  | nil => rfl
  | cons link rest =>
      rw [hopen link link rest hclosed, List.map_cons, List.rotate_cons_succ, List.rotate_zero]

/-! ## The shape of a tour -/

namespace Tour

variable {links : List Link} {start label : String} {untried : List Link} {free : List String}
  {tour : List Link}

theorem sources_eq_cons (htour : Tour (Graph.ofLinks links) start untried free tour)
    (hout : untried ⊆ (Graph.ofLinks links).out label) :
    ∃ rest, tour.map Link.source = label :: rest := by
  cases htour with
  | close hlink hstart =>
      refine ⟨[], ?_⟩
      rw [List.map_singleton, Graph.source_of_mem_out (hout hlink)]
  | @follow _ _ link tour hlink hstart hfree htour =>
      refine ⟨tour.map Link.source, ?_⟩
      rw [List.map_cons, Graph.source_of_mem_out (hout hlink)]

/-- A tour is a single link back to the start, or goes on from a free label. -/
theorem exists_link (htour : Tour (Graph.ofLinks links) start untried free tour)
    (hout : untried ⊆ (Graph.ofLinks links).out label) :
    ∃ link ∈ untried,
      (link.target = start ∧ tour.map Link.source = [label]) ∨
        (link.target ∈ free ∧ ∃ rest, tour.map Link.source = label :: link.target :: rest) := by
  cases htour with
  | @close _ _ link hlink hstart =>
      exact ⟨link, hlink, Or.inl ⟨hstart, by simp [Graph.source_of_mem_out (hout hlink)]⟩⟩
  | @follow _ _ link tour hlink hstart hfree htour =>
      obtain ⟨rest, hrest⟩ := htour.sources_eq_cons (List.Subset.refl _)
      refine ⟨link, hlink, Or.inr ⟨hfree, rest, ?_⟩⟩
      rw [List.map_cons, hrest, Graph.source_of_mem_out (hout hlink)]

/-- Every link of a tour is in the graph. -/
theorem mem_out (htour : Tour (Graph.ofLinks links) start untried free tour)
    (hout : untried ⊆ (Graph.ofLinks links).out label) :
    ∀ link ∈ tour, link ∈ (Graph.ofLinks links).out link.source := by
  induction htour generalizing label with
  | close hlink hstart =>
      intro other hother
      rw [List.mem_singleton.mp hother]
      exact Graph.mem_out_source (hout hlink)
  | follow hlink hstart hfree htour ih =>
      intro other hother
      rcases List.mem_cons.mp hother with rfl | hother
      · exact Graph.mem_out_source (hout hlink)
      · exact ih (List.Subset.refl _) other hother

/-- The links of a tour meet, and the last one leads to the start. -/
theorem isChain (htour : Tour (Graph.ofLinks links) start untried free tour)
    (hout : untried ⊆ (Graph.ofLinks links).out label) {next : Link} (hnext : next.source = start) :
    (tour ++ [next]).IsChain Link.Meets := by
  induction htour generalizing label with
  | close hlink hstart =>
      exact List.isChain_cons_cons.mpr ⟨hstart.trans hnext.symm, List.isChain_singleton _⟩
  | @follow _ _ link tour hlink hstart hfree htour ih =>
      obtain ⟨rest, hrest⟩ := htour.sources_eq_cons (List.Subset.refl _)
      obtain ⟨second, tour, rfl, hsecond, -⟩ := List.map_eq_cons_iff.mp hrest
      exact List.isChain_cons_cons.mpr ⟨hsecond.symm, ih (List.Subset.refl _)⟩

/-- Behind its first label a tour visits free labels, none of them twice. -/
theorem tail_sources (htour : Tour (Graph.ofLinks links) start untried free tour)
    (hout : untried ⊆ (Graph.ofLinks links).out label) (hfree : free.Nodup) :
    (tour.map Link.source).tail.Nodup ∧ (tour.map Link.source).tail ⊆ free := by
  induction htour generalizing label with
  | close hlink hstart => simp
  | @follow _ free link tour hlink hstart hmem htour ih =>
      obtain ⟨hnodup, hsubset⟩ := ih (List.Subset.refl _) (hfree.erase _)
      obtain ⟨rest, hrest⟩ := htour.sources_eq_cons (List.Subset.refl _)
      rw [hrest, List.tail_cons] at hnodup hsubset
      rw [List.map_cons, List.tail_cons, hrest]
      constructor
      · refine List.nodup_cons.mpr ⟨?_, hnodup⟩
        intro hagain
        exact (hfree.mem_erase_iff.mp (hsubset hagain)).1 rfl
      · intro other hother
        rcases List.mem_cons.mp hother with rfl | hother
        · exact hmem
        · exact List.mem_of_mem_erase (hsubset hother)

end Tour

/-- Along arcs through distinct free labels there is a tour. -/
theorem exists_tour {links : List Link} {start label : String} {rest free : List String}
    (hchain : (label :: rest ++ [start]).IsChain (Arc links)) (hnodup : rest.Nodup)
    (hfree : rest ⊆ free) (hstart : start ∉ rest) :
    ∃ tour, Tour (Graph.ofLinks links) start ((Graph.ofLinks links).out label) free tour ∧
      tour.map Link.source = label :: rest := by
  induction rest generalizing label free with
  | nil =>
      obtain ⟨link, hlink, htarget⟩ := (List.isChain_cons_cons.mp hchain).1.exists_mem_out
      refine ⟨[link], .close hlink htarget, ?_⟩
      rw [List.map_singleton, Graph.source_of_mem_out hlink]
  | cons next rest ih =>
      obtain ⟨harc, hrest⟩ := List.isChain_cons_cons.mp hchain
      obtain ⟨link, hlink, rfl⟩ := harc.exists_mem_out
      obtain ⟨hnext, hnodup⟩ := List.nodup_cons.mp hnodup
      obtain ⟨hmem, hfree⟩ := List.cons_subset.mp hfree
      obtain ⟨hne, hstart⟩ := not_or.mp (mt List.mem_cons.mpr hstart)
      have herase : rest ⊆ free.erase link.target := by
        intro other hother
        refine (List.mem_erase_of_ne ?_).mpr (hfree hother)
        rintro rfl
        exact hnext hother
      obtain ⟨tour, htour, hsources⟩ := ih hrest hnodup herase hstart
      refine ⟨link :: tour, .follow hlink (Ne.symm hne) hmem htour, ?_⟩
      rw [List.map_cons, hsources, Graph.source_of_mem_out hlink]

/-! ## Order -/

/-- A tour whose first link leads beyond the start goes on from there. -/
theorem Tour.exists_next {links : List Link} {start label bound : String} {untried : List Link}
    {free : List String} {tour : List Link}
    (htour : Tour (Graph.ofLinks links) start untried free tour)
    (hout : untried ⊆ (Graph.ofLinks links).out label) (hstart : start ≤ bound)
    (hbound : ∀ link ∈ untried, bound < link.target) :
    ∃ next rest, bound < next ∧ tour.map Link.source = label :: next :: rest := by
  obtain ⟨link, hlink, ⟨htarget, -⟩ | ⟨-, rest, hsources⟩⟩ := htour.exists_link hout
  · exact absurd (htarget ▸ hbound link hlink) (not_lt_of_ge hstart)
  · exact ⟨link.target, rest, hbound link hlink, hsources⟩

/-- Tours that begin with ascending targets ascend. A tour that closes at once comes before all
others, as the start is below the free labels. -/
theorem tours_pairwise {links : List Link} {start label : String} {untried : List Link}
    {free : List String} (hout : untried ⊆ (Graph.ofLinks links).out label)
    (htargets : untried.Pairwise fun a b => a.target < b.target)
    (habove : ∀ other ∈ free, start < other) :
    (tours (Graph.ofLinks links) start untried free).Pairwise fun a b =>
      a.map Link.source < b.map Link.source := by
  fun_induction tours (Graph.ofLinks links) start untried free generalizing label with
  | case1 => exact List.Pairwise.nil
  | case2 free link untried hstart ih =>
      obtain ⟨hlink, hout⟩ := List.cons_subset.mp hout
      obtain ⟨hlater, htargets⟩ := List.pairwise_cons.mp htargets
      refine List.pairwise_cons.mpr ⟨?_, ih hout htargets habove⟩
      intro tour htour
      obtain ⟨next, rest, -, hsources⟩ :=
        (mem_tours_iff.mp htour).exists_next hout hstart.ge hlater
      rw [hsources, List.map_singleton, Graph.source_of_mem_out hlink]
      exact List.cons_lt_cons_iff.mpr (Or.inr ⟨rfl, List.nil_lt_cons _ _⟩)
  | case3 free link untried hstart hfree ih ih' =>
      obtain ⟨hlink, hout⟩ := List.cons_subset.mp hout
      obtain ⟨hlater, htargets⟩ := List.pairwise_cons.mp htargets
      rw [List.pairwise_append]
      refine ⟨?_, ih' hout htargets habove, ?_⟩
      · rw [List.pairwise_map]
        refine (ih (List.Subset.refl _) (Graph.out_pairwise links _) ?_).imp ?_
        · exact fun other hother => habove other (List.mem_of_mem_erase hother)
        · intro a b hlt
          exact List.cons_lt_cons_iff.mpr (Or.inr ⟨rfl, hlt⟩)
      · -- Both tours come from the same label, and part where their first links lead.
        intro tour htour other hother
        obtain ⟨inner, hinner, rfl⟩ := List.mem_map.mp htour
        obtain ⟨rest, hsources⟩ :=
          (mem_tours_iff.mp hinner).sources_eq_cons (List.Subset.refl _)
        obtain ⟨next, rest', hnext, hsources'⟩ :=
          (mem_tours_iff.mp hother).exists_next hout (habove _ hfree).le hlater
        rw [List.map_cons, hsources, hsources', Graph.source_of_mem_out hlink]
        refine List.cons_lt_cons_iff.mpr (Or.inr ⟨rfl, ?_⟩)
        exact List.cons_lt_cons_iff.mpr (Or.inl hnext)
  | case4 free link untried hstart hfree ih =>
      exact ih (List.cons_subset.mp hout).2 (List.pairwise_cons.mp htargets).2 habove

theorem toursFrom_pairwise (links : List Link) (label : String) :
    ((Graph.ofLinks links).toursFrom label).Pairwise fun a b =>
      a.map Link.source < b.map Link.source := by
  refine tours_pairwise (List.Subset.refl _) (Graph.out_pairwise links label) ?_
  intro other hother
  exact of_decide_eq_true (List.mem_filter.mp hother).2

theorem sources_of_mem_toursFrom {links : List Link} {label : String} {tour : List Link}
    (htour : tour ∈ (Graph.ofLinks links).toursFrom label) :
    ∃ rest, tour.map Link.source = label :: rest :=
  (mem_tours_iff.mp htour).sources_eq_cons (List.Subset.refl _)

/-- Cycles are found in ascending order of their labels. -/
theorem labels_findCycles_pairwise (links : List Link) :
    ((findCycles links).map Cycle.labels).Pairwise (· < ·) := by
  rw [List.pairwise_map, findCycles_eq, Graph.cycles, List.pairwise_flatMap]
  constructor
  · intro label _
    rw [List.pairwise_map]
    exact toursFrom_pairwise links label
  · refine (Graph.labels_ofLinks_pairwise links).imp ?_
    intro first second hlt a ha b hb
    obtain ⟨tour, htour, rfl⟩ := List.mem_map.mp ha
    obtain ⟨tour', htour', rfl⟩ := List.mem_map.mp hb
    obtain ⟨rest, hrest⟩ := sources_of_mem_toursFrom htour
    obtain ⟨rest', hrest'⟩ := sources_of_mem_toursFrom htour'
    rw [Cycle.labels, Cycle.labels, hrest, hrest']
    exact List.cons_lt_cons_iff.mpr (Or.inl hlt)

/-! ## Soundness and completeness -/

theorem mem_findCycles_iff_tour {links : List Link} {cycle : Cycle} :
    cycle ∈ findCycles links ↔
      ∃ label ∈ (Graph.ofLinks links).labels,
        cycle.links ∈ (Graph.ofLinks links).toursFrom label := by
  obtain ⟨tour⟩ := cycle
  simp [findCycles_eq, Graph.cycles]

/-- Every cycle that is found is elementary. -/
theorem isElementary_of_mem_findCycles {links : List Link} {cycle : Cycle}
    (hcycle : cycle ∈ findCycles links) : cycle.IsElementary links := by
  obtain ⟨label, -, hmem⟩ := mem_findCycles_iff_tour.mp hcycle
  have htour := mem_tours_iff.mp hmem
  obtain ⟨rest, hrest⟩ := sources_of_mem_toursFrom hmem
  have hlabels : ((Graph.ofLinks links).labels.filter fun other => decide (label < other)).Nodup :=
    ((Graph.labels_ofLinks_pairwise links).imp fun hlt => ne_of_lt hlt).filter _
  obtain ⟨hnodup, hsubset⟩ := htour.tail_sources (List.Subset.refl _) hlabels
  have habove : ∀ other ∈ rest, label < other := by
    intro other hother
    rw [hrest, List.tail_cons] at hsubset
    exact of_decide_eq_true (List.mem_filter.mp (hsubset hother)).2
  constructor
  · obtain ⟨link, hlink, ⟨htarget, -⟩ | ⟨-, inner, hsources⟩⟩ :=
      htour.exists_link (List.Subset.refl _)
    · -- A tour of a single link would be a loop, and the graph has none.
      obtain ⟨hsource, hloop, -⟩ := Graph.mem_out_iff.mp hlink
      exact absurd (hsource.trans htarget.symm) hloop
    · have hlength := congrArg List.length hsources
      simp only [List.length_map, List.length_cons] at hlength
      omega
  · obtain ⟨first, tour, heq, hfirst, -⟩ := List.map_eq_cons_iff.mp hrest
    rw [heq] at htour ⊢
    exact htour.isChain (List.Subset.refl _) hfirst
  · rw [Cycle.labels, hrest]
    rw [hrest, List.tail_cons] at hnodup
    exact List.nodup_cons.mpr ⟨fun hagain => lt_irrefl label (habove label hagain), hnodup⟩
  · rw [Cycle.labels, hrest]
    exact habove
  · intro link hlink
    exact (Graph.mem_out_iff.mp (htour.mem_out (List.Subset.refl _) link hlink)).2.1
  · intro link hlink
    exact (Graph.mem_out_iff.mp (htour.mem_out (List.Subset.refl _) link hlink)).2.2

/-- Every closed chain of arcs through distinct labels is found, from its least label on. -/
theorem exists_mem_findCycles {links : List Link} {labels : List String}
    (hclosed : ClosedChain (Arc links) labels) (hnodup : labels.Nodup)
    (hleast : LeastFirst labels) : ∃ cycle ∈ findCycles links, cycle.labels = labels := by
  match labels with
  | [] => exact absurd hleast not_false
  | label :: rest =>
      have hgraph : ∀ other ∈ label :: rest, other ∈ (Graph.ofLinks links).labels := by
        intro other hother
        obtain ⟨next, harc⟩ := hclosed.exists_related hother
        exact harc.mem_labels
      have hfree : rest ⊆
          (Graph.ofLinks links).labels.filter fun other => decide (label < other) := by
        intro other hother
        exact List.mem_filter.mpr
          ⟨hgraph other (List.mem_cons_of_mem _ hother), decide_eq_true (hleast other hother)⟩
      obtain ⟨hlabel, hrest⟩ := List.nodup_cons.mp hnodup
      obtain ⟨tour, htour, hsources⟩ := exists_tour hclosed hrest hfree hlabel
      exact ⟨⟨tour⟩, mem_findCycles_iff_tour.mpr
        ⟨label, hgraph label List.mem_cons_self, mem_tours_iff.mpr htour⟩, hsources⟩

/-- An elementary cycle goes along arcs. -/
theorem Cycle.IsElementary.closedChain_labels {links : List Link} {cycle : Cycle}
    (hcycle : cycle.IsElementary links) : ClosedChain (Arc links) cycle.labels := by
  refine hcycle.closed.map ?_
  intro link hlink next _ hmeets
  rw [← show link.target = next.source from hmeets]
  exact ⟨hcycle.loopless link hlink, link, (hcycle.first link hlink).mem, rfl⟩

/-- The labels of the cycles found are the closed chains of arcs through distinct labels, each
begun at its least label. -/
theorem mem_labels_findCycles_iff {links : List Link} {labels : List String} :
    labels ∈ (findCycles links).map Cycle.labels ↔
      ClosedChain (Arc links) labels ∧ labels.Nodup ∧ LeastFirst labels := by
  rw [List.mem_map]
  constructor
  · rintro ⟨cycle, hcycle, rfl⟩
    have helementary := isElementary_of_mem_findCycles hcycle
    exact ⟨helementary.closedChain_labels, helementary.distinct, helementary.leastFirst⟩
  · rintro ⟨hclosed, hnodup, hleast⟩
    exact exists_mem_findCycles hclosed hnodup hleast

/-- The search finds the elementary cycles and nothing else, each of them once: what it finds is
elementary, and every closed chain of arcs through distinct labels turns up, begun at its least
label. -/
theorem findCycles_exact (links : List Link) :
    (∀ cycle ∈ findCycles links, cycle.IsElementary links) ∧
      ∀ labels : List String, 2 ≤ labels.length → labels.Nodup → ClosedChain (Arc links) labels →
        ∃ rotated, rotated.IsRotated labels ∧ LeastFirst rotated ∧
          ((findCycles links).map Cycle.labels).count rotated = 1 := by
  refine ⟨fun cycle => isElementary_of_mem_findCycles, ?_⟩
  intro labels hlength hnodup hclosed
  have hne : labels ≠ [] := List.ne_nil_of_length_pos (by omega)
  obtain ⟨rotated, hrotated, hleast⟩ := exists_leastFirst hne hnodup
  refine ⟨rotated, hrotated, hleast, ?_⟩
  have hmem : rotated ∈ (findCycles links).map Cycle.labels := mem_labels_findCycles_iff.mpr
    ⟨hclosed.of_isRotated hrotated.symm, hrotated.nodup_iff.mpr hnodup, hleast⟩
  have hdistinct : ((findCycles links).map Cycle.labels).Nodup :=
    (labels_findCycles_pairwise links).imp fun hlt => ne_of_lt hlt
  exact List.count_eq_one_of_mem hdistinct hmem

/-- Two labels that import each other, with a loop and a second link between the same labels. -/
theorem findCycles_mutual_links :
    let links : List Link :=
      [⟨"b", "a", []⟩, ⟨"a", "a", []⟩, ⟨"a", "b", []⟩, ⟨"b", "a", [⟨"b", "a", false, []⟩]⟩]
    ClosedChain (Arc links) ["b", "a"] ∧
      ∃ cycle ∈ findCycles links, cycle.IsElementary links ∧ cycle.labels.IsRotated ["b", "a"] := by
  intro links
  have hclosed : ClosedChain (Arc links) ["b", "a"] := by
    simp [ClosedChain, Arc, Link.ends, links]
  obtain ⟨hsound, hcomplete⟩ := findCycles_exact links
  obtain ⟨rotated, hrotated, -, hcount⟩ :=
    hcomplete ["b", "a"] (by decide) (by decide) hclosed
  have hmem : rotated ∈ (findCycles links).map Cycle.labels :=
    List.count_pos_iff.mp (hcount ▸ Nat.one_pos)
  obtain ⟨cycle, hcycle, rfl⟩ := List.mem_map.mp hmem
  exact ⟨hclosed, cycle, hcycle, hsound cycle hcycle, hrotated⟩

end ImportRules
