import ImportRules.Check
import ImportRules.Proofs.Cycle.Enumeration
/-!
# Freedom from cycles

A check for cycles has nothing to report exactly if the edges it looks at lead nowhere round: every
closed chain of them stays within a single label. Such chains may use edges and labels more than
once and may linger within a label, so that an elementary cycle has to be found inside them.
-/

namespace ImportRules

/-- One pair of labels ends where the next one begins. -/
def Follows (here next : String × String) : Prop :=
  here.2 = next.1

/-- Edges that lead round: the label that one of them leads to is the label that the next one comes
from, and not all of them stay within a label. Edges and labels may recur. -/
structure Circuit (projection : Projection) (edges chain : List Edge)
    (ends : List (String × String)) : Prop where
  kept : chain ⊆ edges
  labelled : chain.map projection.labels? = ends.map some
  closed : ClosedChain Follows ends
  leaves : ∃ here ∈ ends, here.1 ≠ here.2

/-- In a chain of pairs of labels the pairs that stay within a label can be left out. -/
theorem isChain_filter_ne {here : String × String} {ends : List (String × String)}
    (hchain : (here :: ends).IsChain Follows) :
    (here :: ends.filter fun pair => pair.1 ≠ pair.2).IsChain Follows := by
  induction ends generalizing here with
  | nil => exact List.isChain_singleton _
  | cons next ends ih =>
      obtain ⟨hjoin, hrest⟩ := List.isChain_cons_cons.mp hchain
      by_cases hloop : next.1 = next.2
      · rw [List.filter_cons_of_neg (by simpa using hloop)]
        refine ih (List.IsChain.imp_head ?_ hrest)
        intro later hlater
        exact (hjoin.trans hloop).trans hlater
      · rw [List.filter_cons_of_pos (by simpa using hloop)]
        exact List.isChain_cons_cons.mpr ⟨hjoin, ih hrest⟩

/-- So they can in a closed chain that begins with a pair of different labels. -/
theorem closedChain_filter_ne {here : String × String} {ends : List (String × String)}
    (hclosed : ClosedChain Follows (here :: ends)) (hne : here.1 ≠ here.2) :
    ClosedChain Follows (here :: ends.filter fun pair => pair.1 ≠ pair.2) := by
  change (here :: (ends ++ [here])).IsChain Follows at hclosed
  have hchain := isChain_filter_ne hclosed
  rwa [List.filter_append, List.filter_cons_of_pos (by simpa using hne)] at hchain

namespace Circuit

variable {projection : Projection} {edges chain : List Edge} {ends : List (String × String)}

/-- Every step of a circuit from one label to another is along an arc. -/
theorem arc_of_mem (hcircuit : Circuit projection edges chain ends) {here : String × String}
    (hhere : here ∈ ends) (hne : here.1 ≠ here.2) :
    Arc (projection.links edges) here.1 here.2 := by
  have hmem : some here ∈ chain.map projection.labels? := by
    rw [hcircuit.labelled]
    exact List.mem_map_of_mem hhere
  obtain ⟨edge, hedge, hlabels⟩ := List.mem_map.mp hmem
  obtain ⟨link, hlink, hends⟩ := List.mem_map.mp <|
    (projection.partition_links edges).covered edge (hcircuit.kept hedge) here hlabels
  exact ⟨hne, link, hlink, hends⟩

/-- Inside a circuit there is a closed chain of arcs. -/
theorem exists_closedChain (hcircuit : Circuit projection edges chain ends) :
    ∃ labels, labels ≠ [] ∧ ClosedChain (Arc (projection.links edges)) labels := by
  obtain ⟨here, hhere, hleaves⟩ := hcircuit.leaves
  -- Begun at a step between different labels, the chain stays closed without the other steps.
  obtain ⟨before, after, hsplit⟩ := List.append_of_mem hhere
  have hrotated : ends.IsRotated (here :: (after ++ before)) := by
    rw [hsplit]
    exact List.isRotated_append
  have hclosed := closedChain_filter_ne (hcircuit.closed.of_isRotated hrotated) hleaves
  refine ⟨(here :: (after ++ before).filter fun pair => pair.1 ≠ pair.2).map Prod.fst, by simp,
    hclosed.map ?_⟩
  intro pair hpair next _ hfollows
  have hmem : pair ∈ ends ∧ pair.1 ≠ pair.2 := by
    rcases List.mem_cons.mp hpair with rfl | hpair
    · exact ⟨hhere, hleaves⟩
    · obtain ⟨hpair, hne⟩ := List.mem_filter.mp hpair
      exact ⟨hrotated.perm.mem_iff.mpr (List.mem_cons_of_mem _ hpair), of_decide_eq_true hne⟩
  rw [← show pair.2 = next.1 from hfollows]
  exact hcircuit.arc_of_mem hmem.1 hmem.2

end Circuit

/-- Pairs of labels that all come from edges come from a chain of edges. -/
theorem exists_edges_of_ends {projection : Projection} {edges : List Edge}
    {ends : List (String × String)}
    (hends : ∀ here ∈ ends, ∃ edge ∈ edges, projection.labels? edge = some here) :
    ∃ chain, chain ⊆ edges ∧ chain.map projection.labels? = ends.map some := by
  induction ends with
  | nil => exact ⟨[], by simp⟩
  | cons here ends ih =>
      obtain ⟨edge, hedge, hlabels⟩ := hends here List.mem_cons_self
      obtain ⟨chain, hchain, hmap⟩ := ih fun next hnext => hends next (List.mem_cons_of_mem _ hnext)
      refine ⟨edge :: chain, List.cons_subset.mpr ⟨hedge, hchain⟩, ?_⟩
      rw [List.map_cons, List.map_cons, hlabels, hmap]

/-- The links of an elementary cycle make up a circuit. -/
theorem Cycle.IsElementary.exists_circuit {projection : Projection} {edges : List Edge}
    {cycle : Cycle} (hcycle : cycle.IsElementary (projection.links edges)) :
    ∃ chain ends, Circuit projection edges chain ends := by
  have hends : ∀ here ∈ cycle.links.map Link.ends,
      ∃ edge ∈ edges, projection.labels? edge = some here := by
    intro here hhere
    obtain ⟨link, hlink, rfl⟩ := List.mem_map.mp hhere
    obtain ⟨hne, hedges⟩ := Projection.mem_links_iff.mp (hcycle.first link hlink).mem
    obtain ⟨edge, hedge⟩ := List.exists_mem_of_ne_nil _ hne
    rw [hedges, List.mem_filter] at hedge
    exact ⟨edge, hedge.1, beq_iff_eq.mp hedge.2⟩
  obtain ⟨chain, hkept, hlabelled⟩ := exists_edges_of_ends hends
  refine ⟨chain, cycle.links.map Link.ends, hkept, hlabelled, ?_, ?_⟩
  · exact hcycle.closed.map fun link _ next _ hmeets => hmeets
  · have hlength := hcycle.length
    obtain ⟨link, hlink⟩ := List.exists_mem_of_length_pos (l := cycle.links) (by omega)
    exact ⟨link.ends, List.mem_map_of_mem hlink, hcycle.loopless link hlink⟩

/-- A closed chain of arcs, however long, makes the search find something. -/
theorem findCycles_ne_nil {links : List Link} {labels : List String} (hne : labels ≠ [])
    (hclosed : ClosedChain (Arc links) labels) : findCycles links ≠ [] := by
  obtain ⟨shorter, hshorter, hne, hnodup⟩ := hclosed.exists_nodup hne
  obtain ⟨rotated, hrotated, hleast⟩ := exists_leastFirst hne hnodup
  obtain ⟨cycle, hcycle, -⟩ := exists_mem_findCycles (hshorter.of_isRotated hrotated.symm)
    (hrotated.nodup_iff.mpr hnodup) hleast
  exact List.ne_nil_of_mem hcycle

/-- A limit of at least one cycle never hides that there are cycles. -/
theorem searchCycles_eq_nil_iff {links : List Link} {limit : Option Nat} (hlimit : limit ≠ some 0) :
    (searchCycles links limit).cycles = [] ↔ findCycles links = [] := by
  rw [searchCycles_eq, findCycles_eq]
  match limit with
  | none => rfl
  | some (limit + 1) => simp [upTo]

/-- A check for cycles that may report at least one finds nothing exactly if no chain of the edges
it looks at leads round from one label to another and back. -/
theorem evaluate_cycles_eq_nil_iff (view : View) (limit : Option Nat) (hlimit : limit ≠ some 0)
    (edges : List Edge) :
    (Check.cycles view limit).evaluate edges = [] ↔
      ¬∃ chain ends,
        Circuit view.projection (Edge.select view.ignoreExternal edges) chain ends := by
  rw [Check.evaluate, List.map_eq_nil_iff, searchCycles_eq_nil_iff hlimit]
  constructor
  · rintro hnil ⟨chain, ends, hcircuit⟩
    obtain ⟨labels, hne, hclosed⟩ := hcircuit.exists_closedChain
    exact findCycles_ne_nil hne hclosed hnil
  · intro hnone
    refine List.eq_nil_iff_forall_not_mem.mpr ?_
    intro cycle hcycle
    exact hnone (isElementary_of_mem_findCycles hcycle).exists_circuit

/-- A loop on the way round does not hide a cycle, and a limit of one still reports it. -/
theorem evaluate_cycles_lingering :
    some 1 ≠ some 0 ∧
      (Check.cycles ⟨.identity, true⟩ (some 1)).evaluate
        [⟨"a", "a", false, []⟩, ⟨"a", "b", false, []⟩, ⟨"b", "a", false, []⟩] ≠ [] := by
  refine ⟨by decide, fun hnil => ?_⟩
  refine (evaluate_cycles_eq_nil_iff ⟨.identity, true⟩ (some 1) (by decide) _).mp hnil ?_
  refine ⟨[⟨"a", "a", false, []⟩, ⟨"a", "b", false, []⟩, ⟨"b", "a", false, []⟩],
    [("a", "a"), ("a", "b"), ("b", "a")], ?_, rfl, ?_, ⟨("a", "b"), by decide, by decide⟩⟩
  · exact List.Subset.refl _
  · simp [ClosedChain, Follows]

end ImportRules
