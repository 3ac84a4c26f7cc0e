import ImportRules.Proofs.EdgeOrder
import ImportRules.Proofs.Text.ByteOrder
/-!
# The order in which cycles are reported

A search reports cycles by their labels, compared as sequences of byte strings, and each cycle comes
after all those that are less. So the report is settled by which arcs there are: the links may come
in any order, any number of times, and with loops among them.
-/

namespace ImportRules

theorem map_upTo {α β : Type} (f : α → β) (limit : Option Nat) (entries : List α) :
    (upTo limit entries).map f = upTo limit (entries.map f) := by
  cases limit with
  | none => rfl
  | some limit => exact List.map_take

theorem upTo_sublist {α : Type} (limit : Option Nat) (entries : List α) :
    (upTo limit entries).Sublist entries := by
  cases limit with
  | none => exact List.Sublist.refl entries
  | some limit => exact List.take_sublist limit entries

/-- A search lists the labels of the cycles in the order in which an unlimited one finds them. -/
theorem map_labels_searchCycles (links : List Link) (limit : Option Nat) :
    (searchCycles links limit).cycles.map Cycle.labels =
      upTo limit ((findCycles links).map Cycle.labels) := by
  rw [searchCycles_eq, findCycles_eq, map_upTo]

/-- Cycles are reported in strictly ascending order of their labels as byte strings. Two lists of
links with the same arcs give the same labels of cycles in the same order. -/
theorem searchCycles_in_byte_order (links : List Link) (limit : Option Nat) :
    ((searchCycles links limit).cycles.map
      fun cycle => cycle.labels.map Text.bytes).Pairwise (· < ·) ∧
      ∀ links' : List Link,
        (∀ source target, Arc links source target ↔ Arc links' source target) →
          (searchCycles links limit).cycles.map Cycle.labels =
            (searchCycles links' limit).cycles.map Cycle.labels := by
  constructor
  · have hlabels : ((searchCycles links limit).cycles.map Cycle.labels).Pairwise (· < ·) := by
      rw [map_labels_searchCycles]
      exact (labels_findCycles_pairwise links).sublist (upTo_sublist limit _)
    rw [List.pairwise_map] at hlabels ⊢
    exact hlabels.imp fun hlt => List.map_lt (fun _ _ => Text.bytes_lt) hlt
  · intro links' harcs
    rw [map_labels_searchCycles, map_labels_searchCycles, map_labels_findCycles_congr harcs]

/-- Two labels that import each other, once with a loop and a repeated link among the links. -/
theorem searchCycles_in_byte_order_mutual_links :
    let links : List Link := [⟨"b", "a", []⟩, ⟨"a", "a", []⟩, ⟨"a", "b", []⟩, ⟨"b", "a", []⟩]
    let links' : List Link := [⟨"a", "b", []⟩, ⟨"b", "a", []⟩]
    (∀ source target, Arc links source target ↔ Arc links' source target) ∧
      (searchCycles links (some 1)).cycles.map Cycle.labels =
        (searchCycles links' (some 1)).cycles.map Cycle.labels := by
  intro links links'
  have harcs : ∀ source target, Arc links source target ↔ Arc links' source target := by
    intro source target
    simp only [Arc, Link.ends, links, links', List.mem_cons, List.not_mem_nil, or_false,
      exists_eq_or_imp, exists_eq_left, Prod.mk.injEq]
    grind
  exact ⟨harcs, (searchCycles_in_byte_order links (some 1)).2 links' harcs⟩

end ImportRules
