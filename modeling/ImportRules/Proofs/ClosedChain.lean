import Mathlib.Data.List.Chain
import Mathlib.Data.List.Duplicate
import Mathlib.Data.List.MinMax
import Mathlib.Data.List.Rotate
/-!
# Closed chains

A closed chain is a list in which every entry is related to the next one and the last one to the
first. Where a closed chain begins does not matter, and every closed chain contains one without
repetitions.
-/

namespace ImportRules

variable {α β : Type}

/-- Every entry is related to the next one, and the last one to the first. -/
def ClosedChain (related : α → α → Prop) : List α → Prop
  | [] => True
  | first :: rest => (first :: rest ++ [first]).IsChain related

/-- The first entry is strictly the least one. -/
def LeastFirst [LT α] : List α → Prop
  | [] => False
  | first :: rest => ∀ other ∈ rest, first < other

namespace ClosedChain

variable {related : α → α → Prop} {chain : List α}

theorem rotate_one {first : α} {rest : List α} (hclosed : ClosedChain related (first :: rest)) :
    ClosedChain related (rest ++ [first]) := by
  cases rest with
  | nil => exact hclosed
  | cons second rest =>
      obtain ⟨hfirst, hrest⟩ := List.isChain_cons_cons.mp hclosed
      change (second :: (rest ++ [first]) ++ [second]).IsChain related
      rw [← List.cons_append, List.append_assoc, List.singleton_append, List.isChain_split]
      exact ⟨hrest, List.isChain_cons_cons.mpr ⟨hfirst, List.isChain_singleton _⟩⟩

/-- A closed chain may begin anywhere. -/
theorem of_isRotated {other : List α} (hclosed : ClosedChain related chain)
    (hrotated : chain.IsRotated other) : ClosedChain related other := by
  obtain ⟨steps, rfl⟩ := hrotated
  induction steps generalizing chain with
  | zero => simpa using hclosed
  | succ steps ih =>
      cases chain with
      | nil => simpa using hclosed
      | cons first rest =>
          rw [List.rotate_cons_succ]
          exact ih hclosed.rotate_one

/-- Every entry of a closed chain is related to some entry. -/
theorem exists_related (hclosed : ClosedChain related chain) {entry : α} (hentry : entry ∈ chain) :
    ∃ next, related entry next := by
  obtain ⟨before, after, rfl⟩ := List.append_of_mem hentry
  have hrotated : ClosedChain related (entry :: after ++ before) :=
    hclosed.of_isRotated List.isRotated_append
  change (entry :: (after ++ before ++ [entry])).IsChain related at hrotated
  cases hrest : after ++ before ++ [entry] with
  | nil => simp at hrest
  | cons next rest =>
      rw [hrest] at hrotated
      exact ⟨next, (List.isChain_cons_cons.mp hrotated).1⟩

/-- A map that respects the relations along a chain takes closed chains to closed chains. -/
theorem map {related' : β → β → Prop} {f : α → β}
    (hrespects : ∀ a ∈ chain, ∀ b ∈ chain, related a b → related' (f a) (f b))
    (hclosed : ClosedChain related chain) : ClosedChain related' (chain.map f) := by
  cases chain with
  | nil => trivial
  | cons first rest =>
      have hmem : ∀ a ∈ first :: rest ++ [first], a ∈ first :: rest := by
        intro a ha
        rcases List.mem_append.mp ha with ha | ha
        · exact ha
        · exact List.mem_singleton.mp ha ▸ List.mem_cons_self
      have hmap : ((first :: rest ++ [first]).map f).IsChain related' :=
        (List.isChain_map f).mpr <| List.IsChain.imp_of_mem_imp
          (fun a b ha hb => hrespects a (hmem a ha) b (hmem b hb)) hclosed
      rwa [List.map_append] at hmap

/-- Between two occurrences of an entry a closed chain closes already. -/
theorem between {before inner after : List α} {entry : α}
    (hclosed : ClosedChain related (before ++ (entry :: inner ++ entry :: after))) :
    ClosedChain related (entry :: inner) := by
  have hrotated : ClosedChain related (entry :: inner ++ entry :: after ++ before) :=
    hclosed.of_isRotated List.isRotated_append
  change (entry :: inner ++ entry :: after ++ before ++ [entry]).IsChain related at hrotated
  rw [List.append_assoc, List.append_assoc] at hrotated
  exact (List.isChain_split.mp hrotated).1

/-- A closed chain that is not empty contains one without repetitions. -/
theorem exists_nodup (hclosed : ClosedChain related chain) (hne : chain ≠ []) :
    ∃ shorter, ClosedChain related shorter ∧ shorter ≠ [] ∧ shorter.Nodup := by
  induction hlength : chain.length using Nat.strongRecOn generalizing chain with
  | ind length ih =>
      by_cases hnodup : chain.Nodup
      · exact ⟨chain, hclosed, hne, hnodup⟩
      · obtain ⟨entry, hentry⟩ := List.exists_duplicate_iff_not_nodup.mpr hnodup
        obtain ⟨front, back, rfl, hfront, hback⟩ :=
          List.cons_sublist_iff.mp (List.duplicate_iff_sublist.mp hentry)
        -- The part between the two occurrences is closed and shorter.
        obtain ⟨before, inner, rfl⟩ := List.append_of_mem hfront
        obtain ⟨inner', after, rfl⟩ := List.append_of_mem (List.singleton_sublist.mp hback)
        have hinner : ClosedChain related (entry :: (inner ++ inner')) := by
          apply ClosedChain.between
          simpa using hclosed
        refine ih _ ?_ hinner (List.cons_ne_nil _ _) rfl
        simp only [List.length_append, List.length_cons] at hlength ⊢
        omega

end ClosedChain

/-- Distinct entries can be rotated so that the least one comes first. -/
theorem exists_leastFirst [LinearOrder α] {entries : List α} (hne : entries ≠ [])
    (hnodup : entries.Nodup) : ∃ rotated, rotated.IsRotated entries ∧ LeastFirst rotated := by
  obtain ⟨before, after, hsplit⟩ := List.append_of_mem (List.min_mem hne)
  have hrotated : (entries.min hne :: after ++ before).IsRotated entries := by
    conv_rhs => rw [hsplit]
    exact List.isRotated_append
  refine ⟨_, hrotated, ?_⟩
  intro other hother
  have hmem : other ∈ entries := hrotated.perm.mem_iff.mp (List.mem_cons_of_mem _ hother)
  refine lt_of_le_of_ne (List.min_le_of_mem hmem) ?_
  rintro rfl
  exact (List.nodup_cons.mp (hrotated.nodup_iff.mpr hnodup)).1 hother

end ImportRules
