import ImportRules.Ascending
import Mathlib.Order.Lattice
/-!
# Changes that keep a list ascending

Changing the element of a key leaves the keys as they were, but for the key itself, which is there
afterwards. A list that ascended by its keys still does.
-/

namespace ImportRules

variable {α κ ρ : Type} [DecidableEq κ] {before : κ → κ → Bool} {key : α → κ} {place other : κ}
  {fresh : α} {change : α → α} {list : List α}

section Alter

variable (hfresh : key fresh = place) (hchange : ∀ a, key a = place → key (change a) = place)
include hfresh hchange

theorem mem_map_alterAscending :
    other ∈ (alterAscending before key place fresh change list).map key ↔
      other = place ∨ other ∈ list.map key := by
  fun_induction alterAscending before key place fresh change list with
  | case1 => simp [hfresh]
  | case2 a rest hplace => simp [hchange a hplace.symm, ← hplace]
  | case3 a rest hne hbefore => simp [hfresh]
  | case4 a rest hne hbefore ih =>
      rw [List.map_cons, List.mem_cons, ih, List.map_cons, List.mem_cons, or_left_comm]

variable [LinearOrder ρ] {rank : κ → ρ}

/-- The keys are ordered by a rank, which tells them apart. -/
theorem pairwise_alterAscending (hrank : rank.Injective)
    (hbefore : ∀ a b, before a b = true ↔ rank a < rank b)
    (hlist : (list.map key).Pairwise fun a b => rank a < rank b) :
    ((alterAscending before key place fresh change list).map key).Pairwise
      fun a b => rank a < rank b := by
  fun_induction alterAscending before key place fresh change list with
  | case1 => exact List.pairwise_singleton _ _
  | case2 a rest hplace =>
      rw [List.map_cons, hchange a hplace.symm, hplace]
      exact hlist
  | case3 a rest hne hplace =>
      have hplace : rank place < rank (key a) := (hbefore _ _).mp hplace
      rw [List.map_cons, hfresh]
      refine List.pairwise_cons.mpr ⟨List.forall_mem_cons.mpr ⟨hplace, ?_⟩, hlist⟩
      exact fun later hlater => hplace.trans ((List.pairwise_cons.mp hlist).1 later hlater)
  | case4 a rest hne hplace ih =>
      obtain ⟨ha, hrest⟩ := List.pairwise_cons.mp hlist
      have hplace : rank (key a) < rank place :=
        lt_of_le_of_ne (not_lt.mp (mt (hbefore _ _).mpr hplace)) fun heq => hne (hrank heq.symm)
      refine List.pairwise_cons.mpr ⟨?_, ih hrest⟩
      intro later hlater
      rcases (mem_map_alterAscending hfresh hchange).mp hlater with rfl | hlater
      · exact hplace
      · exact ha later hlater

end Alter

theorem mem_insertAscending {list : List κ} :
    other ∈ insertAscending before place list ↔ other = place ∨ other ∈ list := by
  have hmem := @mem_map_alterAscending κ κ _ before id place other place id list rfl fun _ => id
  rwa [List.map_id, List.map_id] at hmem

theorem pairwise_insertAscending [LinearOrder ρ] {rank : κ → ρ} (hrank : rank.Injective)
    (hbefore : ∀ a b, before a b = true ↔ rank a < rank b) {list : List κ}
    (hlist : list.Pairwise fun a b => rank a < rank b) (place : κ) :
    (insertAscending before place list).Pairwise fun a b => rank a < rank b := by
  rw [← List.map_id list] at hlist
  have hpairwise := @pairwise_alterAscending κ κ ρ _ before id place place id list rfl
    (fun _ => id) _ rank hrank hbefore hlist
  rwa [List.map_id] at hpairwise

end ImportRules
