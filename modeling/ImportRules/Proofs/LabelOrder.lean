import ImportRules.Node
import Mathlib.Data.List.Sort
import Mathlib.Data.String.Basic
/-!
# Sorting by a key and keeping one entry for every key

Labels and links are sorted and then freed of repetitions. Sorting is stable and the first entry
with a key is the one that stays, so the outcome holds exactly the entries that came first with
their key in the unsorted list, in strictly ascending order of the keys.
-/

namespace ImportRules

section Repetitions

variable {α κ : Type} [DecidableEq κ]

/-- Induction along the removal of repetitions, which passes from a list to what its first entry
leaves of the rest. -/
theorem eraseDupsBy_induction {motive : List α → Prop} (same : α → α → Bool) (nil : motive [])
    (cons : ∀ first rest, motive (rest.filter fun other => decide (same other first = false)) →
      motive (first :: rest)) (entries : List α) : motive entries := by
  induction hlength : entries.length using Nat.strongRecOn generalizing entries with
  | ind length ih =>
      cases entries with
      | nil => exact nil
      | cons first rest =>
          have hfilter :=
            List.length_filter_le (fun other => decide (same other first = false)) rest
          exact cons first rest (ih _ (by simp at hlength; omega) _ rfl)

/-- Entries that are left are in the order in which they stood. -/
theorem eraseDupsBy_sublist (same : α → α → Bool) (entries : List α) :
    (entries.eraseDupsBy same).Sublist entries := by
  induction entries using eraseDupsBy_induction same with
  | nil => simp
  | cons first rest ih =>
      rw [List.eraseDupsBy_cons]
      exact (ih.trans List.filter_sublist).cons_cons first

/-- No entry repeats one that stands before it. -/
theorem eraseDupsBy_pairwise (same : α → α → Bool) (entries : List α) :
    (entries.eraseDupsBy same).Pairwise fun earlier later => same later earlier = false := by
  induction entries using eraseDupsBy_induction same with
  | nil => simp
  | cons first rest ih =>
      rw [List.eraseDupsBy_cons]
      refine List.pairwise_cons.mpr ⟨?_, ih⟩
      intro later hlater
      have hkept := (eraseDupsBy_sublist same _).mem hlater
      exact of_decide_eq_true (List.mem_filter.mp hkept).2

/-- An entry stays exactly if it is the first one with its key. -/
theorem mem_eraseDupsBy_key (key : α → κ) (entry : α) (entries : List α) :
    entry ∈ entries.eraseDupsBy (fun a b => key a == key b) ↔
      entries.find? (fun other => key other == key entry) = some entry := by
  induction entries using eraseDupsBy_induction (fun a b => key a == key b) with
  | nil => simp
  | cons first rest ih =>
      rw [List.eraseDupsBy_cons, List.mem_cons, ih]
      by_cases hkey : key first = key entry
      · -- The first entry hides all others with its key.
        have hnone : (rest.filter fun other => decide ((key other == key first) = false)).find?
            (fun other => key other == key entry) = none := by
          simp [hkey]
        rw [hnone, List.find?_cons_of_pos (by simpa using hkey)]
        simp [eq_comm]
      · have hsame : (rest.filter fun other => decide ((key other == key first) = false)).find?
            (fun other => key other == key entry) =
              rest.find? fun other => key other == key entry := by
          rw [List.find?_filter]
          congr 1
          funext other
          by_cases hother : key other = key entry
          · simp [hother, Ne.symm hkey]
          · simp [hother]
        have hne : entry ≠ first := fun heq => hkey (heq ▸ rfl)
        rw [hsame, List.find?_cons_of_neg (by simpa using hkey)]
        simp [hne]

/-- Where what is kept of an entry tells it apart, repetitions can be removed before or after. -/
theorem filterMap_eraseDups {β : Type} [BEq α] [LawfulBEq α] [BEq β] [LawfulBEq β]
    {keep? : α → Option β}
    (hapart : ∀ entry other kept, keep? entry = some kept → keep? other = some kept →
      entry = other) (entries : List α) :
    entries.eraseDups.filterMap keep? = (entries.filterMap keep?).eraseDups := by
  induction entries using eraseDupsBy_induction (fun a b : α => a == b) with
  | nil => rfl
  | cons first rest ih =>
      have hrest : (rest.filter fun other => !other == first).eraseDups.filterMap keep? =
          ((rest.filter fun other => !other == first).filterMap keep?).eraseDups := by
        simpa only [Bool.decide_eq_false] using ih
      rw [List.eraseDups_cons]
      cases hfirst : keep? first with
      | none =>
          have hsame : (rest.filter fun other => !other == first).filterMap keep? =
              rest.filterMap keep? := by
            rw [List.filterMap_filter]
            congr 1
            funext other
            by_cases hother : other = first
            · simp [hother, hfirst]
            · simp [hother]
          rw [List.filterMap_cons_none hfirst, List.filterMap_cons_none hfirst, hrest, hsame]
      | some kept =>
          have hsame : (rest.filter fun other => !other == first).filterMap keep? =
              (rest.filterMap keep?).filter fun other => !other == kept := by
            rw [List.filterMap_filter, List.filter_filterMap]
            congr 1
            funext other
            by_cases hother : other = first
            · simp [hother, hfirst, Option.filter]
            · cases hkept : keep? other with
              | none => simp
              | some kept' =>
                  have hne : kept' ≠ kept := fun heq =>
                    hother (hapart other first kept (heq ▸ hkept) hfirst)
                  simp [hother, hne, Option.filter]
          rw [List.filterMap_cons_some hfirst, List.filterMap_cons_some hfirst,
            List.eraseDups_cons, hrest, hsame]

end Repetitions

section Sorting

variable {α κ : Type} [LinearOrder κ] (key : α → κ) (entries : List α)

theorem mergeSort_pairwise_key :
    (entries.mergeSort fun a b => decide (key a ≤ key b)).Pairwise fun a b => key a ≤ key b := by
  have hsorted := @List.pairwise_mergeSort α (fun a b => decide (key a ≤ key b))
    (by simpa using fun a b c => le_trans) (by simpa using fun a b => le_total _ _) entries
  simpa using hsorted

/-- Entries that have an order by different keys are sorted into it. -/
theorem mergeSort_eq_of_perm {sorted : List α} (hperm : entries.Perm sorted)
    (hsorted : sorted.Pairwise fun a b => key a < key b) :
    (entries.mergeSort fun a b => decide (key a ≤ key b)) = sorted := by
  have hmerged := (List.mergeSort_perm entries fun a b => decide (key a ≤ key b)).trans hperm
  refine List.Perm.eq_of_pairwise ?_ (mergeSort_pairwise_key key entries)
    (hsorted.imp fun hlt => hlt.le) hmerged
  intro a b ha hb hab hba
  have hkeys : (sorted.map key).Nodup :=
    List.pairwise_map.mpr (hsorted.imp fun hlt => hlt.ne)
  exact List.inj_on_of_nodup_map hkeys (hmerged.mem_iff.mp ha) hb (le_antisymm hab hba)

/-- An entry with a lesser key than all the others comes first. -/
theorem exists_mergeSort_eq_cons {first : α} {others : List α}
    (hperm : entries.Perm (first :: others)) (hfirst : ∀ other ∈ others, key first < key other) :
    ∃ later, later.Perm others ∧
      (entries.mergeSort fun a b => decide (key a ≤ key b)) = first :: later := by
  have hmerged := (List.mergeSort_perm entries fun a b => decide (key a ≤ key b)).trans hperm
  have hsorted := mergeSort_pairwise_key key entries
  cases hsort : entries.mergeSort fun a b => decide (key a ≤ key b) with
  | nil =>
      rw [hsort] at hmerged
      exact absurd hmerged.symm.eq_nil (List.cons_ne_nil first others)
  | cons head later =>
      rw [hsort] at hmerged hsorted
      have hhead : head = first := by
        rcases List.mem_cons.mp (hmerged.mem_iff.mp List.mem_cons_self) with hhead | hhead
        · exact hhead
        · rcases List.mem_cons.mp (hmerged.mem_iff.mpr List.mem_cons_self) with hmem | hmem
          · exact hmem.symm
          · exact absurd (hfirst head hhead) (not_lt.mpr (List.rel_of_pairwise_cons hsorted hmem))
      subst hhead
      exact ⟨later, hmerged.cons_inv, rfl⟩

/-- Sorting keeps the entries with one key in the order in which they stood. -/
theorem filter_mergeSort_key (wanted : κ) :
    (entries.mergeSort fun a b => decide (key a ≤ key b)).filter
        (fun entry => key entry == wanted) =
      entries.filter fun entry => key entry == wanted := by
  have hequal : (entries.filter fun entry => key entry == wanted).Pairwise
      fun a b => decide (key a ≤ key b) = true := by
    refine List.pairwise_of_forall_mem_list ?_
    intro a ha b hb
    have hakey : key a = wanted := by simpa using (List.mem_filter.mp ha).2
    have hbkey : key b = wanted := by simpa using (List.mem_filter.mp hb).2
    simp [hakey, hbkey]
  have hstable := @List.sublist_mergeSort α (fun a b => decide (key a ≤ key b)) entries
    (by simpa using fun a b c => le_trans) (by simpa using fun a b => le_total _ _)
    _ hequal List.filter_sublist
  have hsublist := hstable.filter fun entry => key entry == wanted
  rw [List.filter_filter] at hsublist
  simp only [Bool.and_self] at hsublist
  have hlength := ((List.mergeSort_perm entries fun a b => decide (key a ≤ key b)).filter
    fun entry => key entry == wanted).length_eq
  exact (hsublist.eq_of_length hlength.symm).symm

/-- Sorting does not change which entry comes first with a key. -/
theorem find?_mergeSort_key (wanted : κ) :
    (entries.mergeSort fun a b => decide (key a ≤ key b)).find? (fun entry => key entry == wanted) =
      entries.find? fun entry => key entry == wanted := by
  rw [← List.head?_filter, ← List.head?_filter, filter_mergeSort_key]

end Sorting

/-! ## Labels -/

@[simp]
theorem mem_sortedLabels {labels : List String} {label : String} :
    label ∈ sortedLabels labels ↔ label ∈ labels := by
  simp [sortedLabels]

/-- Sorted labels strictly ascend. -/
theorem sortedLabels_pairwise (labels : List String) : (sortedLabels labels).Pairwise (· < ·) := by
  have hle : (sortedLabels labels).Pairwise (· ≤ ·) :=
    (mergeSort_pairwise_key id labels).sublist (eraseDupsBy_sublist _ _)
  have hne := eraseDupsBy_pairwise (· == ·) (labels.mergeSort fun a b => decide (a ≤ b))
  refine (hle.and hne).imp ?_
  rintro a b ⟨hab, hba⟩
  exact lt_of_le_of_ne hab fun heq => by simp [heq] at hba

/-- Only which labels there are matters for the sorted labels. -/
theorem sortedLabels_congr {labels labels' : List String}
    (hsame : ∀ label, label ∈ labels ↔ label ∈ labels') :
    sortedLabels labels = sortedLabels labels' := by
  apply (sortedLabels_pairwise labels).eq_of_mem_iff (sortedLabels_pairwise labels')
  intro label
  rw [mem_sortedLabels, mem_sortedLabels, hsame]

end ImportRules
