import ImportRules.Projection.Suffix
import ImportRules.Proofs.LabelOrder
import ImportRules.Proofs.PathSegments
import Mathlib.Data.Prod.Lex
/-!
# The longest suffix decides

A suffix table sorts its entries and takes the first that fits. All suffixes that fit a unit end the
same name, so two of them that are equally long are equal, and the sorted entries that fit stand in
the order of their lengths. As sorting is stable, of several entries with one suffix the earliest is
taken; where every suffix stands once, the order of the entries does not matter.
-/

namespace ImportRules

/-- The suffix ends the file name of the unit. -/
def SuffixEntry.Fits (entry : SuffixEntry) (unit : String) : Prop :=
  ∃ name, UnitPath.IsFileName unit name ∧ entry.suffix.toList <:+ name.toList

namespace SuffixTable

variable {entries others : List SuffixEntry} {entry other : SuffixEntry} {unit : String}

/-- The entry that decides on a unit: its suffix is the longest that fits, and it is the earliest
with that suffix. -/
structure Decides (entries : List SuffixEntry) (unit : String) (entry : SuffixEntry) : Prop where
  fits : entry.Fits unit
  longest : ∀ other ∈ entries, other.Fits unit →
    other.suffix.utf8ByteSize ≤ entry.suffix.utf8ByteSize
  earliest : ∃ before behind, entries = before ++ entry :: behind ∧
    ∀ other ∈ before, other.suffix ≠ entry.suffix

/-! ## Suffixes of one name -/

theorem fits_iff :
    entry.Fits unit ↔ entry.suffix.toList <:+ (UnitPath.fileName unit).toList := by
  simp [SuffixEntry.Fits, UnitPath.isFileName_iff]

theorem eq_of_isSuffix {short long : String} (hends : short.toList <:+ long.toList)
    (hsize : short.utf8ByteSize = long.utf8ByteSize) : short = long := by
  obtain ⟨front, hfront⟩ := hends
  have hlong : String.ofList front ++ short = long := by
    rw [← String.toList_inj]
    simpa using hfront
  have hnone : (String.ofList front).utf8ByteSize = 0 := by
    rw [← hlong, String.utf8ByteSize_append] at hsize
    omega
  rw [← hlong, String.utf8ByteSize_eq_zero_iff.mp hnone, String.empty_append]

/-- Of the suffixes that fit, no two are equally long. -/
theorem suffix_eq_of_fits (hentry : entry.Fits unit) (hother : other.Fits unit)
    (hsize : entry.suffix.utf8ByteSize = other.suffix.utf8ByteSize) :
    entry.suffix = other.suffix := by
  rcases List.suffix_or_suffix_of_suffix (fits_iff.mp hentry) (fits_iff.mp hother) with
    hends | hends
  · exact eq_of_isSuffix hends hsize
  · exact (eq_of_isSuffix hends hsize.symm).symm

/-! ## Sorted entries -/

/-- What entries are sorted by: longer suffixes come first. -/
def sortKey (entry : SuffixEntry) : ℕᵒᵈ ×ₗ String :=
  toLex (OrderDual.toDual entry.suffix.utf8ByteSize, entry.suffix)

theorem noLater_eq (entry other : SuffixEntry) :
    noLater entry other = decide (sortKey entry ≤ sortKey other) := by
  simp [noLater, sortKey, Prod.Lex.le_iff, beq_eq_decide]

theorem entries_ofEntries (entries : List SuffixEntry) :
    (ofEntries entries).entries =
      entries.mergeSort fun a b => decide (sortKey a ≤ sortKey b) := by
  simp only [ofEntries, ← noLater_eq]

theorem sortKey_inj : sortKey entry = sortKey other ↔ entry.suffix = other.suffix := by
  constructor
  · intro hkey
    exact congrArg (fun key => (ofLex key).2) hkey
  · intro hsuffix
    rw [sortKey, sortKey, hsuffix]

theorem size_le_of_sortKey_le (hkey : sortKey entry ≤ sortKey other) :
    other.suffix.utf8ByteSize ≤ entry.suffix.utf8ByteSize := by
  rcases Prod.Lex.le_iff.mp hkey with hlt | ⟨heq, -⟩
  · exact (OrderDual.toDual_lt_toDual.mp hlt).le
  · exact (OrderDual.toDual_inj.mp heq).ge

/-- Sorting does not change which entry is the first with a suffix. -/
theorem find?_entries_ofEntries (entries : List SuffixEntry) (suffix : String) :
    (ofEntries entries).entries.find? (·.suffix == suffix) =
      entries.find? (·.suffix == suffix) := by
  have hstable := find?_mergeSort_key sortKey entries (sortKey ⟨suffix, ""⟩)
  simp only [beq_eq_decide, sortKey_inj] at hstable
  simpa only [beq_eq_decide, entries_ofEntries] using hstable

/-! ## The entry that decides -/

/-- The entry that a table takes for a unit. -/
def taken? (table : SuffixTable) (unit : String) : Option SuffixEntry :=
  table.entries.find? fun entry => entry.suffix.toList.isSuffixOf (UnitPath.fileName unit).toList

theorem taken?_eq_none_iff :
    (ofEntries entries).taken? unit = none ↔ ∀ entry ∈ entries, ¬entry.Fits unit := by
  simp [taken?, entries_ofEntries, fits_iff]

theorem earliest_iff :
    (∃ before behind, entries = before ++ entry :: behind ∧
        ∀ other ∈ before, other.suffix ≠ entry.suffix) ↔
      entries.find? (·.suffix == entry.suffix) = some entry := by
  simp [List.find?_eq_some_iff_append]

theorem decides_of_taken? (htaken : (ofEntries entries).taken? unit = some entry) :
    Decides entries unit entry := by
  rw [taken?, List.find?_eq_some_iff_append] at htaken
  obtain ⟨hfits, before, behind, hsorted, hbefore⟩ := htaken
  have hfits : entry.Fits unit := fits_iff.mpr (List.isSuffixOf_iff_suffix.mp hfits)
  have hskipped : ∀ other ∈ before, ¬other.Fits unit := by
    intro other hother hfits'
    have hnot := hbefore other hother
    rw [List.isSuffixOf_iff_suffix.mpr (fits_iff.mp hfits')] at hnot
    cases hnot
  have hordered := mergeSort_pairwise_key sortKey entries
  rw [← entries_ofEntries, hsorted] at hordered
  refine ⟨hfits, ?_, earliest_iff.mpr ?_⟩
  · intro other hother hfits'
    have hmem : other ∈ before ++ entry :: behind := by
      rw [← hsorted, entries_ofEntries]
      exact List.mem_mergeSort.mpr hother
    rcases List.mem_append.mp hmem with hearlier | hlater
    · exact absurd hfits' (hskipped other hearlier)
    · rcases List.mem_cons.mp hlater with rfl | hlater
      · exact le_rfl
      · exact size_le_of_sortKey_le
          (List.rel_of_pairwise_cons (List.pairwise_append.mp hordered).2.1 hlater)
  · -- What stands before it in the sorted entries has another suffix, as it does not fit.
    rw [← find?_entries_ofEntries, hsorted, ← earliest_iff]
    refine ⟨before, behind, rfl, ?_⟩
    intro other hother hsuffix
    apply hskipped other hother
    rw [fits_iff, hsuffix, ← fits_iff]
    exact hfits

theorem Decides.mem (hdecides : Decides entries unit entry) : entry ∈ entries := by
  obtain ⟨before, behind, rfl, -⟩ := hdecides.earliest
  simp

theorem Decides.unique (hentry : Decides entries unit entry) (hother : Decides entries unit other) :
    entry = other := by
  have hsize := le_antisymm (hother.longest entry hentry.mem hentry.fits)
    (hentry.longest other hother.mem hother.fits)
  have hsuffix : entry.suffix = other.suffix := suffix_eq_of_fits hentry.fits hother.fits hsize
  have hfirst := earliest_iff.mp hentry.earliest
  rw [hsuffix, earliest_iff.mp hother.earliest] at hfirst
  exact (Option.some.inj hfirst).symm

/-- A table takes the entry that decides. -/
theorem taken?_eq_some_iff :
    (ofEntries entries).taken? unit = some entry ↔ Decides entries unit entry := by
  refine ⟨decides_of_taken?, fun hdecides => ?_⟩
  cases htaken : (ofEntries entries).taken? unit with
  | none => exact absurd hdecides.fits (taken?_eq_none_iff.mp htaken entry hdecides.mem)
  | some other => rw [hdecides.unique (decides_of_taken? htaken)]

/-- Where every suffix stands once, an entry decides whatever the order. -/
theorem Decides.perm (hperm : entries.Perm others) (hdistinct : (entries.map (·.suffix)).Nodup)
    (hdecides : Decides entries unit entry) : Decides others unit entry where
  fits := hdecides.fits
  longest other hother := hdecides.longest other (hperm.mem_iff.mpr hother)
  earliest := by
    obtain ⟨before, behind, rfl⟩ := List.append_of_mem (hperm.mem_iff.mp hdecides.mem)
    refine ⟨before, behind, rfl, ?_⟩
    intro other hother hsuffix
    have hnodup := (hperm.map (·.suffix)).nodup_iff.mp hdistinct
    rw [List.map_append, List.map_cons, List.nodup_append] at hnodup
    exact hnodup.2.2 _ (List.mem_map_of_mem hother) _ List.mem_cons_self hsuffix

theorem taken?_perm (hperm : entries.Perm others) (hdistinct : (entries.map (·.suffix)).Nodup) :
    (ofEntries others).taken? unit = (ofEntries entries).taken? unit := by
  cases htaken : (ofEntries entries).taken? unit with
  | none =>
      rw [taken?_eq_none_iff] at htaken ⊢
      intro entry hentry
      exact htaken entry (hperm.mem_iff.mpr hentry)
  | some entry => exact taken?_eq_some_iff.mpr ((decides_of_taken? htaken).perm hperm hdistinct)

/-- A unit has no group exactly if no suffix ends its file name, and else the group of the entry
with the longest suffix that does, the earliest with that suffix. So entries with different suffixes
may be given in any order. -/
theorem group?_ofEntries (entries : List SuffixEntry) (unit : String) :
    ((ofEntries entries).group? unit = none ↔ ∀ entry ∈ entries, ¬entry.Fits unit) ∧
      (∀ group, (ofEntries entries).group? unit = some group ↔
        ∃ entry, Decides entries unit entry ∧ entry.group = group) ∧
      ∀ others, entries.Perm others → (entries.map (·.suffix)).Nodup →
        (ofEntries others).group? unit = (ofEntries entries).group? unit := by
  have hgroup : ∀ entries,
      (ofEntries entries).group? unit = ((ofEntries entries).taken? unit).map (·.group) :=
    fun _ => rfl
  simp only [hgroup]
  refine ⟨?_, ?_, ?_⟩
  · rw [Option.map_eq_none_iff, taken?_eq_none_iff]
  · intro group
    simp only [Option.map_eq_some_iff, taken?_eq_some_iff]
  · intro others hperm hdistinct
    rw [taken?_perm hperm hdistinct]

/-- The longer of two suffixes decides, whether it is given first or last. -/
theorem group?_ofEntries_reordered :
    let entries : List SuffixEntry := [⟨".ts", "source"⟩, ⟨".spec.ts", "test"⟩]
    let others : List SuffixEntry := [⟨".spec.ts", "test"⟩, ⟨".ts", "source"⟩]
    entries.Perm others ∧ (entries.map (·.suffix)).Nodup ∧
      (ofEntries entries).group? "src/cart.spec.ts" = some "test" ∧
      (ofEntries others).group? "src/cart.spec.ts" =
        (ofEntries entries).group? "src/cart.spec.ts" := by
  intro entries others
  have hperm : entries.Perm others := by decide
  have hdistinct : (entries.map (·.suffix)).Nodup := by decide
  have hdecides : Decides entries "src/cart.spec.ts" ⟨".spec.ts", "test"⟩ := by
    refine ⟨fits_iff.mpr (by decide), ?_, [⟨".ts", "source"⟩], [], rfl, ?_⟩
    · exact List.forall_mem_cons.mpr
        ⟨fun _ => by decide, List.forall_mem_singleton.mpr fun _ => Nat.le_refl _⟩
    · exact List.forall_mem_singleton.mpr (by decide)
  obtain ⟨-, hgroup, hreordered⟩ := group?_ofEntries entries "src/cart.spec.ts"
  exact ⟨hperm, hdistinct, (hgroup "test").mpr ⟨_, hdecides, rfl⟩,
    hreordered others hperm hdistinct⟩

end SuffixTable

end ImportRules
