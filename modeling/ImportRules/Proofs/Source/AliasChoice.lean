import ImportRules.Proofs.Ascending
import ImportRules.Proofs.LabelOrder
import ImportRules.Proofs.Text.Lines
import ImportRules.Source.Aliases
import Mathlib.Data.List.TakeWhile
/-!
# Which alias stands for a specifier

An alias without a star stands for the specifier that it is. Where there is none of them, the
aliases with a star are compared by the text before their star: the longest one wins and, among
aliases with as much text there, the one that comes first in the order of texts. All of this comes
from one order in which the aliases are tried: by their size up to the star, and else as they were.
-/

namespace ImportRules.Source

variable {text specifier pattern : String} {captured front behind : List Char} {entry other : Alias}
  {aliases : List Alias}

/-! ## Aliases are ordered by their patterns -/

namespace Settings

/-- No two aliases have the same pattern, and they stand in the order of their patterns. -/
def Ascend (aliases : List Alias) : Prop :=
  (aliases.map Alias.pattern).Pairwise (· < ·)

theorem Ascend.insertAlias (haliases : Ascend aliases) (entry : Alias) :
    Ascend (insertAlias entry aliases) :=
  pairwise_alterAscending rfl (fun _ _ => rfl) Function.injective_id (by simp) haliases

theorem aliases?_ascend {value : Json} (hread : aliases? value = some aliases) :
    Ascend aliases := by
  cases value with
  | object members =>
      obtain ⟨read, -, haliases⟩ := Option.bind_eq_some_iff.mp hread
      obtain rfl := Option.some.inj haliases
      exact List.foldlRecOn read _ (motive := Ascend) .nil
        fun _ haliases entry _ => haliases.insertAlias entry
  | _ => cases hread

theorem ofOptions?_ascend {value : Json} {settings : Settings}
    (hread : ofOptions? value = some settings) : Ascend settings.aliases := by
  unfold ofOptions? at hread
  split at hread
  next written paths _ =>
    obtain ⟨base, -, hread⟩ := Option.bind_eq_some_iff.mp hread
    obtain ⟨aliases, haliases, hread⟩ := Option.bind_eq_some_iff.mp hread
    cases hread
    cases paths with
    | none =>
        cases haliases
        exact .nil
    | some value => exact aliases?_ascend haliases
  next => cases hread

theorem aliases_ascend {settings : Settings} (hread : ofText? text = some settings) :
    Ascend settings.aliases := by
  obtain ⟨value, -, hread⟩ := Option.bind_eq_some_iff.mp hread
  unfold ofJson? at hread
  split at hread
  next options _ =>
    cases options with
    | none =>
        cases hread
        exact .nil
    | some value => exact ofOptions?_ascend hread
  next => cases hread

end Settings

/-! ## Fitting specifiers -/

namespace Alias

/-- The alias is the specifier itself. -/
def IsExact (entry : Alias) (specifier : String) : Prop :=
  '*' ∉ entry.pattern.toList ∧ entry.pattern = specifier

/-- The alias fits the specifier around its first star, which stands for the captured text. -/
structure Fits (entry : Alias) (specifier : String) (front captured behind : List Char) : Prop where
  pattern_eq : entry.pattern.toList = front ++ '*' :: behind
  first_star : '*' ∉ front
  specifier_eq : specifier.toList = front ++ captured ++ behind

theorem bne_star (hstar : '*' ∉ front) : ∀ c ∈ front, (c != '*') = true :=
  fun _ hc => bne_iff_ne.mpr fun heq => hstar (heq ▸ hc)

theorem takeWhile_star (hstar : '*' ∉ front) (behind : List Char) :
    (front ++ '*' :: behind).takeWhile (· != '*') = front := by
  rw [List.takeWhile_append_of_pos (bne_star hstar)]
  simp

theorem dropWhile_star (hstar : '*' ∉ front) (behind : List Char) :
    (front ++ '*' :: behind).dropWhile (· != '*') = '*' :: behind := by
  rw [List.dropWhile_append_of_pos (bne_star hstar)]
  simp

theorem lead_of_star (hpattern : pattern.toList = front ++ '*' :: behind) (hstar : '*' ∉ front) :
    lead pattern = Text.byteLength front := by
  rw [lead, hpattern, takeWhile_star hstar]

theorem lead_of_no_star (hstar : '*' ∉ pattern.toList) :
    lead pattern = Text.byteLength pattern.toList := by
  rw [lead, List.takeWhile_eq_self_iff.mpr (bne_star hstar)]

theorem capture?_of_star (hpattern : pattern.toList = front ++ '*' :: behind)
    (hstar : '*' ∉ front) :
    capture? pattern specifier = some captured ↔
      specifier.toList = front ++ captured ++ behind := by
  rw [capture?, hpattern, dropWhile_star hstar, takeWhile_star hstar]
  simp only [Option.bind_eq_some_iff, List.isPrefixOf?_eq_some_iff_append_eq,
    List.isSuffixOf?_eq_some_iff_append_eq, exists_eq_right', List.append_assoc]
  exact eq_comm

theorem capture?_of_no_star (hstar : '*' ∉ pattern.toList) :
    capture? pattern specifier = some captured ↔ pattern = specifier ∧ captured = [] := by
  rw [capture?, List.dropWhile_eq_nil_iff.mpr (bne_star hstar)]
  simp [eq_comm]

/-- What an alias captures. -/
theorem capture?_eq_some_iff :
    capture? entry.pattern specifier = some captured ↔
      entry.IsExact specifier ∧ captured = [] ∨
        ∃ front behind, entry.Fits specifier front captured behind := by
  by_cases hstar : '*' ∈ entry.pattern.toList
  · obtain ⟨front, behind, hpattern, hfront⟩ := List.eq_append_cons_of_mem hstar
    rw [capture?_of_star hpattern hfront]
    constructor
    · exact fun hspecifier => .inr ⟨front, behind, hpattern, hfront, hspecifier⟩
    · rintro (⟨hexact, -⟩ | ⟨front', behind', hfits⟩)
      · exact absurd hstar hexact.1
      · rw [← capture?_of_star hpattern hfront]
        exact (capture?_of_star hfits.pattern_eq hfits.first_star).mpr hfits.specifier_eq
  · rw [capture?_of_no_star hstar]
    constructor
    · exact fun ⟨hsame, hnone⟩ => .inl ⟨⟨hstar, hsame⟩, hnone⟩
    · rintro (⟨hexact, hnone⟩ | ⟨front, behind, hfits⟩)
      · exact ⟨hexact.2, hnone⟩
      · exact absurd (hfits.pattern_eq ▸ by simp) hstar

theorem IsExact.capture? (hexact : entry.IsExact specifier) :
    Alias.capture? entry.pattern specifier = some [] :=
  capture?_eq_some_iff.mpr (.inl ⟨hexact, rfl⟩)

theorem Fits.capture? (hfits : entry.Fits specifier front captured behind) :
    Alias.capture? entry.pattern specifier = some captured :=
  capture?_eq_some_iff.mpr (.inr ⟨front, behind, hfits⟩)

end Alias

/-! ## The chosen alias -/

/-- The alias that a specifier stands for, with the text that its star captures, or none. An exact
alias goes first. Of the others, more text before the star goes before less, and the order of
patterns decides between aliases with as much text there. -/
inductive Chosen (aliases : List Alias) (specifier : String) : Option (Alias × List Char) → Prop
  | exact {entry : Alias} (hmem : entry ∈ aliases) (hexact : entry.IsExact specifier) :
      Chosen aliases specifier (some (entry, []))
  | wildcard {entry : Alias} {front captured behind : List Char} (hmem : entry ∈ aliases)
      (hfits : entry.Fits specifier front captured behind)
      (hexact : ∀ other ∈ aliases, ¬other.IsExact specifier)
      (hbest : ∀ other ∈ aliases, ∀ front' captured' behind',
        other.Fits specifier front' captured' behind' →
          Text.byteLength front' < Text.byteLength front ∨
            Text.byteLength front' = Text.byteLength front ∧ entry.pattern ≤ other.pattern) :
      Chosen aliases specifier (some (entry, captured))
  | none (hexact : ∀ other ∈ aliases, ¬other.IsExact specifier)
      (hfits : ∀ other ∈ aliases, ∀ front captured behind,
        ¬other.Fits specifier front captured behind) :
      Chosen aliases specifier none

/-- The order in which aliases are tried: by the size of their text up to the star, then by their
patterns. -/
def Alias.Precedes (a b : Alias) : Prop :=
  lead b.pattern < lead a.pattern ∨ lead b.pattern = lead a.pattern ∧ a.pattern < b.pattern

theorem Settings.table_pairwise {settings : Settings} (hread : ofText? text = some settings) :
    settings.table.aliases.Pairwise Alias.Precedes := by
  let key (entry : Alias) : ℕᵒᵈ := OrderDual.toDual (Alias.lead entry.pattern)
  have htable : settings.table.aliases =
      settings.aliases.mergeSort fun a b => decide (key a ≤ key b) := rfl
  have hleads := mergeSort_pairwise_key key settings.aliases
  rw [htable, List.pairwise_iff_forall_sublist]
  intro a b hsublist
  have hle : Alias.lead b.pattern ≤ Alias.lead a.pattern :=
    List.pairwise_iff_forall_sublist.mp hleads hsublist
  rcases hle.lt_or_eq with hlt | heq
  · exact .inl hlt
  · -- Sorting leaves aliases with the same lead in the order in which they were written.
    have hsame := hsublist.filter fun entry => key entry == key a
    rw [filter_mergeSort_key] at hsame
    have hpair : [a, b].filter (fun entry => key entry == key a) = [a, b] := by
      simp [key, heq]
    rw [hpair] at hsame
    have hwritten : [a, b].Sublist settings.aliases := hsame.trans List.filter_sublist
    have hpatterns := List.pairwise_map.mp (aliases_ascend hread)
    exact .inr ⟨heq, List.pairwise_iff_forall_sublist.mp hpatterns hwritten⟩

namespace Chosen

theorem congr {aliases' : List Alias} {choice : Option (Alias × List Char)}
    (hsame : ∀ entry, entry ∈ aliases ↔ entry ∈ aliases')
    (hchosen : Chosen aliases specifier choice) : Chosen aliases' specifier choice := by
  cases hchosen with
  | exact hmem hexact => exact .exact ((hsame _).mp hmem) hexact
  | wildcard hmem hfits hexact hbest =>
      exact .wildcard ((hsame _).mp hmem) hfits
        (fun other hother => hexact other ((hsame _).mpr hother))
        fun other hother => hbest other ((hsame _).mpr hother)
  | none hexact hfits =>
      exact .none (fun other hother => hexact other ((hsame _).mpr hother))
        fun other hother => hfits other ((hsame _).mpr hother)

/-- Where no two aliases have the same pattern, only one of them can be chosen. -/
theorem unique {choice choice' : Option (Alias × List Char)}
    (hpatterns : ∀ entry ∈ aliases, ∀ other ∈ aliases,
      entry.pattern = other.pattern → entry = other)
    (hchosen : Chosen aliases specifier choice) (hchosen' : Chosen aliases specifier choice') :
    choice = choice' := by
  cases hchosen with
  | exact hmem hexact =>
      cases hchosen' with
      | exact hmem' hexact' =>
          rw [hpatterns _ hmem _ hmem' (hexact.2.trans hexact'.2.symm)]
      | wildcard _ _ hnone _ => exact absurd hexact (hnone _ hmem)
      | none hnone _ => exact absurd hexact (hnone _ hmem)
  | wildcard hmem hfits hnone hbest =>
      cases hchosen' with
      | exact hmem' hexact' => exact absurd hexact' (hnone _ hmem')
      | wildcard hmem' hfits' _ hbest' =>
          have hle := hbest _ hmem' _ _ _ hfits'
          have hge := hbest' _ hmem _ _ _ hfits
          have hpattern :=
            le_antisymm (hle.resolve_left (by omega)).2 (hge.resolve_left (by omega)).2
          obtain rfl := hpatterns _ hmem _ hmem' hpattern
          rw [Option.some.inj (hfits.capture?.symm.trans hfits'.capture?)]
      | none _ hnone => exact absurd hfits (hnone _ hmem _ _ _)
  | none hexact hnone =>
      cases hchosen' with
      | exact hmem hexact' => exact absurd hexact' (hexact _ hmem)
      | wildcard hmem hfits _ _ => exact absurd hfits (hnone _ hmem _ _ _)
      | none => rfl

end Chosen

/-! ## The first alias that fits -/

/-- The first alias that fits a specifier, with the text that it captures. -/
def firstFitting? (aliases : List Alias) (specifier : String) : Option (Alias × List Char) :=
  aliases.findSome? fun entry => (Alias.capture? entry.pattern specifier).map (entry, ·)

theorem eq_nil_of_byteLength_eq_zero (hzero : Text.byteLength front = 0) : front = [] := by
  cases front with
  | nil => rfl
  | cons c rest =>
      have hsize := c.utf8Size_pos
      rw [Text.byteLength] at hzero
      omega

/-- An alias with a star is never tried before an exact one that it also fits. -/
theorem Alias.Fits.not_precedes (hfits : entry.Fits specifier front captured behind)
    (hexact : other.IsExact specifier) : ¬entry.Precedes other := by
  have hlead : lead entry.pattern = Text.byteLength front :=
    lead_of_star hfits.pattern_eq hfits.first_star
  have hother : lead other.pattern = Text.byteLength specifier.toList := by
    rw [lead_of_no_star hexact.1, hexact.2]
  have hsize : Text.byteLength specifier.toList =
      Text.byteLength front + Text.byteLength (captured ++ behind) := by
    rw [hfits.specifier_eq, List.append_assoc, Text.byteLength_append]
  rintro (hshorter | ⟨hsame, hpattern⟩)
  · omega
  · -- The exact alias is all that stands before the star, so it comes first in the order of texts.
    have hrest : captured ++ behind = [] := eq_nil_of_byteLength_eq_zero (by omega)
    obtain ⟨rfl, rfl⟩ := List.append_eq_nil_iff.mp hrest
    have hlt : other.pattern.toList < entry.pattern.toList := by
      rw [hexact.2, hfits.specifier_eq, hfits.pattern_eq, List.append_nil]
      exact List.append_left_lt (List.nil_lt_cons _ _)
    exact lt_asymm hpattern (String.lt_iff_toList_lt.mpr hlt)

/-- Every other alias that captures anything is tried later than the first one that does. -/
theorem precedes_of_firstFitting? (haliases : aliases.Pairwise Alias.Precedes)
    (hfound : firstFitting? aliases specifier = some (entry, captured)) :
    entry ∈ aliases ∧ Alias.capture? entry.pattern specifier = some captured ∧
      ∀ other ∈ aliases, ∀ captured', Alias.capture? other.pattern specifier = some captured' →
        other = entry ∨ entry.Precedes other := by
  obtain ⟨earlier, first, later, rfl, hfirst, hearlier⟩ := List.findSome?_eq_some_iff.mp hfound
  obtain ⟨text, hcapture, hpair⟩ := Option.map_eq_some_iff.mp hfirst
  obtain ⟨rfl, rfl⟩ := Prod.mk.inj hpair
  refine ⟨by simp, hcapture, ?_⟩
  intro other hother captured' hcapture'
  rcases List.mem_append.mp hother with hother | hother
  · have hnone := hearlier other hother
    simp [hcapture'] at hnone
  · refine (List.mem_cons.mp hother).imp_right fun hother => ?_
    exact List.rel_of_pairwise_cons (List.pairwise_append.mp haliases).2.1 hother

/-- Tried in their order, the first alias that fits is the chosen one. -/
theorem chosen_firstFitting? (haliases : aliases.Pairwise Alias.Precedes) (specifier : String) :
    Chosen aliases specifier (firstFitting? aliases specifier) := by
  cases hfound : firstFitting? aliases specifier with
  | none =>
      have hnone : ∀ other ∈ aliases, Alias.capture? other.pattern specifier = none := by
        simpa [firstFitting?, List.findSome?_eq_none_iff] using hfound
      refine .none (fun other hother hexact => ?_) fun other hother _ _ _ hfits => ?_
      · exact Option.some_ne_none _ (hexact.capture?.symm.trans (hnone other hother))
      · exact Option.some_ne_none _ (hfits.capture?.symm.trans (hnone other hother))
  | some choice =>
      obtain ⟨entry, captured⟩ := choice
      obtain ⟨hmem, hcapture, hlater⟩ := precedes_of_firstFitting? haliases hfound
      rcases Alias.capture?_eq_some_iff.mp hcapture with ⟨hexact, rfl⟩ | ⟨front, behind, hfits⟩
      · exact .exact hmem hexact
      · refine .wildcard hmem hfits (fun other hother hexact => ?_) ?_
        · rcases hlater other hother _ hexact.capture? with rfl | hprecedes
          · exact hexact.1 (by simp [hfits.pattern_eq])
          · exact hfits.not_precedes hexact hprecedes
        · intro other hother front' captured' behind' hfits'
          rw [← Alias.lead_of_star hfits.pattern_eq hfits.first_star,
            ← Alias.lead_of_star hfits'.pattern_eq hfits'.first_star]
          rcases hlater other hother _ hfits'.capture? with
            rfl | hshorter | ⟨hsame, hpattern⟩
          · exact .inr ⟨rfl, le_rfl⟩
          · exact .inl hshorter
          · exact .inr ⟨hsame, hpattern.le⟩

/-- What the targets of the chosen alias stand for, each with its first star filled in. -/
def targetPaths (path? : String → Option String) : Option (Alias × List Char) → List String
  | none => []
  | some (entry, captured) =>
      entry.targets.filterMap fun target => path? (Alias.fill captured target)

/-- The normal path below the base directory of a table. -/
def AliasTable.below? (table : AliasTable) (path : String) : Option String :=
  UnitPath.normalize? (table.below path)

theorem AliasTable.candidates_eq (table : AliasTable) (specifier : String) :
    table.candidates specifier =
      targetPaths table.below? (firstFitting? table.aliases specifier) ++
        (table.base.bind fun _ => table.below? specifier).toList := by
  have haliased : table.aliased specifier =
      ((firstFitting? table.aliases specifier).map (targetPaths table.below? ∘ some)).getD [] := by
    rw [firstFitting?, List.map_findSome?, aliased]
    simp [Function.comp_def, targetPaths, below?]
  have hpaths : ((firstFitting? table.aliases specifier).map
      (targetPaths table.below? ∘ some)).getD [] =
        targetPaths table.below? (firstFitting? table.aliases specifier) := by
    cases firstFitting? table.aliases specifier <;> rfl
  rw [candidates, haliased, hpaths]
  cases table.base <;> rfl

/-- Of the aliases in a file, exactly the first one that fits is the chosen one. -/
theorem Settings.chosen_iff {settings : Settings} {choice : Option (Alias × List Char)}
    (hread : ofText? text = some settings) :
    Chosen settings.aliases specifier choice ↔
      choice = firstFitting? settings.table.aliases specifier := by
  have hmem : ∀ entry, entry ∈ settings.table.aliases ↔ entry ∈ settings.aliases :=
    fun entry => List.mem_mergeSort
  have hchosen := (chosen_firstFitting? (table_pairwise hread) specifier).congr hmem
  have hnodup : (settings.aliases.map Alias.pattern).Nodup :=
    (aliases_ascend hread).imp fun hlt => hlt.ne
  constructor
  · intro hother
    exact hother.unique (fun entry hentry other hother =>
      List.inj_on_of_nodup_map hnodup hentry hother) hchosen
  · rintro rfl
    exact hchosen

/-- For every specifier one alias of the file is chosen, or none, and the candidates are what its
targets stand for, followed by the specifier below the base directory. -/
theorem AliasTable.candidates_by_choice {table : AliasTable}
    (hread : AliasTable.ofText? text = some table) (specifier : String) :
    ∃ settings choice, Settings.ofText? text = some settings ∧
      (∀ other, Chosen settings.aliases specifier other ↔ other = choice) ∧
      table.candidates specifier = targetPaths table.below? choice ++
        (table.base.bind fun _ => table.below? specifier).toList := by
  obtain ⟨settings, hsettings, rfl⟩ := Option.map_eq_some_iff.mp hread
  exact ⟨settings, _, hsettings, fun other => Settings.chosen_iff hsettings,
    settings.table.candidates_eq specifier⟩

/-- An exact alias goes before one that has as much text before its star, and its own targets may
have a star nevertheless. -/
theorem AliasTable.candidates_by_choice_exact :
    let text := "\x7b\"compilerOptions\":\x7b\"baseUrl\":\"./src\",\"paths\":" ++
      "\x7b\"lib*\":[\"x/*\"],\"l*b\":[\"y/*\"],\"lib\":[\"../lib*/main\"]\x7d\x7d\x7d"
    let exact : Alias := ⟨"lib", ["../lib*/main"]⟩
    let settings : Settings := ⟨some "./src", [⟨"l*b", ["y/*"]⟩, exact, ⟨"lib*", ["x/*"]⟩]⟩
    AliasTable.ofText? text = some settings.table ∧
      Chosen settings.aliases "lib" (some (exact, [])) ∧
      settings.table.candidates "lib" = ["lib/main", "src/lib"] := by
  intro text exact settings
  have hsettings : Settings.ofText? text = some settings := by decide +kernel
  have hread : AliasTable.ofText? text = some settings.table := by
    rw [AliasTable.ofText?, hsettings, Option.map_some]
  have hexact : Chosen settings.aliases "lib" (some (exact, [])) :=
    .exact (by decide) ⟨by decide, rfl⟩
  obtain ⟨found, choice, hfound, hchosen, hcandidates⟩ :=
    AliasTable.candidates_by_choice hread "lib"
  obtain rfl : settings = found := Option.some.inj (hsettings.symm.trans hfound)
  rw [← (hchosen _).mp hexact] at hcandidates
  exact ⟨hread, hexact, hcandidates.trans (by decide)⟩

end ImportRules.Source
