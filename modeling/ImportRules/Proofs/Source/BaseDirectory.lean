import ImportRules.Proofs.PathSegments
import ImportRules.Proofs.Source.AliasChoice
/-!
# Candidates below the base directory

Candidates are paths below the base directory: the targets of the chosen alias and then the
specifier itself. The base directory is normalized when the settings are read, which changes nothing
about what lies below it. A base directory above the root, however, is dropped like one that is
missing. Nothing below it lies inside the root, but the targets of the chosen alias are then taken
from the root itself.
-/

namespace ImportRules.Source

open UnitPath

variable {text specifier : String} {settings : Settings} {choice : Option (Alias × List Char)}

/-- Targets that stand for nothing leave nothing. -/
theorem targetPaths_eq_nil {path? : String → Option String} (hnone : ∀ path, path? path = none) :
    targetPaths path? choice = [] := by
  cases choice with
  | none => rfl
  | some chosen => exact List.filterMap_eq_nil_iff.mpr fun target _ => hnone _

namespace Settings

/-- The normal path below the base directory as it is written. -/
def below? (settings : Settings) (path : String) : Option String :=
  normalize? (join (settings.base.getD "") path)

/-- The paths below the base directory that the settings name for a specifier: what the targets of
the chosen alias stand for and, if a base directory is written, the specifier itself. -/
def named (settings : Settings) (choice : Option (Alias × List Char)) (specifier : String) :
    List String :=
  targetPaths settings.below? choice ++
    (settings.base.bind fun _ => settings.below? specifier).toList

/-- The base directory lies above the root. -/
def Climbs (settings : Settings) : Prop :=
  ∃ base ∈ settings.base, normalize? base = none

/-- The settings without their base directory. -/
def baseless (settings : Settings) : Settings :=
  { settings with base := none }

/-- Below a base directory above the root nothing is named. -/
theorem named_of_climbs (hclimbs : settings.Climbs) : settings.named choice specifier = [] := by
  obtain ⟨base, hbase, hnone⟩ := hclimbs
  have hbelow : ∀ path, settings.below? path = none := by
    intro path
    rw [below?, hbase, Option.getD_some]
    exact normalize?_join_eq_none hnone path
  rw [named, targetPaths_eq_nil hbelow, hbase, Option.bind_some, hbelow]
  rfl

/-- A table takes paths from the normal form of its base directory, if it has one. -/
theorem below?_table (settings : Settings) (path : String) :
    settings.table.below? path = normalize? (join (settings.table.base.getD "") path) := by
  rw [AliasTable.below?, AliasTable.below]
  split
  next hbase => rw [hbase, Option.getD_some, normalize?_join_empty]
  next hbase => rw [hbase, Option.getD_none, normalize?_join_empty]
  next base _ hbase => rw [hbase, Option.getD_some]

/-- Unless the base directory lies above the root, its normal form is as good as itself. -/
theorem below?_table_of_not_climbs (hinside : ¬settings.Climbs) :
    settings.table.below? = settings.below? ∧
      settings.table.base.isSome = settings.base.isSome := by
  cases hbase : settings.base with
  | none =>
      have htable : settings.table.base = none := by rw [table, hbase, Option.bind_none]
      refine ⟨funext fun path => ?_, by rw [htable]⟩
      rw [below?_table, below?, hbase, htable]
  | some base =>
      obtain ⟨normal, hnormal⟩ : ∃ normal, normalize? base = some normal :=
        Option.ne_none_iff_exists'.mp fun hnone => hinside ⟨base, hbase, hnone⟩
      have htable : settings.table.base = some normal := by
        rw [table, hbase, Option.bind_some, hnormal]
      refine ⟨funext fun path => ?_, by rw [htable]; rfl⟩
      rw [below?_table, below?, hbase, htable, Option.getD_some, Option.getD_some]
      exact normalize?_join_of_normalize? hnormal path

theorem candidates_of_not_climbs (hinside : ¬settings.Climbs) (specifier : String) :
    settings.table.candidates specifier =
      settings.named (firstFitting? settings.table.aliases specifier) specifier := by
  obtain ⟨hbelow, hsome⟩ := below?_table_of_not_climbs hinside
  rw [AliasTable.candidates_eq, named, hbelow]
  congr 2
  cases htable : settings.table.base <;> cases hbase : settings.base <;> simp_all

/-- A base directory above the root is as good as none. -/
theorem table_of_climbs (hclimbs : settings.Climbs) : settings.table = settings.baseless.table := by
  obtain ⟨base, hbase, hnone⟩ := hclimbs
  rw [table, hbase, Option.bind_some, hnone]
  rfl

end Settings

/-- The candidates are the paths below the base directory that the settings name, unless the base
directory lies above the root: then the settings name no path inside the root, but the candidates
are what they name without a base directory. -/
theorem AliasTable.candidates_below_base {table : AliasTable}
    (hread : AliasTable.ofText? text = some table) (specifier : String) :
    ∃ settings choice, Settings.ofText? text = some settings ∧
      (∀ other, Chosen settings.aliases specifier other ↔ other = choice) ∧
      (¬settings.Climbs → table.candidates specifier = settings.named choice specifier) ∧
      (settings.Climbs → settings.named choice specifier = [] ∧
        table.candidates specifier = settings.baseless.named choice specifier) := by
  obtain ⟨settings, hsettings, rfl⟩ := Option.map_eq_some_iff.mp hread
  have hbaseless : ¬settings.baseless.Climbs := by
    rintro ⟨base, hbase, -⟩
    cases hbase
  refine ⟨settings, _, hsettings, fun other => Settings.chosen_iff hsettings,
    fun hinside => Settings.candidates_of_not_climbs hinside specifier, fun hclimbs => ?_⟩
  refine ⟨Settings.named_of_climbs hclimbs, ?_⟩
  rw [Settings.table_of_climbs hclimbs]
  exact Settings.candidates_of_not_climbs hbaseless specifier

/-- Of two targets below a base directory inside the root, one leaves the root. -/
theorem AliasTable.candidates_below_base_inside :
    let text := "\x7b\"compilerOptions\":\x7b\"baseUrl\":\"./src/\",\"paths\":" ++
      "\x7b\"@/*\":[\"../lib/*\",\"../../*\"]\x7d\x7d\x7d"
    let entry : Alias := ⟨"@/*", ["../lib/*", "../../*"]⟩
    let settings : Settings := ⟨some "./src/", [entry]⟩
    AliasTable.ofText? text = some settings.table ∧ ¬settings.Climbs ∧
      Chosen settings.aliases "@/a" (some (entry, ['a'])) ∧
      settings.table.candidates "@/a" = settings.named (some (entry, ['a'])) "@/a" ∧
      settings.named (some (entry, ['a'])) "@/a" = ["lib/a", "src/@/a"] := by
  intro text entry settings
  have hsettings : Settings.ofText? text = some settings := by decide +kernel
  have hread : AliasTable.ofText? text = some settings.table := by
    rw [AliasTable.ofText?, hsettings]
    rfl
  have hinside : ¬settings.Climbs := by
    rintro ⟨base, hbase, hnone⟩
    cases hbase
    exact absurd hnone (by decide)
  have hchosen : Chosen settings.aliases "@/a" (some (entry, ['a'])) := by
    rw [Settings.chosen_iff hsettings, Settings.table, List.mergeSort_singleton]
    decide
  obtain ⟨found, choice, hfound, hchoice, hnamed, -⟩ :=
    AliasTable.candidates_below_base hread "@/a"
  obtain rfl : settings = found := Option.some.inj (hsettings.symm.trans hfound)
  obtain rfl := (hchoice _).mp hchosen
  exact ⟨hread, hinside, hchosen, hnamed hinside, by decide⟩

/-- A base directory above the root: what it names lies outside, and a path inside is offered. -/
theorem AliasTable.candidates_above_root :
    let text := "\x7b\"compilerOptions\":\x7b\"baseUrl\":\"..\",\"paths\":" ++
      "\x7b\"@/*\":[\"src/*\"]\x7d\x7d\x7d"
    let entry : Alias := ⟨"@/*", ["src/*"]⟩
    let settings : Settings := ⟨some "..", [entry]⟩
    Settings.ofText? text = some settings ∧ AliasTable.ofText? text = some settings.table ∧
      Chosen settings.aliases "@/x" (some (entry, ['x'])) ∧
      settings.named (some (entry, ['x'])) "@/x" = [] ∧
      settings.table.candidates "@/x" = ["src/x"] := by
  intro text entry settings
  have hsettings : Settings.ofText? text = some settings := by decide +kernel
  have hread : AliasTable.ofText? text = some settings.table := by
    rw [AliasTable.ofText?, hsettings]
    rfl
  have htable : settings.table = ⟨none, [entry]⟩ := by
    rw [Settings.table, List.mergeSort_singleton]
    rfl
  refine ⟨hsettings, hread, ?_, by decide, by rw [htable]; decide⟩
  rw [Settings.chosen_iff hsettings, htable]
  decide

end ImportRules.Source
