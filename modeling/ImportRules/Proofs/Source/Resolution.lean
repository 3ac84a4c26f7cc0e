import ImportRules.Proofs.PathSegments
import ImportRules.Source.Resolver
/-!
# What specifiers refer to

A specifier refers to a unit of the project or is left as it stands. The exact name of a unit goes
before every other spelling, so that each unit can be imported from each other one by the path
between them. Relative specifiers are paths and nothing else: where one leads depends on the path
that it stands for, and aliases have no say in it.
-/

namespace ImportRules.Source.Resolver

open UnitPath

variable {resolver other : Resolver} {importer specifier path unit : String}

/-! ## Paths and units -/

theorem mem_units_of_probe? (hprobe : resolver.probe? path = some unit) :
    unit ∈ resolver.units := by
  simpa using List.find?_some hprobe

/-- A specifier is resolved to a unit of the project or left as it is. -/
theorem resolve_cases (resolver : Resolver) (importer specifier : String) :
    (∃ unit ∈ resolver.units, resolver.resolve importer specifier = .internal unit) ∨
      resolver.resolve importer specifier = .external specifier := by
  unfold resolve
  split
  next unit hfound =>
    obtain ⟨path, -, hprobe⟩ := List.exists_of_findSome?_eq_some hfound
    exact .inl ⟨unit, mem_units_of_probe? hprobe, rfl⟩
  next => exact .inr rfl

/-- A path that is the name of a unit refers to that unit. -/
theorem probe?_of_mem (hunit : unit ∈ resolver.units) : resolver.probe? unit = some unit := by
  have hfirst : ∃ others, spellings resolver.extensions unit = unit :: others := ⟨_, rfl⟩
  obtain ⟨others, hothers⟩ := hfirst
  rw [probe?, hothers, List.find?_cons_of_pos (by simpa using hunit)]

/-- The resolvers know the same units and try the same extensions. Their aliases may differ. -/
structure SameProject (resolver other : Resolver) : Prop where
  units : ∀ unit, unit ∈ resolver.units ↔ unit ∈ other.units
  extensions : resolver.extensions = other.extensions

theorem SameProject.probe?_eq (hsame : SameProject resolver other) (path : String) :
    resolver.probe? path = other.probe? path := by
  have hunits : resolver.units.contains = other.units.contains := by
    funext unit
    rw [Bool.eq_iff_iff, List.contains_iff_mem, List.contains_iff_mem]
    exact hsame.units unit
  rw [probe?, probe?, hsame.extensions, hunits]

/-! ## Relative specifiers -/

/-- A relative specifier stands for the path that it is taken from the directory of the
importer. -/
theorem candidates_of_isRelative (hrelative : isRelative specifier = true) :
    resolver.candidates importer specifier =
      (normalize? (join (directory importer) specifier)).toList := by
  rw [candidates, if_pos hrelative]
  dsimp only
  split
  next hempty =>
    rw [String.isEmpty_iff.mp hempty, normalize?_join_empty]
  next => rfl

theorem resolve_eq_internal_iff (hrelative : isRelative specifier = true) :
    resolver.resolve importer specifier = .internal unit ↔
      (normalize? (join (directory importer) specifier)).bind resolver.probe? = some unit := by
  rw [resolve, candidates_of_isRelative hrelative]
  cases normalize? (join (directory importer) specifier) with
  | none => simp
  | some path =>
      rw [Option.toList_some, List.findSome?_singleton, Option.bind_some]
      cases resolver.probe? path <;> simp

theorem isRelative_overRoot (importer unit : String) :
    isRelative (overRoot importer unit) = true := by
  simp [isRelative, overRoot]

/-- What a specifier refers to is a unit of the project or the specifier itself. From a canonical
importer every canonical unit is reached by its exact path over the root. Relative specifiers that
stand for the same path refer to the same unit, whatever the aliases. -/
theorem resolve_by_path (resolver : Resolver) (importer specifier : String) :
    ((∃ unit ∈ resolver.units, resolver.resolve importer specifier = .internal unit) ∨
        resolver.resolve importer specifier = .external specifier) ∧
      (IsCanonical importer → ∀ unit ∈ resolver.units, IsCanonical unit →
        resolver.resolve importer (overRoot importer unit) = .internal unit) ∧
      (isRelative specifier = true → ∀ (other : Resolver) (importer' specifier' : String),
        isRelative specifier' = true → SameProject resolver other →
        normalize? (join (directory importer) specifier) =
          normalize? (join (directory importer') specifier') →
        ∀ unit, resolver.resolve importer specifier = .internal unit ↔
          other.resolve importer' specifier' = .internal unit) := by
  refine ⟨resolver.resolve_cases importer specifier, ?_, ?_⟩
  · intro himporter unit hunit hcanonical
    rw [resolve_eq_internal_iff (isRelative_overRoot importer unit),
      normalize?_overRoot himporter hcanonical, Option.bind_some]
    exact probe?_of_mem hunit
  · intro hrelative other importer' specifier' hrelative' hsame hpath unit
    have hprobe : resolver.probe? = other.probe? := funext hsame.probe?_eq
    rw [resolve_eq_internal_iff hrelative, resolve_eq_internal_iff hrelative', hpath, hprobe]

/-- A unit without an extension beside one that has it, with an alias for everything. -/
theorem resolve_by_path_beside_extension :
    let aliases : AliasTable := { base := some "src", aliases := [⟨"*", ["app/main.ts"]⟩] }
    let resolver : Resolver :=
      ⟨["src/app/main.ts", "src/lib/util", "src/lib/util.ts"], ["ts"], aliases⟩
    let other : Resolver := ⟨["src/lib/util.ts", "src/lib/util", "src/app/main.ts"], ["ts"], {}⟩
    IsCanonical "src/app/main.ts" ∧ IsCanonical "src/lib/util" ∧ SameProject resolver other ∧
      overRoot "src/app/main.ts" "src/lib/util" = "./../../src/lib/util" ∧
      resolver.resolve "src/app/main.ts" "./../../src/lib/util" = .internal "src/lib/util" ∧
      other.resolve "src/index.ts" "./lib//util" = .internal "src/lib/util" := by
  intro aliases resolver other
  have himporter : IsCanonical "src/app/main.ts" := by decide
  have hcanonical : IsCanonical "src/lib/util" := by decide
  have hproject : SameProject resolver other :=
    ⟨fun unit => (List.mem_reverse : unit ∈ resolver.units.reverse ↔ _).symm, rfl⟩
  have hpath : overRoot "src/app/main.ts" "src/lib/util" = "./../../src/lib/util" := by decide
  obtain ⟨-, hexact, hsame⟩ :=
    resolve_by_path resolver "src/app/main.ts" "./../../src/lib/util"
  have hunit := hexact himporter "src/lib/util" (by decide) hcanonical
  rw [hpath] at hunit
  have hother := (hsame (by decide) other "src/index.ts" "./lib//util" (by decide) hproject
    (by decide) "src/lib/util").mp hunit
  exact ⟨himporter, hcanonical, hproject, hpath, hunit, hother⟩

end ImportRules.Source.Resolver
