import ImportRules.Command.Run
import Mathlib.Data.List.Basic
/-!
# Verdicts check by check

A run is nothing but its checks: what each of them finds does not depend on which others are run.
Hence leaving checks out leaves out their findings and no others, and whether a run fails can be
told from each check by itself.
-/

namespace ImportRules

variable {edges : List Edge} {named : NamedCheck}

/-- The names ask for a check: it is one of them, or there are none. -/
def Asked (names : List String) (name : String) : Prop :=
  names = [] ∨ name ∈ names

instance (names : List String) (name : String) : Decidable (Asked names name) :=
  inferInstanceAs (Decidable (names = [] ∨ name ∈ names))

/-- One of the checks is asked for, finds something in the edges and is at least as serious as the
threshold. -/
def Fails (checks : List NamedCheck) (names : List String) (threshold : Severity)
    (edges : List Edge) : Prop :=
  ∃ named ∈ checks, Asked names named.name ∧ named.severity.atLeast threshold = true ∧
    named.check.evaluate edges ≠ []

theorem checks_select (config : Config) (names : List String) :
    (config.select names).checks = config.checks.filter fun named => Asked names named.name := by
  cases names with
  | nil => simp [Config.select, Asked]
  | cons name names => simp [Config.select, Asked]

theorem check_of_mem_findings {finding : Finding} (hfinding : finding ∈ named.findings edges) :
    finding.check = named.name := by
  obtain ⟨violation, -, rfl⟩ := List.mem_map.mp hfinding
  rfl

/-- Findings are kept or dropped as a whole with the check that they come from. -/
theorem filter_findings (kept : String → Bool) (named : NamedCheck) (edges : List Edge) :
    (named.findings edges).filter (fun finding => kept finding.check) =
      if kept named.name then named.findings edges else [] := by
  split
  next hkept =>
    apply List.filter_eq_self.mpr
    intro finding hfinding
    rwa [check_of_mem_findings hfinding]
  next hdropped =>
    apply List.filter_eq_nil_iff.mpr
    intro finding hfinding
    rwa [check_of_mem_findings hfinding]

/-- Running some of the checks finds what these find when all are run. -/
theorem findings_runChecks_filter (kept : String → Bool) (checks : List NamedCheck)
    (edges : List Edge) :
    (runChecks (checks.filter fun named => kept named.name) edges).findings =
      (runChecks checks edges).findings.filter fun finding => kept finding.check := by
  induction checks with
  | nil => rfl
  | cons named checks ih =>
      simp only [runChecks] at ih ⊢
      rw [List.flatMap_cons, List.filter_append, filter_findings, List.filter_cons, ← ih]
      split <;> simp

/-- A report fails if one of the checks behind it fails by itself. -/
theorem failsAt_runChecks (checks : List NamedCheck) (edges : List Edge) (threshold : Severity) :
    (runChecks checks edges).failsAt threshold = true ↔
      ∃ named ∈ checks, named.severity.atLeast threshold = true ∧
        named.check.evaluate edges ≠ [] := by
  have hnamed : ∀ named : NamedCheck,
      (∃ finding ∈ named.findings edges, finding.severity.atLeast threshold = true) ↔
        named.severity.atLeast threshold = true ∧ named.check.evaluate edges ≠ [] := by
    intro named
    constructor
    · rintro ⟨finding, hfinding, hserious⟩
      obtain ⟨violation, hviolation, rfl⟩ := List.mem_map.mp hfinding
      exact ⟨hserious, List.ne_nil_of_mem hviolation⟩
    · rintro ⟨hserious, hfound⟩
      obtain ⟨violation, hviolation⟩ := List.exists_mem_of_ne_nil _ hfound
      exact ⟨_, List.mem_map_of_mem hviolation, hserious⟩
  simp only [Report.failsAt, runChecks, List.any_eq_true, List.mem_flatMap, ← hnamed]
  constructor
  · rintro ⟨finding, ⟨named, hmem, hfinding⟩, hserious⟩
    exact ⟨named, hmem, finding, hfinding, hserious⟩
  · rintro ⟨named, hmem, finding, hfinding, hserious⟩
    exact ⟨finding, ⟨named, hmem, hfinding⟩, hserious⟩

theorem failsAt_select (config : Config) (names : List String) (edges : List Edge)
    (threshold : Severity) :
    (runChecks (config.select names).checks edges).failsAt threshold = true ↔
      Fails config.checks names threshold edges := by
  rw [failsAt_runChecks, checks_select]
  simp only [List.mem_filter, decide_eq_true_eq, Fails, and_assoc]

namespace Command

/-- What the checks of a configuration say is decided by each of them alone. A run of the checks
that are asked for finds what these find in a run of all, check by check in their order. It fails
if one of them does, and then the command ends with status 1. -/
theorem verdict_by_check (config : Config) (names : List String) (edges : List Edge)
    (threshold : Severity) :
    (runChecks (config.select names).checks edges).findings =
        (runChecks config.checks edges).findings.filter (fun finding =>
          Asked names finding.check) ∧
      (runChecks config.checks edges).findings =
        (config.checks.flatMap fun named =>
          (named.check.evaluate edges).map (Finding.mk named.name named.severity)) ∧
      ((runChecks (config.select names).checks edges).failsAt threshold = true ↔
        Fails config.checks names threshold edges) ∧
      ∀ (environment : Environment) (origin : ConfigOrigin) (path : Path)
        (format : OutputFormat) (log : List LogLine),
        origin.load environment.workspace = .ok config →
        Extraction.fresh environment.workspace (config.extraction.sourceFrom path)
          config.extraction.scanOptions = .ok ⟨edges, log⟩ →
        ((check environment origin path format names threshold).exit = 1 ↔
            Fails config.checks names threshold edges) ∧
          ((check environment origin path format names threshold).exit = 0 ↔
            ¬Fails config.checks names threshold edges) := by
  refine ⟨?_, rfl, failsAt_select config names edges threshold, ?_⟩
  · rw [checks_select]
    exact findings_runChecks_filter (fun name => Asked names name) config.checks edges
  · intro environment origin path format log hload hfresh
    have hexit : (check environment origin path format names threshold).exit =
        if (runChecks (config.select names).checks edges).failsAt threshold then 1 else 0 := by
      simp only [check, hload, hfresh]
    rw [hexit, ← failsAt_select]
    split <;> simp_all

/-- Two units that import each other, which one check forbids as an error and another one as a
warning. -/
def mutualProject : Workspace where
  tree := .directory
    [("archgraph.toml", .file ("[extraction]\nedges = \"e.json\"\n" ++
        "[[forbidden]]\nname = \"up\"\nrules = [[\"a\", \"b\"]]\n" ++
        "[[forbidden]]\nname = \"down\"\nrules = [[\"b\", \"a\"]]\n" ++
        "severity = \"warning\"\n").toUTF8),
     ("e.json", .file "[[\"a\",\"b\"],[\"b\",\"a\"]]".toUTF8)]

/-- The error is not asked about, so that the run fails only where warnings count. -/
theorem verdict_by_check_warning :
    ∃ config edges, ConfigOrigin.load mutualProject (.explicit "archgraph.toml") = .ok config ∧
      Extraction.fresh mutualProject (config.extraction.sourceFrom ".")
        config.extraction.scanOptions = .ok ⟨edges, []⟩ ∧
      Fails config.checks [] .error edges ∧
      (check ⟨mutualProject, none⟩ (.explicit "archgraph.toml") "." .text ["down"] .error).exit =
        0 ∧
      (check ⟨mutualProject, none⟩ (.explicit "archgraph.toml") "." .text ["down"]
        .warning).exit = 1 := by
  let edges : List Edge := [⟨"a", "b", false, []⟩, ⟨"b", "a", false, []⟩]
  have hload : (ConfigOrigin.load mutualProject (.explicit "archgraph.toml")).toOption.map
      (fun config => (config.extraction.source, config.checks.map fun named =>
        (named.name, named.severity, (named.check.evaluate edges).isEmpty))) =
      some (some (.edgeFile "e.json"), [("up", .error, false), ("down", .warning, false)]) := by
    decide +kernel
  have hedges : Extraction.ofEdgeFile mutualProject "e.json" = .ok edges := by decide +kernel
  cases hconfig : ConfigOrigin.load mutualProject (.explicit "archgraph.toml") with
  | error =>
      rw [hconfig] at hload
      cases hload
  | ok config =>
      obtain ⟨⟨source, exclude, extensions⟩, checks⟩ := config
      rw [hconfig] at hload
      obtain ⟨hsource, hchecks⟩ := Prod.mk.inj (Option.some.inj hload)
      cases hsource
      obtain ⟨up, others, rfl, hup, hothers⟩ := List.map_eq_cons_iff.mp hchecks
      obtain ⟨down, others, rfl, hdown, hnone⟩ := List.map_eq_cons_iff.mp hothers
      obtain rfl := List.map_eq_nil_iff.mp hnone
      simp only [Prod.mk.injEq, List.isEmpty_eq_false_iff] at hup hdown
      have hfresh : Extraction.fresh mutualProject (.edgeFile "e.json")
          (ExtractionSettings.scanOptions ⟨some (.edgeFile "e.json"), exclude, extensions⟩) =
            .ok ⟨edges, []⟩ := by
        rw [Extraction.fresh, hedges]
        rfl
      have hfails : ∀ names threshold, Fails [up, down] names threshold edges ↔
          Asked names "up" ∧ Severity.error.atLeast threshold = true ∨
            Asked names "down" ∧ Severity.warning.atLeast threshold = true := by
        simp [Fails, hup, hdown]
      have hverdict := fun threshold =>
        (verdict_by_check _ ["down"] edges threshold).2.2.2 ⟨mutualProject, none⟩ _ "." .text []
          hconfig hfresh
      refine ⟨_, edges, rfl, hfresh, ?_, ?_, ?_⟩
      · exact (hfails [] .error).mpr (by decide)
      · exact (hverdict .error).2.mpr (mt (hfails _ _).mp (by decide))
      · exact (hverdict .warning).1.mpr ((hfails _ _).mpr (by decide))

end Command

end ImportRules
