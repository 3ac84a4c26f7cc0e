import ImportRules.Proofs.Config.Conversion
/-!
# Loading all of a document or nothing

The entries of a document stand in one order, in which each of them is turned into a check without
regard to the others. Either nothing is wrong with any of them and the names of the checks differ,
or there is one error: the first fault of the extraction settings, or else of the first entry that
has one, or else the first name that occurs a second time. A fault of an entry says where the entry
stands.
-/

namespace ImportRules

/-- A projection that can give labels: a slice pattern has one group for them, and a suffix table
is not empty. -/
def Projection.Sound : Projection → Prop
  | .identity => True
  | .slices pattern => pattern.search.HasOneGroup
  | .suffix table => table.entries ≠ []

/-- A check of which each part passed its test. -/
def Check.Sound : Check → Prop
  | .cycles view _ | .diagram view _ | .forbidden view _ => view.projection.Sound
  | .dependency rule => rule.objects ≠ [] ∨ rule.subjects ≠ []
  | .files _ => True

namespace Config

theorem ProjectionEntry.Means.sound {entry : ProjectionEntry} {projection : Projection}
    (hmeans : entry.Means projection) : projection.Sound := by
  cases entry with
  | identity =>
      obtain rfl := hmeans
      trivial
  | slices pattern regex =>
      obtain ⟨slices, rfl, ⟨text, -, hread⟩ | ⟨text, -, hread⟩⟩ := hmeans
      · exact SlicePattern.hasOneGroup_of_ofGlob hread
      · exact SlicePattern.hasOneGroup_of_ofRegex hread
  | suffix groups =>
      obtain ⟨hgroups, rfl⟩ := hmeans
      intro hnil
      have hlength := congrArg List.length hnil
      simp only [SuffixTable.ofEntries, List.length_mergeSort, List.length_map, List.length_nil,
        List.length_eq_zero_iff] at hlength
      exact hgroups hlength

namespace Entry.Means

variable {base : Path} {read? : Path → Option String} {entry : Entry} {check : Check}

theorem kind_eq (hmeans : entry.Means base read? check) : check.kind = entry.list := by
  cases entry with
  | cycles entry =>
      obtain ⟨projection, -, rfl⟩ := hmeans
      rfl
  | dependency entry =>
      obtain ⟨rule, rfl, -⟩ := hmeans
      rfl
  | diagram entry =>
      obtain ⟨text, diagram, projection, -, -, -, rfl⟩ := hmeans
      rfl
  | forbidden entry =>
      obtain ⟨projection, -, rfl⟩ := hmeans
      rfl
  | files entry =>
      obtain ⟨rule, pattern, rfl, -⟩ := hmeans
      rfl

theorem sound (hmeans : entry.Means base read? check) : check.Sound := by
  cases entry with
  | cycles entry =>
      obtain ⟨projection, hprojection, rfl⟩ := hmeans
      exact hprojection.sound
  | dependency entry =>
      obtain ⟨rule, rfl, -, -, -, -, -, hfilters⟩ := hmeans
      exact hfilters
  | diagram entry =>
      obtain ⟨text, diagram, projection, -, -, hprojection, rfl⟩ := hmeans
      exact hprojection.sound
  | forbidden entry =>
      obtain ⟨projection, hprojection, rfl⟩ := hmeans
      exact hprojection.sound
  | files entry =>
      obtain ⟨rule, pattern, rfl, -⟩ := hmeans
      trivial

end Entry.Means

/-! ## Entries in order -/

def Entry.load (base : Path) (read? : Path → Option String) (context : String) :
    Entry → Except LoadError NamedCheck
  | .cycles entry => loadCycles context entry
  | .dependency entry => loadDependency context entry
  | .diagram entry => loadDiagram base read? context entry
  | .forbidden entry => loadForbidden context entry
  | .files entry => loadFiles context entry

theorem Entry.decides_load (base : Path) (read? : Path → Option String) (context : String)
    (entry : Entry) :
    Decides (entry.faults base read? context) (Fits base read? entry)
      (entry.load base read? context) := by
  cases entry with
  | cycles entry => exact decides_loadCycles base read? context entry
  | dependency entry => exact decides_loadDependency base read? context entry
  | diagram entry => exact decides_loadDiagram base read? context entry
  | forbidden entry => exact decides_loadForbidden base read? context entry
  | files entry => exact decides_loadFiles base read? context entry

/-- An entry with its position in its list. -/
structure Placed where
  entry : Entry
  index : Nat

namespace Placed

def context (placed : Placed) : String :=
  place placed.entry.list placed.index

def load (base : Path) (read? : Path → Option String) (placed : Placed) :
    Except LoadError NamedCheck :=
  placed.entry.load base read? placed.context

def faults (base : Path) (read? : Path → Option String) (placed : Placed) : List LoadError :=
  placed.entry.faults base read? placed.context

/-- The entries of a list. -/
def ofList {α : Type} (kind : α → Entry) (entries : List α) : List Placed :=
  entries.zipIdx.map fun (entry, index) => ⟨kind entry, index⟩

end Placed

namespace Document

/-- The entries of a document in the order of their checks. -/
def entries (document : Document) : List Placed :=
  Placed.ofList .cycles document.cycles ++ Placed.ofList .dependency document.dependency ++
    Placed.ofList .diagram document.diagram ++ Placed.ofList .forbidden document.forbidden ++
    Placed.ofList .files document.files

def names (document : Document) : List String :=
  document.entries.map (·.entry.name)

/-- All that is wrong with a document, apart from names that occur twice. -/
def faults (base : Path) (read? : Path → Option String) (document : Document) : List LoadError :=
  document.extraction.faults ++ document.entries.flatMap (Placed.faults base read?)

end Document

theorem Placed.mapM_load_ofList {α : Type} (base : Path) (read? : Path → Option String)
    (kind : α → Entry) (entries : List α) :
    (ofList kind entries).mapM (load base read?) =
      entries.zipIdx.mapM fun (entry, index) =>
        (kind entry).load base read? (place (kind entry).list index) := by
  rw [ofList, List.mapM_map]
  rfl

theorem loadChecks_eq_mapM (base : Path) (read? : Path → Option String) (document : Document) :
    loadChecks base read? document = document.entries.mapM (Placed.load base read?) := by
  simp only [Document.entries, List.mapM_append, Placed.mapM_load_ofList, loadChecks, loadEach,
    bind_assoc, pure_bind]
  rfl

theorem decides_loadChecks (base : Path) (read? : Path → Option String) (document : Document) :
    Decides (document.entries.flatMap (Placed.faults base read?))
      (List.Forall₂ (fun placed => Fits base read? placed.entry) document.entries)
      (loadChecks base read? document) := by
  rw [loadChecks_eq_mapM]
  exact Decides.mapM (fun placed => placed.entry.decides_load base read? placed.context) _

theorem map_name_of_fits {base : Path} {read? : Path → Option String} {placed : List Placed}
    {checks : List NamedCheck}
    (hfits : List.Forall₂ (fun placed => Fits base read? placed.entry) placed checks) :
    checks.map (·.name) = placed.map (·.entry.name) := by
  induction hfits with
  | nil => rfl
  | cons hfirst _ ih => rw [List.map_cons, List.map_cons, hfirst.name, ih]

/-! ## Names that occur twice -/

/-- The name stands in the list a second time, behind names that all differ. -/
def FirstRepeat (names : List String) (name : String) : Prop :=
  ∃ before after, names = before ++ name :: after ∧ before.Nodup ∧ name ∈ before

theorem FirstRepeat.not_nodup {names : List String} {name : String}
    (hrepeat : FirstRepeat names name) : ¬names.Nodup := by
  obtain ⟨before, after, rfl, -, hmem⟩ := hrepeat
  intro hnodup
  exact (List.nodup_append.mp hnodup).2.2 name hmem name (List.mem_cons_self ..) rfl

theorem FirstRepeat.unique {names : List String} {first second : String}
    (hfirst : FirstRepeat names first) (hsecond : FirstRepeat names second) : first = second := by
  obtain ⟨before, after, rfl, hnodup, hmem⟩ := hfirst
  obtain ⟨before', after', hnames, hnodup', hmem'⟩ := hsecond
  -- One of the two starts goes on to the other, and would then hold its name twice.
  rcases List.append_eq_append_iff.mp hnames with ⟨between, rfl, hrest⟩ | ⟨between, rfl, hrest⟩
  · cases between with
    | nil => exact (List.cons.inj hrest).1
    | cons name between =>
        obtain ⟨rfl, -⟩ := List.cons.inj hrest
        exact absurd hnodup' (not_nodup ⟨before, between, rfl, hnodup, hmem⟩)
  · cases between with
    | nil => exact (List.cons.inj hrest).1.symm
    | cons name between =>
        obtain ⟨rfl, -⟩ := List.cons.inj hrest
        exact absurd hnodup (not_nodup ⟨before', between, rfl, hnodup', hmem'⟩)

/-- `seen` holds the names so far, the last one first. -/
theorem repeatedName?_spec (seen : List String) (hseen : seen.Nodup) (checks : List NamedCheck) :
    (repeatedName? seen checks = none ∧ (seen.reverse ++ checks.map (·.name)).Nodup) ∨
      ∃ name, repeatedName? seen checks = some name ∧
        FirstRepeat (seen.reverse ++ checks.map (·.name)) name := by
  fun_induction repeatedName? seen checks with
  | case1 seen => exact .inl ⟨rfl, by simpa using hseen⟩
  | case2 seen named rest hmem =>
      have hmem : named.name ∈ seen.reverse := by simpa using hmem
      exact .inr ⟨_, rfl, _, _, rfl, List.nodup_reverse.mpr hseen, hmem⟩
  | case3 seen named rest hmem ih =>
      have hmem : named.name ∉ seen := by simpa using hmem
      simpa using ih (List.nodup_cons.mpr ⟨hmem, hseen⟩)

/-! ## Outcomes -/

section Outcomes

variable {base : Path} {read? : Path → Option String} {document : Document}

/-- A document with faults is refused for the first of them. Any other document is loaded, unless
two of its names are the same. -/
theorem load_cases (base : Path) (read? : Path → Option String) (document : Document) :
    (∃ config, document.faults base read? = [] ∧ document.names.Nodup ∧
      document.extraction.Means base config.extraction ∧
      List.Forall₂ (fun placed => Fits base read? placed.entry) document.entries config.checks ∧
      load base read? document = .ok config) ∨
    (∃ name, document.faults base read? = [] ∧ FirstRepeat document.names name ∧
      load base read? document = .error (.duplicateName name)) ∨
    ∃ error, (document.faults base read?).head? = some error ∧
      load base read? document = .error error := by
  have hextraction := decides_loadExtraction base document.extraction
  have hchecks := decides_loadChecks base read? document
  rw [load, Document.faults]
  cases hsettings : loadExtraction base document.extraction with
  | error error =>
      refine .inr (.inr ⟨error, ?_, rfl⟩)
      rw [List.head?_append, hextraction.error_iff.mp hsettings, Option.some_or]
  | ok settings =>
      rw [hextraction.ok_iff.mp ⟨settings, hsettings⟩, List.nil_append]
      cases hentries : loadChecks base read? document with
      | error error => exact .inr (.inr ⟨error, hchecks.error_iff.mp hentries, rfl⟩)
      | ok checks =>
          have hnone := hchecks.ok_iff.mp ⟨checks, hentries⟩
          have hfits := hchecks.property_of_ok hentries
          have hnames : checks.map (·.name) = document.names := map_name_of_fits hfits
          have hrepeated := repeatedName?_spec [] List.nodup_nil checks
          rw [List.reverse_nil, List.nil_append, hnames] at hrepeated
          rcases hrepeated with ⟨hunique, hnodup⟩ | ⟨name, hname, hrepeat⟩
          · refine .inl ⟨⟨settings, checks⟩, hnone, hnodup, ?_, hfits, ?_⟩
            · exact hextraction.property_of_ok hsettings
            · simp [bind, Except.bind, hunique]
          · exact .inr (.inl ⟨name, hnone, hrepeat, by simp [bind, Except.bind, hname]⟩)

/-- The extraction settings decide the error or, if these are fine, the first entry that has a
fault; the error says that it arose there. -/
def Refuses (base : Path) (read? : Path → Option String) (document : Document)
    (error : LoadError) : Prop :=
  (document.extraction.faults.head? = some error ∧ error.Within "extraction") ∨
    document.extraction.faults = [] ∧ ∃ before placed after,
      document.entries = before ++ placed :: after ∧
      (∀ earlier ∈ before, earlier.faults base read? = []) ∧
      (placed.faults base read?).head? = some error ∧ error.Within placed.context

theorem refuses_iff {error : LoadError} :
    Refuses base read? document error ↔ (document.faults base read?).head? = some error := by
  have hextraction : ∀ fault, document.extraction.faults.head? = some fault →
      fault.Within "extraction" := fun fault hfault =>
    document.extraction.allWithin_faults fault (List.mem_of_head? hfault)
  have hentry : ∀ (placed : Placed) fault, (placed.faults base read?).head? = some fault →
      fault.Within placed.context := fun placed fault hfault =>
    placed.entry.allWithin_faults base read? placed.context fault (List.mem_of_head? hfault)
  have hentries : (document.entries.flatMap (Placed.faults base read?)).head? = some error ↔
      ∃ before placed after, document.entries = before ++ placed :: after ∧
        (∀ earlier ∈ before, earlier.faults base read? = []) ∧
        (placed.faults base read?).head? = some error ∧ error.Within placed.context := by
    rw [List.head?_flatMap, List.findSome?_eq_some_iff]
    simp only [List.head?_eq_none_iff]
    constructor
    · rintro ⟨before, placed, after, hdocument, hfault, hbefore⟩
      exact ⟨before, placed, after, hdocument, hbefore, hfault, hentry placed _ hfault⟩
    · rintro ⟨before, placed, after, hdocument, hbefore, hfault, -⟩
      exact ⟨before, placed, after, hdocument, hfault, hbefore⟩
  rw [Refuses, Document.faults, List.head?_append, ← hentries]
  cases hfirst : document.extraction.faults.head? with
  | none =>
      rw [List.head?_eq_none_iff] at hfirst
      simp [hfirst]
  | some fault =>
      have hne : document.extraction.faults ≠ [] := by
        intro hnil
        rw [hnil] at hfirst
        cases hfirst
      simp only [hne, false_and, or_false, Option.some_or, and_iff_left_iff_imp]
      intro heq
      exact hextraction error (hfirst.trans heq)

theorem not_refuses (hnone : document.faults base read? = []) (error : LoadError) :
    ¬Refuses base read? document error := by
  rw [refuses_iff, hnone]
  exact nofun

theorem Refuses.ne_duplicateName {error : LoadError}
    (hrefuses : Refuses base read? document error) (name : String) :
    error ≠ .duplicateName name := by
  rintro rfl
  rcases hrefuses with ⟨-, rest, hrest⟩ | ⟨-, _, _, _, -, -, -, rest, hrest⟩ <;> cases hrest

end Outcomes

/-- Loading gives a configuration exactly if nothing is wrong with the document and the names of its
entries differ; its settings and its checks are those that the parts of the document stand for, in
the order of these. An error other than a repeated name is the first fault, and says where it
arose. A repeated name is found exactly if nothing else is wrong and the names do not differ, and it
is the first one that occurs a second time. -/
theorem load_outcomes (base : Path) (read? : Path → Option String) (document : Document) :
    ((∃ config, load base read? document = .ok config) ↔
      document.faults base read? = [] ∧ document.names.Nodup) ∧
    (∀ config, load base read? document = .ok config →
      document.extraction.Means base config.extraction ∧
      List.Forall₂ (fun placed named => Fits base read? placed.entry named ∧
        named.check.kind = placed.entry.list ∧ named.check.Sound) document.entries config.checks ∧
      (config.checks.map (·.name)).Nodup) ∧
    (∀ error, (load base read? document = .error error ∧ ∀ name, error ≠ .duplicateName name) ↔
      Refuses base read? document error) ∧
    (∀ name, load base read? document = .error (.duplicateName name) ↔
      document.faults base read? = [] ∧ FirstRepeat document.names name) ∧
    ((∃ name, load base read? document = .error (.duplicateName name)) ↔
      document.faults base read? = [] ∧ ¬document.names.Nodup) := by
  rcases load_cases base read? document with
    ⟨config, hnone, hnodup, hsettings, hfits, hload⟩ | ⟨name, hnone, hrepeat, hload⟩ |
      ⟨error, hfirst, hload⟩
  · have hsound := hfits.imp fun placed named hnamed =>
      (⟨hnamed, hnamed.check.kind_eq, hnamed.check.sound⟩ : Fits base read? placed.entry named ∧
        named.check.kind = placed.entry.list ∧ named.check.Sound)
    have hchecks : (config.checks.map (·.name)).Nodup := map_name_of_fits hfits ▸ hnodup
    rw [hload]
    refine ⟨iff_of_true ⟨config, rfl⟩ ⟨hnone, hnodup⟩, ?_, fun error => ?_, fun name => ?_, ?_⟩
    · rintro _ ⟨⟩
      exact ⟨hsettings, hsound, hchecks⟩
    · exact iff_of_false nofun (not_refuses hnone error)
    · exact iff_of_false nofun fun h => h.2.not_nodup hnodup
    · exact iff_of_false nofun fun h => h.2 hnodup
  · have hnodup := hrepeat.not_nodup
    rw [hload]
    refine ⟨iff_of_false nofun fun h => hnodup h.2, nofun, fun error => ?_, fun other => ?_, ?_⟩
    · refine iff_of_false ?_ (not_refuses hnone error)
      rintro ⟨⟨⟩, hne⟩
      exact hne name rfl
    · rw [Except.error.injEq, LoadError.duplicateName.injEq]
      constructor
      · rintro rfl
        exact ⟨hnone, hrepeat⟩
      · exact fun h => hrepeat.unique h.2
    · exact iff_of_true ⟨name, rfl⟩ ⟨hnone, hnodup⟩
  · have hrefuses := refuses_iff.mpr hfirst
    have hfaults : document.faults base read? ≠ [] := by
      intro hnone
      rw [hnone] at hfirst
      cases hfirst
    rw [hload]
    refine ⟨iff_of_false nofun fun h => hfaults h.1, nofun, fun other => ?_, fun name => ?_, ?_⟩
    · rw [refuses_iff, hfirst, Except.error.injEq, Option.some.injEq, and_iff_left_iff_imp]
      rintro rfl
      exact hrefuses.ne_duplicateName
    · refine iff_of_false ?_ fun h => hfaults h.1
      rintro ⟨⟩
      exact hrefuses.ne_duplicateName name rfl
    · refine iff_of_false ?_ fun h => hfaults h.1
      rintro ⟨name, ⟨⟩⟩
      exact hrefuses.ne_duplicateName name rfl

/-- Of several faults the one that comes first in the document decides, whatever its kind, and names
are compared only if there are none. -/
theorem load_outcomes_first_fault :
    let cycles : CyclesEntry := { name := "layers", severity := "fatal" }
    let both : ExtractionEntry := { edges := some "e.json", project := some ".", exclude := [""] }
    load "." (fun _ => none) { extraction := both, cycles := [cycles] } =
        .error (.ambiguous "extraction" "edges" "project") ∧
      load "." (fun _ => none) { extraction := { exclude := ["*", ""] }, cycles := [cycles] } =
        .error (.pattern "extraction.exclude[1]" .empty) ∧
      load "." (fun _ => none)
          { cycles := [{ name := "layers" }, cycles]
            forbidden := [{ name := "layers", rules := [] }] } =
        .error (.unknownSeverity "cycles[1]" "fatal") ∧
      load "." (fun _ => none)
          { cycles := [{ name := "layers" }], forbidden := [{ name := "layers", rules := [] }] } =
        .error (.duplicateName "layers") := by
  intro cycles both
  refine ⟨?_, ?_, ?_, ?_⟩
  · exact (((load_outcomes _ _ _).2.2.1 _).mpr (.inl ⟨rfl, .of_context rfl⟩)).1
  · exact (((load_outcomes _ _ _).2.2.1 _).mpr (.inl ⟨by cbv, ".exclude[1]", rfl⟩)).1
  · have hcontext : Placed.context ⟨.cycles cycles, 1⟩ = "cycles[1]" := by cbv
    rw [← hcontext]
    refine (((load_outcomes _ _ _).2.2.1 _).mpr (.inr ?_)).1
    exact ⟨rfl, [⟨.cycles { name := "layers" }, 0⟩], ⟨.cycles cycles, 1⟩,
      [⟨.forbidden { name := "layers", rules := [] }, 0⟩], rfl, List.forall_mem_singleton.mpr rfl,
      rfl, .of_context rfl⟩
  · exact ((load_outcomes _ _ _).2.2.2.1 "layers").mpr
      ⟨rfl, ["layers"], [], rfl, List.nodup_singleton _, List.mem_singleton_self _⟩

end Config

end ImportRules
