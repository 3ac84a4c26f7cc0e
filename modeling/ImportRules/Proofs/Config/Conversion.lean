import ImportRules.Proofs.Config.Faults
/-!
# Converting entries

An entry without faults is converted to the check that it stands for, and an entry with faults is
refused for the first of them. This is shown part by part, from the words and patterns up to whole
entries.
-/

namespace ImportRules

namespace Config

/-! ## Patterns and words -/

theorem decides_readGlob (text : String) :
    Decides (globFaults text) (Glob.ofText text = .ok ·) (Pattern.readGlob text) := by
  unfold Pattern.readGlob globFaults
  by_cases hempty : text = ""
  · rw [if_pos (String.isEmpty_iff.mpr hempty), if_pos hempty]
    rfl
  · rw [if_neg (mt String.isEmpty_iff.mp hempty), if_neg hempty]
    cases hread : Glob.ofText text with
    | ok glob => exact ⟨rfl, rfl⟩
    | error fault => rfl

theorem decides_ofGlob (text : String) :
    Decides (globFaults text) (fun pattern => ∃ glob, Glob.ofText text = .ok glob ∧
      pattern = .glob glob) (Pattern.ofGlob text) :=
  (decides_readGlob text).map fun glob hglob => ⟨glob, hglob, rfl⟩

theorem decides_ofRegex (text : String) :
    Decides (regexFaults text)
      (fun pattern => ∃ parsed, Expression.ofText? text.toList = some parsed ∧
        pattern = .regex text parsed.automaton)
      (Pattern.ofRegex text) := by
  unfold Pattern.ofRegex regexFaults
  by_cases hempty : text = ""
  · rw [if_pos (String.isEmpty_iff.mpr hempty), if_pos hempty]
    rfl
  · rw [if_neg (mt String.isEmpty_iff.mp hempty), if_neg hempty]
    cases hread : Expression.ofText? text.toList with
    | some parsed => exact ⟨rfl, parsed, rfl, rfl⟩
    | none => rfl

theorem decides_sliceGlob (text : String) :
    Decides (sliceGlobFaults text) (SlicePattern.ofGlob text = .ok ·)
      (SlicePattern.ofGlob text) := by
  unfold sliceGlobFaults
  rcases SlicePattern.ofGlob_cases text with
    ⟨hempty, hread⟩ | ⟨hempty, paren, hstray, hread⟩ | ⟨hempty, hnone, hread⟩
  · rw [hread, if_pos hempty]
    rfl
  · rw [hread, if_neg hempty, hstray]
    rfl
  · rw [if_neg hempty, hnone, SliceGlob.ofText?_written]
    split at hread
    next hfound =>
      rw [hread]
      simp only [hfound, if_true, ne_eq, not_false_eq_true]
      rfl
    next hfound =>
      simp only [hfound, if_false]
      split at hread
      next hfits =>
        rw [hread]
        exact ⟨by simp [hfits], rfl⟩
      next hfits =>
        rw [hread]
        simp only [hfits]
        rfl

theorem decides_sliceRegex (text : String) :
    Decides (sliceRegexFaults text) (SlicePattern.ofRegex text = .ok ·)
      (SlicePattern.ofRegex text) := by
  unfold sliceRegexFaults regexFaults SlicePattern.ofRegex
  by_cases hempty : text = ""
  · rw [if_pos (String.isEmpty_iff.mpr hempty), if_pos hempty]
    rfl
  · rw [if_neg (mt String.isEmpty_iff.mp hempty), if_neg hempty]
    cases hread : Expression.ofText? text.toList with
    | none => rfl
    | some parsed =>
        by_cases hgroups : parsed.groupCount = 1
        · simp [hgroups, Decides]
        · simp [hgroups, hempty, Decides]

theorem decides_target (name : String) :
    Decides (wordFaults targetNames .unknownTarget name) (·.name = name) (Target.ofName name) := by
  unfold Target.ofName
  split
  case h_5 other hfilename hpath hdirectory hunit =>
    have hunknown : name ∉ targetNames := by
      simpa [targetNames] using ⟨hfilename, hpath, hdirectory, hunit⟩
    rw [wordFaults, if_neg hunknown]
    rfl
  all_goals exact ⟨rfl, rfl⟩

theorem decides_loadSeverity (context word : String) :
    Decides (severityFaults context word) (·.name = word) (loadSeverity context word) := by
  unfold loadSeverity Severity.ofName?
  split
  case h_1 severity hword =>
    split at hword <;> cases hword <;> exact ⟨rfl, rfl⟩
  case h_2 hword =>
    split at hword <;> try cases hword
    next herror hwarning hinfo =>
      have hunknown : word ∉ severityNames := by
        simpa [severityNames] using ⟨herror, hwarning, hinfo⟩
      rw [severityFaults, wordFaults, if_neg hunknown]
      rfl

theorem decides_loadMode (context word : String) :
    Decides (modeFaults context word) (·.name = word) (loadMode context word) := by
  unfold loadMode RuleMode.ofName?
  split
  case h_1 mode hword =>
    split at hword <;> cases hword <;> exact ⟨rfl, rfl⟩
  case h_2 hword =>
    split at hword <;> try cases hword
    next hshould hshouldNot =>
      have hunknown : word ∉ modeNames := by simpa [modeNames] using ⟨hshould, hshouldNot⟩
      rw [modeFaults, wordFaults, if_neg hunknown]
      rfl

/-! ## Parts of entries -/

theorem decides_loadEach {α β : Type} {load : String → α → Except LoadError β}
    {faults : String → α → List LoadError} {means : α → β → Prop}
    (hload : ∀ context entry, Decides (faults context entry) (means entry) (load context entry))
    (list : String) (entries : List α) :
    Decides (faultsOfEach list faults entries) (List.Forall₂ means entries)
      (loadEach list load entries) := by
  refine (Decides.mapM (fun placed : α × Nat => hload (place list placed.2) placed.1)
    entries.zipIdx).imp fun values hvalues => ?_
  rw [← List.zipIdx_map_fst 0 entries, List.forall₂_map_left_iff]
  exact hvalues

/-- Settings of which exactly one has to be there. -/
theorem decides_choice {α β γ : Type} {context first second : String} {left : Option α}
    {right : Option β} {ofLeft : α → List LoadError} {ofRight : β → List LoadError}
    {property : γ → Prop} {result : Except LoadError γ}
    (hleft : ∀ value, left = some value → right = none → Decides (ofLeft value) property result)
    (hright : ∀ value, left = none → right = some value → Decides (ofRight value) property result)
    (hneither : left.isSome = right.isSome → result = .error (.ambiguous context first second)) :
    Decides (choiceFaults context first second left right ofLeft ofRight) property result := by
  unfold choiceFaults
  split
  next heq =>
    rw [hneither heq]
    rfl
  next hne =>
    cases left with
    | none =>
        cases right with
        | none => exact absurd rfl hne
        | some value => simpa using hright value rfl rfl
    | some value =>
        cases right with
        | none => simpa using hleft value rfl rfl
        | some other => exact absurd rfl hne

/-- The pattern is the one that an entry has, written as a glob or as a regular expression. -/
def FilterEntry.HasPattern (entry : FilterEntry) (pattern : Pattern) : Prop :=
  (∃ text glob, entry.glob = some text ∧ Glob.ofText text = .ok glob ∧ pattern = .glob glob) ∨
    ∃ text parsed, entry.regex = some text ∧ Expression.ofText? text.toList = some parsed ∧
      pattern = .regex text parsed.automaton

/-- The filter that an entry stands for. -/
structure FilterEntry.Means (entry : FilterEntry) (filter : Filter) : Prop where
  pattern : entry.HasPattern filter.pattern
  target : filter.target.name = entry.target.getD "path"

theorem decides_loadPattern (context : String) (entry : FilterEntry) :
    Decides (choiceFaults context "glob" "regex" entry.glob entry.regex
        (fun glob => (globFaults glob).map (.pattern context))
        fun regex => (regexFaults regex).map (.pattern context))
      entry.HasPattern (loadPattern context entry) := by
  unfold loadPattern
  refine decides_choice ?_ ?_ ?_
  · intro text hglob hregex
    rw [hglob, hregex]
    refine ((decides_ofGlob text).mapError _).imp ?_
    rintro pattern ⟨glob, hread, hpattern⟩
    exact .inl ⟨text, glob, hglob, hread, hpattern⟩
  · intro text hglob hregex
    rw [hglob, hregex]
    refine ((decides_ofRegex text).mapError _).imp ?_
    rintro pattern ⟨parsed, hread, hpattern⟩
    exact .inr ⟨text, parsed, hregex, hread, hpattern⟩
  · intro heq
    split <;> simp_all

theorem decides_loadTarget (context : String) (entry : FilterEntry) :
    Decides ((wordFaults targetNames .unknownTarget (entry.target.getD "path")).map
        (.pattern context))
      (·.name = entry.target.getD "path") (loadTarget context entry) := by
  unfold loadTarget
  cases entry.target with
  | none => exact ⟨rfl, rfl⟩
  | some name => exact (decides_target name).mapError _

theorem decides_loadFilter (context : String) (entry : FilterEntry) :
    Decides (entry.faults context) entry.Means (loadFilter context entry) := by
  refine (decides_loadPattern context entry).bind fun pattern hpattern => ?_
  rw [← List.append_nil (List.map _ _)]
  exact (decides_loadTarget context entry).bind fun target htarget =>
    ⟨rfl, hpattern, htarget⟩

/-- The projection that an entry stands for. -/
def ProjectionEntry.Means : ProjectionEntry → Projection → Prop
  | .identity, projection => projection = .identity
  | .slices pattern regex, projection => ∃ slices, projection = .slices slices ∧
      ((∃ text, pattern = some text ∧ SlicePattern.ofGlob text = .ok slices) ∨
        ∃ text, regex = some text ∧ SlicePattern.ofRegex text = .ok slices)
  | .suffix groups, projection => groups ≠ [] ∧
      projection = .suffix (.ofEntries (groups.map fun entry => ⟨entry.1, entry.2⟩))

theorem decides_loadProjection (context : String) (entry : ProjectionEntry) :
    Decides (entry.faults context) entry.Means (loadProjection context entry) := by
  cases entry with
  | identity => exact ⟨rfl, rfl⟩
  | suffix groups =>
      cases groups with
      | nil => rfl
      | cons group groups => exact ⟨rfl, List.cons_ne_nil _ _, rfl⟩
  | slices pattern regex =>
      refine decides_choice ?_ ?_ ?_
      · rintro text rfl rfl
        exact ((decides_sliceGlob text).mapError _).map fun slices hslices =>
          ⟨slices, rfl, .inl ⟨text, rfl, hslices⟩⟩
      · rintro text rfl rfl
        exact ((decides_sliceRegex text).mapError _).map fun slices hslices =>
          ⟨slices, rfl, .inr ⟨text, rfl, hslices⟩⟩
      · intro heq
        cases pattern <;> cases regex <;> first | rfl | cases heq

/-- The settings that an entry stands for. -/
structure ExtractionEntry.Means (base : Path) (entry : ExtractionEntry)
    (settings : ExtractionSettings) : Prop where
  source : settings.source = (entry.edges.map fun edges => .edgeFile (base.join edges)).or
    (entry.project.map fun project => .project (base.join project))
  exclude : List.Forall₂ (fun text glob => Glob.ofText text = .ok glob) entry.exclude
    settings.exclude
  /-- Dots before an extension do not count. -/
  extensions : settings.extensions = entry.extensions.map fun extension =>
    String.ofList (extension.toList.dropWhile (· == '.'))

theorem decides_loadSource (base : Path) (entry : ExtractionEntry) :
    Decides (if entry.edges.isSome ∧ entry.project.isSome then
        [.ambiguous "extraction" "edges" "project"] else [])
      (· = (entry.edges.map fun edges => .edgeFile (base.join edges)).or
        (entry.project.map fun project => .project (base.join project)))
      (loadSource base entry) := by
  unfold loadSource
  cases entry.edges <;> cases entry.project <;> first | rfl | exact ⟨rfl, rfl⟩

theorem decides_loadExtraction (base : Path) (entry : ExtractionEntry) :
    Decides entry.faults (entry.Means base) (loadExtraction base entry) := by
  refine (decides_loadSource base entry).bind fun source hsource => ?_
  rw [← List.append_nil (faultsOfEach _ _ _)]
  refine (decides_loadEach (fun context text => (decides_readGlob text).mapError _) _
    entry.exclude).bind fun exclude hexclude => ?_
  exact ⟨rfl, hsource, hexclude, rfl⟩

/-! ## Entries -/

/-- The text is that of an entry, written in it or in the file that it names. -/
def DiagramEntry.HasText (base : Path) (read? : Path → Option String) (entry : DiagramEntry)
    (text : String) : Prop :=
  entry.text = some text ∨ ∃ file, entry.file = some file ∧ read? (base.join file) = some text

/-- The check that an entry stands for. `read?` gives the texts of files. -/
def Entry.Means (base : Path) (read? : Path → Option String) : Entry → Check → Prop
  | .cycles entry, check => ∃ projection, entry.projection.Means projection ∧
      check = .cycles ⟨projection, entry.ignoreExternal⟩ entry.maxCycles
  | .dependency entry, check => ∃ rule, check = .dependency rule ∧
      rule.mode.name = entry.mode ∧
      List.Forall₂ FilterEntry.Means entry.objects rule.objects ∧
      List.Forall₂ FilterEntry.Means entry.subjects rule.subjects ∧
      rule.allowEmpty = entry.allowEmpty ∧ rule.includeExternal = entry.includeExternal ∧
      (rule.objects ≠ [] ∨ rule.subjects ≠ [])
  | .diagram entry, check => ∃ text diagram projection, entry.HasText base read? text ∧
      Diagram.ofText text = .ok diagram ∧ entry.projection.Means projection ∧
      check = .diagram ⟨projection, entry.ignoreExternal⟩ ⟨diagram, entry.ignoreUnknown⟩
  | .forbidden entry, check => ∃ projection, entry.projection.Means projection ∧
      check = .forbidden ⟨projection, entry.ignoreExternal⟩
        ⟨entry.rules.map fun rule => ⟨rule.source, rule.target⟩⟩
  | .files entry, check => ∃ rule pattern, check = .files rule ∧
      List.Forall₂ FilterEntry.Means entry.objects rule.objects ∧
      entry.pattern.Means pattern ∧ rule.expectation = .fits pattern ∧
      rule.mode.name = entry.mode ∧ rule.allowEmpty = entry.allowEmpty

/-- What the check of an entry has from the entry. -/
structure Fits (base : Path) (read? : Path → Option String) (entry : Entry) (named : NamedCheck) :
    Prop where
  name : named.name = entry.name
  severity : named.severity.name = entry.severity
  check : entry.Means base read? named.check

theorem decides_loadProjectionOf (context : String) (entry : ProjectionEntry) :
    Decides (entry.faults (context ++ ".projection")) entry.Means
      (loadProjectionOf context entry) :=
  decides_loadProjection _ entry

/-- The severity of an entry is read last. -/
theorem decides_withSeverity {base : Path} {read? : Path → Option String} {context : String}
    (entry : Entry) {check : Check} (hcheck : entry.Means base read? check) :
    Decides (severityFaults context entry.severity) (Fits base read? entry)
      (do
        let severity ← loadSeverity context entry.severity
        .ok ⟨entry.name, severity, check⟩) := by
  rw [← List.append_nil (severityFaults _ _)]
  exact (decides_loadSeverity context entry.severity).bind fun severity hseverity =>
    ⟨rfl, rfl, hseverity, hcheck⟩

section Entries

variable (base : Path) (read? : Path → Option String) (context : String)

theorem decides_loadCycles (entry : CyclesEntry) :
    Decides (Entry.faults base read? context (.cycles entry)) (Fits base read? (.cycles entry))
      (loadCycles context entry) := by
  refine (decides_loadProjectionOf context entry.projection).bind fun projection hprojection => ?_
  exact decides_withSeverity (.cycles entry) ⟨projection, hprojection, rfl⟩

theorem decides_loadForbidden (entry : ForbiddenEntry) :
    Decides (Entry.faults base read? context (.forbidden entry))
      (Fits base read? (.forbidden entry)) (loadForbidden context entry) := by
  refine (decides_loadProjectionOf context entry.projection).bind fun projection hprojection => ?_
  exact decides_withSeverity (.forbidden entry) ⟨projection, hprojection, rfl⟩

/-- A dependency rule is refused if the entry has no filters at all. -/
theorem decides_createRule {entry : DependencyEntry} {mode : RuleMode}
    {objects subjects : List Filter} (hmode : mode.name = entry.mode)
    (hobjects : List.Forall₂ FilterEntry.Means entry.objects objects)
    (hsubjects : List.Forall₂ FilterEntry.Means entry.subjects subjects) :
    Decides (if entry.objects = [] ∧ entry.subjects = [] then [LoadError.rule context .noFilters]
        else [])
      (fun rule => Entry.Means base read? (.dependency entry) (.dependency rule))
      ((DependencyRule.create mode objects subjects entry.allowEmpty
        entry.includeExternal).mapError (LoadError.rule context)) := by
  have hnil : (entry.objects = [] ∧ entry.subjects = []) ↔ objects = [] ∧ subjects = [] := by
    simp only [← List.length_eq_zero_iff, hobjects.length_eq, hsubjects.length_eq]
  rw [DependencyRule.create]
  by_cases hfilters : objects = [] ∧ subjects = []
  · rw [if_pos (hnil.mpr hfilters), if_pos (by simp [hfilters])]
    rfl
  · rw [if_neg (mt hnil.mp hfilters), if_neg (by simpa using hfilters)]
    exact ⟨rfl, _, rfl, hmode, hobjects, hsubjects, rfl, rfl, not_and_or.mp hfilters⟩

theorem decides_loadDependency (entry : DependencyEntry) :
    Decides (Entry.faults base read? context (.dependency entry))
      (Fits base read? (.dependency entry)) (loadDependency context entry) := by
  simp only [Entry.faults, Entry.ownFaults, List.append_assoc]
  refine (decides_loadMode context entry.mode).bind fun mode hmode => ?_
  refine (decides_loadEach decides_loadFilter _ entry.objects).bind fun objects hobjects => ?_
  refine (decides_loadEach decides_loadFilter _ entry.subjects).bind fun subjects hsubjects => ?_
  refine (decides_createRule base read? context hmode hobjects hsubjects).bind fun rule hrule => ?_
  exact decides_withSeverity (.dependency entry) hrule

theorem decides_ofText (text : String) :
    Decides (diagramFaults context text) (Diagram.ofText text = .ok ·)
      ((Diagram.ofText text).mapError (.diagram context)) := by
  unfold diagramFaults
  cases Diagram.ofText text with
  | ok diagram => exact ⟨rfl, rfl⟩
  | error cause => rfl

theorem decides_readDiagram (entry : DiagramEntry) :
    Decides (choiceFaults context "file" "text" entry.file entry.text
        (fun file =>
          match read? (base.join file) with
          | some text => diagramFaults context text
          | none => [.diagramFile context (base.join file)])
        (diagramFaults context))
      (fun diagram => ∃ text, entry.HasText base read? text ∧ Diagram.ofText text = .ok diagram)
      (readDiagram base read? context entry) := by
  unfold readDiagram diagramText
  refine decides_choice ?_ ?_ ?_
  · intro file hfile htext
    rw [hfile, htext]
    cases hread : read? (base.join file) with
    | none =>
        simp only [hread]
        rfl
    | some text =>
        simp only [hread]
        exact (decides_ofText context text).imp fun diagram hdiagram =>
          ⟨text, .inr ⟨file, hfile, hread⟩, hdiagram⟩
  · intro text hfile htext
    rw [hfile, htext]
    exact (decides_ofText context text).imp fun diagram hdiagram => ⟨text, .inl htext, hdiagram⟩
  · intro heq
    cases hfile : entry.file <;> cases htext : entry.text <;> rw [hfile, htext] at heq <;>
      first | rfl | cases heq

theorem decides_loadDiagram (entry : DiagramEntry) :
    Decides (Entry.faults base read? context (.diagram entry))
      (Fits base read? (.diagram entry)) (loadDiagram base read? context entry) := by
  simp only [Entry.faults, Entry.ownFaults, List.append_assoc]
  refine (decides_readDiagram base read? context entry).bind ?_
  rintro diagram ⟨text, htext, hdiagram⟩
  refine (decides_loadProjectionOf context entry.projection).bind fun projection hprojection => ?_
  exact decides_withSeverity (.diagram entry)
    ⟨text, diagram, projection, htext, hdiagram, hprojection, rfl⟩

theorem decides_loadFiles (entry : FilesEntry) :
    Decides (Entry.faults base read? context (.files entry))
      (Fits base read? (.files entry)) (loadFiles context entry) := by
  simp only [Entry.faults, Entry.ownFaults, List.append_assoc]
  refine (decides_loadEach decides_loadFilter _ entry.objects).bind fun objects hobjects => ?_
  refine (decides_loadFilter _ entry.pattern).bind fun pattern hpattern => ?_
  refine (decides_loadMode context entry.mode).bind fun mode hmode => ?_
  have hcreate : FileRule.create objects mode (.fits pattern) entry.allowEmpty =
      .ok ⟨objects, mode, .fits pattern, entry.allowEmpty⟩ := by
    cases objects <;> rfl
  rw [hcreate]
  exact decides_withSeverity (.files entry) ⟨_, pattern, rfl, hobjects, hpattern, rfl, hmode, rfl⟩

end Entries

end Config

end ImportRules
