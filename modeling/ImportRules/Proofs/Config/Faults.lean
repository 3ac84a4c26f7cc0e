import ImportRules.Config.Loader
import ImportRules.Proofs.FirstError
import ImportRules.Proofs.SliceGrammar
import ImportRules.Proofs.SliceGroup
/-!
# What is wrong with a document

Each part of a document is judged by itself. The faults of an entry are those of its parts, one
after the other, whether or not an earlier part is at fault already. An entry without faults stands
for a check, which has each setting from the part of the entry that it was written in. Loading an
entry gives this check, or else the first fault.
-/

namespace ImportRules

/-- The error arose in the given place or in a part of it. -/
def LoadError.Within (context : String) (error : LoadError) : Prop :=
  ∃ rest, error.context? = some (context ++ rest)

namespace LoadError.Within

variable {context part : String} {error : LoadError}

theorem of_context (hcontext : error.context? = some context) : error.Within context :=
  ⟨"", by rw [hcontext, String.append_empty]⟩

theorem of_part (hwithin : error.Within (context ++ part)) : error.Within context := by
  obtain ⟨rest, hrest⟩ := hwithin
  exact ⟨part ++ rest, by rw [hrest, String.append_assoc]⟩

end LoadError.Within

namespace Config

/-! ## Faults of patterns and words -/

/-- The fault of a word that is not among those that are known. -/
def wordFaults {ε : Type} (known : List String) (fault : String → ε) (word : String) : List ε :=
  if word ∈ known then [] else [fault word]

def globFaults (text : String) : List PatternError :=
  if text = "" then [.empty]
  else
    match Glob.ofText text with
    | .ok _ => []
    | .error fault => [.invalidGlob text fault.message]

def regexFaults (text : String) : List PatternError :=
  if text = "" then [.empty]
  else if (Expression.ofText? text.toList).isSome then []
  else [.invalidRegex text]

/-- The faults of a slice pattern that is a glob. They depend on its lexemes alone. -/
def sliceGlobFaults (text : String) : List PatternError :=
  let lexemes := SliceGlob.lexemes text.toList
  let found := lexemes.countP SliceGlob.isCaptureLexeme
  let parts := lexemes.map SliceGlob.Token.ofLexeme
  if text = "" then [.empty]
  else
    match lexemes.find? SliceGlob.isStray with
    | some paren =>
        [.invalidGlob text s!"`{String.ofList paren}` is only allowed in `(*)` or `(**)`"]
    | none =>
        if found ≠ 1 then [.captureGroups text found]
        else if (Expression.ofText? (SliceGlob.written parts)).isSome then []
        else [.invalidGlob text SliceGlob.tooLarge]

/-- The faults of a slice pattern that is a regular expression. -/
def sliceRegexFaults (text : String) : List PatternError :=
  regexFaults text ++ (Expression.ofText? text.toList).toList.flatMap fun parsed =>
    if text ≠ "" ∧ parsed.groupCount ≠ 1 then [.captureGroups text parsed.groupCount] else []

/-! ## Faults of entries -/

def severityNames : List String :=
  ["error", "warning", "info"]

def modeNames : List String :=
  ["should", "should-not"]

def targetNames : List String :=
  ["filename", "path", "directory", "unit"]

/-- The faults of two settings of which exactly one has to be there: that this is not so, or those
of the one that is there. -/
def choiceFaults {α β : Type} (context first second : String) (left : Option α) (right : Option β)
    (ofLeft : α → List LoadError) (ofRight : β → List LoadError) : List LoadError :=
  if left.isSome = right.isSome then [.ambiguous context first second]
  else left.toList.flatMap ofLeft ++ right.toList.flatMap ofRight

/-- The faults of the entries of a list, each of which is told where it stands. -/
def faultsOfEach {α : Type} (list : String) (faults : String → α → List LoadError)
    (entries : List α) : List LoadError :=
  entries.zipIdx.flatMap fun (entry, index) => faults (place list index) entry

def severityFaults (context word : String) : List LoadError :=
  wordFaults severityNames (.unknownSeverity context) word

def modeFaults (context word : String) : List LoadError :=
  wordFaults modeNames (.unknownMode context) word

def FilterEntry.faults (context : String) (entry : FilterEntry) : List LoadError :=
  choiceFaults context "glob" "regex" entry.glob entry.regex
      (fun glob => (globFaults glob).map (.pattern context))
      (fun regex => (regexFaults regex).map (.pattern context)) ++
    (wordFaults targetNames .unknownTarget (entry.target.getD "path")).map (.pattern context)

def ProjectionEntry.faults (context : String) : ProjectionEntry → List LoadError
  | .identity => []
  | .slices pattern regex =>
      choiceFaults context "pattern" "regex" pattern regex
        (fun pattern => (sliceGlobFaults pattern).map (.pattern context))
        (fun regex => (sliceRegexFaults regex).map (.pattern context))
  | .suffix groups => if groups = [] then [.emptySuffixTable context] else []

def ExtractionEntry.faults (entry : ExtractionEntry) : List LoadError :=
  (if entry.edges.isSome ∧ entry.project.isSome then
    [.ambiguous "extraction" "edges" "project"] else []) ++
    faultsOfEach "extraction.exclude"
      (fun context glob => (globFaults glob).map (.pattern context)) entry.exclude

/-- The faults of the text of a diagram. -/
def diagramFaults (context text : String) : List LoadError :=
  match Diagram.ofText text with
  | .ok _ => []
  | .error cause => [.diagram context cause]

/-- An entry of any of the lists of a document. -/
inductive Entry where
  | cycles (entry : CyclesEntry)
  | dependency (entry : DependencyEntry)
  | diagram (entry : DiagramEntry)
  | forbidden (entry : ForbiddenEntry)
  | files (entry : FilesEntry)

namespace Entry

/-- The list that an entry stands in. -/
def list : Entry → String
  | .cycles _ => "cycles"
  | .dependency _ => "dependency"
  | .diagram _ => "diagram"
  | .forbidden _ => "forbidden"
  | .files _ => "files"

def name : Entry → String
  | .cycles entry => entry.name
  | .dependency entry => entry.name
  | .diagram entry => entry.name
  | .forbidden entry => entry.name
  | .files entry => entry.name

def severity : Entry → String
  | .cycles entry => entry.severity
  | .dependency entry => entry.severity
  | .diagram entry => entry.severity
  | .forbidden entry => entry.severity
  | .files entry => entry.severity

/-- The faults of an entry apart from its severity. -/
def ownFaults (base : Path) (read? : Path → Option String) (context : String) :
    Entry → List LoadError
  | .cycles entry => entry.projection.faults (context ++ ".projection")
  | .dependency entry =>
      modeFaults context entry.mode ++
        faultsOfEach (context ++ ".objects") FilterEntry.faults entry.objects ++
        faultsOfEach (context ++ ".subjects") FilterEntry.faults entry.subjects ++
        if entry.objects = [] ∧ entry.subjects = [] then [.rule context .noFilters] else []
  | .diagram entry =>
      choiceFaults context "file" "text" entry.file entry.text
          (fun file =>
            match read? (base.join file) with
            | some text => diagramFaults context text
            | none => [.diagramFile context (base.join file)])
          (diagramFaults context) ++
        entry.projection.faults (context ++ ".projection")
  | .forbidden entry => entry.projection.faults (context ++ ".projection")
  | .files entry =>
      faultsOfEach (context ++ ".objects") FilterEntry.faults entry.objects ++
        entry.pattern.faults (context ++ ".pattern") ++ modeFaults context entry.mode

/-- All that is wrong with an entry. The severity comes last. -/
def faults (base : Path) (read? : Path → Option String) (context : String) (entry : Entry) :
    List LoadError :=
  entry.ownFaults base read? context ++ severityFaults context entry.severity

end Entry

/-! ## Faults say where they arose -/

/-- All faults arose in a given place. -/
def AllWithin (context : String) (faults : List LoadError) : Prop :=
  ∀ fault ∈ faults, fault.Within context

namespace AllWithin

variable {context part : String} {faults others : List LoadError}

theorem append (hfaults : AllWithin context faults) (hothers : AllWithin context others) :
    AllWithin context (faults ++ others) :=
  List.forall_mem_append.mpr ⟨hfaults, hothers⟩

theorem of_part (hfaults : AllWithin (context ++ part) faults) : AllWithin context faults :=
  fun fault hfault => (hfaults fault hfault).of_part

theorem of_contexts (hfaults : ∀ fault ∈ faults, fault.context? = some context) :
    AllWithin context faults :=
  fun fault hfault => .of_context (hfaults fault hfault)

theorem map {ε : Type} {toFault : ε → LoadError}
    (hplace : ∀ cause, (toFault cause).context? = some context) (causes : List ε) :
    AllWithin context (causes.map toFault) :=
  of_contexts (List.forall_mem_map.mpr fun cause _ => hplace cause)

theorem single {fault : LoadError} (hplace : fault.context? = some context) :
    AllWithin context [fault] :=
  of_contexts (List.forall_mem_singleton.mpr hplace)

theorem nil : AllWithin context [] :=
  List.forall_mem_nil _

theorem conditional {fault : LoadError} (condition : Prop) [Decidable condition]
    (hplace : fault.context? = some context) :
    AllWithin context (if condition then [fault] else []) := by
  split
  · exact single hplace
  · exact nil

theorem word (known : List String) {toFault : String → LoadError}
    (hplace : ∀ word, (toFault word).context? = some context) (word : String) :
    AllWithin context (wordFaults known toFault word) := by
  unfold wordFaults
  split
  · exact nil
  · exact single (hplace word)

theorem choice {α β : Type} {first second : String} {left : Option α} {right : Option β}
    {ofLeft : α → List LoadError} {ofRight : β → List LoadError}
    (hleft : ∀ value, AllWithin context (ofLeft value))
    (hright : ∀ value, AllWithin context (ofRight value)) :
    AllWithin context (choiceFaults context first second left right ofLeft ofRight) := by
  unfold choiceFaults
  split
  · exact single rfl
  · refine append ?_ ?_ <;> intro fault hfault <;>
      obtain ⟨value, -, hvalue⟩ := List.mem_flatMap.mp hfault
    · exact hleft value fault hvalue
    · exact hright value fault hvalue

theorem each {α : Type} {faults : String → α → List LoadError}
    (hfaults : ∀ context entry, AllWithin context (faults context entry)) (entries : List α) :
    AllWithin context (faultsOfEach context faults entries) := by
  intro fault hfault
  obtain ⟨⟨entry, index⟩, -, hentry⟩ := List.mem_flatMap.mp hfault
  have hplace : place context index = context ++ ("[" ++ toString index ++ "]") := by
    simp only [place, String.append_assoc]
    rfl
  have hwithin := hfaults _ entry fault hentry
  rw [hplace] at hwithin
  exact hwithin.of_part

end AllWithin

theorem FilterEntry.allWithin_faults (context : String) (entry : FilterEntry) :
    AllWithin context (entry.faults context) :=
  .append (.choice (fun _ => .map (fun _ => rfl) _) fun _ => .map (fun _ => rfl) _)
    (.map (fun _ => rfl) _)

theorem ProjectionEntry.allWithin_faults (context : String) (entry : ProjectionEntry) :
    AllWithin context (entry.faults context) := by
  cases entry with
  | identity => exact .nil
  | slices pattern regex =>
      exact .choice (fun _ => .map (fun _ => rfl) _) fun _ => .map (fun _ => rfl) _
  | suffix groups => exact .conditional _ rfl

theorem ExtractionEntry.allWithin_faults (entry : ExtractionEntry) :
    AllWithin "extraction" entry.faults := by
  have hglob : ∀ (context glob : String),
      AllWithin context ((globFaults glob).map (LoadError.pattern context)) :=
    fun _ _ => .map (fun _ => rfl) _
  have hexclude : AllWithin ("extraction" ++ ".exclude") _ := .each hglob entry.exclude
  exact .append (.conditional _ rfl) hexclude.of_part

theorem allWithin_diagramFaults (context text : String) :
    AllWithin context (diagramFaults context text) := by
  unfold diagramFaults
  split
  · exact .nil
  · exact .single rfl

theorem Entry.allWithin_faults (base : Path) (read? : Path → Option String) (context : String)
    (entry : Entry) : AllWithin context (entry.faults base read? context) := by
  refine .append ?_ (.word _ (fun _ => rfl) _)
  cases entry with
  | cycles entry => exact (ProjectionEntry.allWithin_faults _ entry.projection).of_part
  | forbidden entry => exact (ProjectionEntry.allWithin_faults _ entry.projection).of_part
  | dependency entry =>
      refine .append (.append (.append (.word _ (fun _ => rfl) _) ?_) ?_) (.conditional _ rfl)
      · exact (AllWithin.each FilterEntry.allWithin_faults entry.objects).of_part
      · exact (AllWithin.each FilterEntry.allWithin_faults entry.subjects).of_part
  | diagram entry =>
      refine .append (.choice (fun file => ?_) (allWithin_diagramFaults context))
        (ProjectionEntry.allWithin_faults _ entry.projection).of_part
      split
      · exact allWithin_diagramFaults context _
      · exact .single rfl
  | files entry =>
      refine .append (.append ?_ ?_) (.word _ (fun _ => rfl) _)
      · exact (AllWithin.each FilterEntry.allWithin_faults entry.objects).of_part
      · exact (FilterEntry.allWithin_faults _ entry.pattern).of_part

end Config

end ImportRules
