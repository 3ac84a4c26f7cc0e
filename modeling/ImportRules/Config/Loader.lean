import ImportRules.Config.Basic
import ImportRules.Config.Decode
import ImportRules.Diagram.Reader
/-!
# Loading a configuration

The entries of a document are turned into checks in the order cycles, dependency, diagram,
forbidden, files. The first entry that cannot be turned into a check decides the error, which says
where in the document it arose. Names of checks must differ.
-/

namespace ImportRules

/-- Why the entries of a document make no configuration. -/
inductive LoadError where
  | pattern (context : String) (cause : PatternError)
  | rule (context : String) (cause : RuleError)
  | diagram (context : String) (cause : DiagramError)
  | diagramFile (context : String) (path : Path)
  /-- Exactly one of two settings has to be there. -/
  | ambiguous (context first second : String)
  | emptySuffixTable (context : String)
  | unknownSeverity (context word : String)
  | unknownMode (context word : String)
  | duplicateName (name : String)
  deriving DecidableEq, Repr

namespace LoadError

def message : LoadError → String
  | .pattern context cause => s!"{context}: {cause.message}"
  | .rule context cause => s!"{context}: {cause.message}"
  | .diagram context _ => s!"{context}: invalid diagram"
  | .diagramFile context path => s!"{context}: cannot read diagram file {path}"
  | .ambiguous context first second =>
      s!"{context}: exactly one of `{first}` or `{second}` must be set"
  | .emptySuffixTable context => s!"{context}: suffix projection needs at least one group"
  | .unknownSeverity context word =>
      s!"{context}: unknown severity `{word}`, expected: error, warning, info"
  | .unknownMode context word =>
      s!"{context}: unknown mode `{word}`, expected: should, should-not"
  | .duplicateName name => s!"duplicate check name `{name}`"

/-- Where in the document an error arose. -/
def context? : LoadError → Option String
  | .pattern context _ | .rule context _ | .diagram context _ | .diagramFile context _
  | .ambiguous context _ _ | .emptySuffixTable context | .unknownSeverity context _
  | .unknownMode context _ => some context
  | .duplicateName _ => none

end LoadError

namespace Config

/-- Where in a list something stands. -/
def place (list : String) (index : Nat) : String :=
  s!"{list}[{index}]"

/-- Turns the entries of a list into something one after the other, and tells each where it
stands. -/
def loadEach {α β : Type} (list : String) (load : String → α → Except LoadError β)
    (entries : List α) : Except LoadError (List β) :=
  entries.zipIdx.mapM fun (entry, index) => load (place list index) entry

/-- Says where a pattern stands that is refused. -/
def patternAt {α : Type} (context : String) (result : Except PatternError α) :
    Except LoadError α :=
  result.mapError (.pattern context)

def loadSeverity (context word : String) : Except LoadError Severity :=
  match Severity.ofName? word with
  | some severity => .ok severity
  | none => .error (.unknownSeverity context word)

def loadMode (context word : String) : Except LoadError RuleMode :=
  match RuleMode.ofName? word with
  | some mode => .ok mode
  | none => .error (.unknownMode context word)

def loadPattern (context : String) (entry : FilterEntry) : Except LoadError Pattern :=
  match entry.glob, entry.regex with
  | some glob, none => patternAt context (Pattern.ofGlob glob)
  | none, some regex => patternAt context (Pattern.ofRegex regex)
  | _, _ => .error (.ambiguous context "glob" "regex")

def loadTarget (context : String) (entry : FilterEntry) : Except LoadError Target :=
  match entry.target with
  | some name => patternAt context (Target.ofName name)
  | none => .ok .path

def loadFilter (context : String) (entry : FilterEntry) : Except LoadError Filter := do
  let pattern ← loadPattern context entry
  let target ← loadTarget context entry
  .ok ⟨pattern, target⟩

def loadProjection (context : String) : ProjectionEntry → Except LoadError Projection
  | .identity => .ok .identity
  | .slices (some pattern) none =>
      (patternAt context (SlicePattern.ofGlob pattern)).map .slices
  | .slices none (some regex) => (patternAt context (SlicePattern.ofRegex regex)).map .slices
  | .slices _ _ => .error (.ambiguous context "pattern" "regex")
  | .suffix groups =>
      if groups.isEmpty then .error (.emptySuffixTable context)
      else .ok (.suffix (SuffixTable.ofEntries (groups.map fun (suffix, group) => ⟨suffix, group⟩)))

/-- The projection of the entry at a given place. -/
def loadProjectionOf (context : String) (entry : ProjectionEntry) : Except LoadError Projection :=
  loadProjection s!"{context}.projection" entry

/-- Where edges come from. -/
def loadSource (base : Path) (entry : ExtractionEntry) : Except LoadError (Option EdgeSource) :=
  match entry.edges, entry.project with
  | some _, some _ => .error (.ambiguous "extraction" "edges" "project")
  | some edges, none => .ok (some (.edgeFile (base.join edges)))
  | none, some project => .ok (some (.project (base.join project)))
  | none, none => .ok none

def loadExtraction (base : Path) (entry : ExtractionEntry) :
    Except LoadError ExtractionSettings := do
  let source ← loadSource base entry
  let exclude ← loadEach "extraction.exclude"
    (fun context pattern => patternAt context (Pattern.readGlob pattern)) entry.exclude
  let extensions := entry.extensions.map fun extension =>
    String.ofList (extension.toList.dropWhile (· == '.'))
  .ok { source, exclude, extensions }

def loadCycles (context : String) (entry : CyclesEntry) : Except LoadError NamedCheck := do
  let projection ← loadProjectionOf context entry.projection
  let severity ← loadSeverity context entry.severity
  .ok ⟨entry.name, severity, .cycles ⟨projection, entry.ignoreExternal⟩ entry.maxCycles⟩

def loadDependency (context : String) (entry : DependencyEntry) :
    Except LoadError NamedCheck := do
  let mode ← loadMode context entry.mode
  let objects ← loadEach s!"{context}.objects" loadFilter entry.objects
  let subjects ← loadEach s!"{context}.subjects" loadFilter entry.subjects
  let rule ← (DependencyRule.create mode objects subjects entry.allowEmpty
    entry.includeExternal).mapError (.rule context)
  let severity ← loadSeverity context entry.severity
  .ok ⟨entry.name, severity, .dependency rule⟩

/-- The text of a diagram, which stands in the entry or in a file. `read?` gives the text of a
file, `none` if it cannot be read. -/
def diagramText (base : Path) (read? : Path → Option String) (context : String)
    (entry : DiagramEntry) : Except LoadError String :=
  match entry.file, entry.text with
  | some file, none =>
      let path := base.join file
      match read? path with
      | some text => .ok text
      | none => .error (.diagramFile context path)
  | none, some text => .ok text
  | _, _ => .error (.ambiguous context "file" "text")

/-- The diagram of an entry. -/
def readDiagram (base : Path) (read? : Path → Option String) (context : String)
    (entry : DiagramEntry) : Except LoadError Diagram := do
  let text ← diagramText base read? context entry
  (Diagram.ofText text).mapError (.diagram context)

def loadDiagram (base : Path) (read? : Path → Option String) (context : String)
    (entry : DiagramEntry) : Except LoadError NamedCheck := do
  let diagram ← readDiagram base read? context entry
  let projection ← loadProjectionOf context entry.projection
  let severity ← loadSeverity context entry.severity
  .ok ⟨entry.name, severity,
    .diagram ⟨projection, entry.ignoreExternal⟩ ⟨diagram, entry.ignoreUnknown⟩⟩

def loadForbidden (context : String) (entry : ForbiddenEntry) : Except LoadError NamedCheck := do
  let projection ← loadProjectionOf context entry.projection
  let severity ← loadSeverity context entry.severity
  let relations := entry.rules.map fun rule => ⟨rule.source, rule.target⟩
  .ok ⟨entry.name, severity, .forbidden ⟨projection, entry.ignoreExternal⟩ ⟨relations⟩⟩

def loadFiles (context : String) (entry : FilesEntry) : Except LoadError NamedCheck := do
  let objects ← loadEach s!"{context}.objects" loadFilter entry.objects
  let pattern ← loadFilter s!"{context}.pattern" entry.pattern
  let mode ← loadMode context entry.mode
  let rule ← (FileRule.create objects mode (.fits pattern) entry.allowEmpty).mapError
    (.rule context)
  let severity ← loadSeverity context entry.severity
  .ok ⟨entry.name, severity, .files rule⟩

/-- The first name that occurs a second time. -/
def repeatedName? (seen : List String) : List NamedCheck → Option String
  | [] => none
  | named :: rest =>
      if seen.contains named.name then some named.name
      else repeatedName? (named.name :: seen) rest

/-- The checks of a document. -/
def loadChecks (base : Path) (read? : Path → Option String) (document : Document) :
    Except LoadError (List NamedCheck) := do
  let cycles ← loadEach "cycles" loadCycles document.cycles
  let dependency ← loadEach "dependency" loadDependency document.dependency
  let diagram ← loadEach "diagram" (loadDiagram base read?) document.diagram
  let forbidden ← loadEach "forbidden" loadForbidden document.forbidden
  let files ← loadEach "files" loadFiles document.files
  .ok (cycles ++ dependency ++ diagram ++ forbidden ++ files)

/-- The configuration that a document describes. Paths in it are taken from a base directory. -/
def load (base : Path) (read? : Path → Option String) (document : Document) :
    Except LoadError Config := do
  let extraction ← loadExtraction base document.extraction
  let checks ← loadChecks base read? document
  match repeatedName? [] checks with
  | some name => .error (.duplicateName name)
  | none => .ok { extraction, checks }

end Config

/-- Why there is no configuration. -/
inductive ConfigError where
  | unreadable (path : Path)
  /-- The file is no TOML document, or not one of the records that make up a configuration. -/
  | malformed
  | invalid (cause : LoadError)
  deriving DecidableEq, Repr

namespace Config

/-- The configuration in a text. -/
def ofText (base : Path) (read? : Path → Option String) (text : String) :
    Except ConfigError Config :=
  match Document.ofText? text with
  | none => .error .malformed
  | some document => (load base read? document).mapError .invalid

/-- The configuration in a file. Paths in it are taken from the directory of the file. -/
def ofFile (read? : Path → Option String) (path : Path) : Except ConfigError Config :=
  match read? path with
  | none => .error (.unreadable path)
  | some text => ofText path.parent read? text

end Config

end ImportRules
