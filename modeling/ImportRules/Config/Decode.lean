import ImportRules.Config.Document
import ImportRules.Toml.Reader
/-!
# Reading a configuration file

A configuration file is a TOML document of records. The fields of a record are listed here in
their declared order, since a record may also be written as the list of its fields.
-/

namespace ImportRules.Config

open Record (required? withDefault? leadingFields?)

/-- A text that may be missing. -/
def optionalText? : Option Toml → Option (Option String) :=
  withDefault? none fun value => value.text?.map some

/-- A switch with a default. -/
def switch? (default : Bool) : Option Toml → Option Bool :=
  withDefault? default Toml.bool?

/-- A severity word. -/
def severityWord? : Option Toml → Option String :=
  withDefault? "error" Toml.text?

/-- A list of records that may be missing. -/
def optionalList? {α : Type} (read? : Toml → Option α) : Option Toml → Option (List α) :=
  withDefault? [] (Toml.list? read?)

namespace ProjectionEntry

/-- The fields of a projection of a given kind. Here a list must not be too long. -/
def ofFields? (kind : String) (fields : Record.Written Toml) : Option ProjectionEntry :=
  match kind with
  | "identity" => (Record.fields? [] fields).map fun _ => .identity
  | "slices" =>
      match Record.fields? ["pattern", "regex"] fields with
      | some [pattern, regex] => do some (.slices (← optionalText? pattern) (← optionalText? regex))
      | _ => none
  | "suffix" =>
      match Record.fields? ["groups"] fields with
      | some [groups] => (required? (Toml.entries? Toml.text?) groups).map .suffix
      | _ => none
  | _ => none

/-- A projection names its kind under `kind`, or first if it is written as a list. -/
def ofToml? (value : Toml) : Option ProjectionEntry :=
  match value.written with
  | .members entries =>
      match Record.member? entries "kind" with
      | some (some kind) => do ofFields? (← kind.text?) (.members entries)
      | _ => none
  | .elements (kind :: fields) => do ofFields? (← kind.text?) (.elements fields)
  | _ => none

end ProjectionEntry

/-- A projection that may be missing. -/
def optionalProjection? : Option Toml → Option ProjectionEntry :=
  withDefault? .identity ProjectionEntry.ofToml?

def ExtractionEntry.ofToml? (value : Toml) : Option ExtractionEntry :=
  match leadingFields? ["edges", "project", "exclude", "extensions"] value.written with
  | some [edges, project, exclude, extensions] => do
      some
        { edges := ← optionalText? edges
          project := ← optionalText? project
          exclude := ← optionalList? Toml.text? exclude
          extensions := ← optionalList? Toml.text? extensions }
  | _ => none

def FilterEntry.ofToml? (value : Toml) : Option FilterEntry :=
  match leadingFields? ["glob", "regex", "target"] value.written with
  | some [glob, regex, target] => do
      some
        { glob := ← optionalText? glob
          regex := ← optionalText? regex
          target := ← optionalText? target }
  | _ => none

def CyclesEntry.ofToml? (value : Toml) : Option CyclesEntry :=
  match leadingFields? ["name", "projection", "ignore_external", "max_cycles", "severity"]
      value.written with
  | some [name, projection, ignoreExternal, maxCycles, severity] => do
      some
        { name := ← required? Toml.text? name
          projection := ← optionalProjection? projection
          ignoreExternal := ← switch? true ignoreExternal
          maxCycles := ← withDefault? none (fun value => value.nat?.map some) maxCycles
          severity := ← severityWord? severity }
  | _ => none

def DependencyEntry.ofToml? (value : Toml) : Option DependencyEntry :=
  match leadingFields?
      ["name", "mode", "objects", "subjects", "allow_empty", "include_external", "severity"]
      value.written with
  | some [name, mode, objects, subjects, allowEmpty, includeExternal, severity] => do
      some
        { name := ← required? Toml.text? name
          mode := ← required? Toml.text? mode
          objects := ← optionalList? FilterEntry.ofToml? objects
          subjects := ← optionalList? FilterEntry.ofToml? subjects
          allowEmpty := ← switch? false allowEmpty
          includeExternal := ← switch? false includeExternal
          severity := ← severityWord? severity }
  | _ => none

def DiagramEntry.ofToml? (value : Toml) : Option DiagramEntry :=
  match leadingFields?
      ["name", "projection", "file", "text", "ignore_unknown_nodes", "ignore_external", "severity"]
      value.written with
  | some [name, projection, file, text, ignoreUnknown, ignoreExternal, severity] => do
      some
        { name := ← required? Toml.text? name
          projection := ← optionalProjection? projection
          file := ← optionalText? file
          text := ← optionalText? text
          ignoreUnknown := ← switch? false ignoreUnknown
          ignoreExternal := ← switch? true ignoreExternal
          severity := ← severityWord? severity }
  | _ => none

def RelationEntry.ofToml? (value : Toml) : Option RelationEntry :=
  match leadingFields? ["from", "to"] value.written with
  | some [source, target] => do
      some ⟨← required? Toml.text? source, ← required? Toml.text? target⟩
  | _ => none

def ForbiddenEntry.ofToml? (value : Toml) : Option ForbiddenEntry :=
  match leadingFields? ["name", "projection", "rules", "ignore_external", "severity"]
      value.written with
  | some [name, projection, rules, ignoreExternal, severity] => do
      some
        { name := ← required? Toml.text? name
          projection := ← optionalProjection? projection
          rules := ← required? (Toml.list? RelationEntry.ofToml?) rules
          ignoreExternal := ← switch? true ignoreExternal
          severity := ← severityWord? severity }
  | _ => none

def FilesEntry.ofToml? (value : Toml) : Option FilesEntry :=
  match leadingFields? ["name", "objects", "mode", "pattern", "allow_empty", "severity"]
      value.written with
  | some [name, objects, mode, pattern, allowEmpty, severity] => do
      some
        { name := ← required? Toml.text? name
          objects := ← optionalList? FilterEntry.ofToml? objects
          mode := ← withDefault? "should" Toml.text? mode
          pattern := ← required? FilterEntry.ofToml? pattern
          allowEmpty := ← switch? false allowEmpty
          severity := ← severityWord? severity }
  | _ => none

namespace Document

def ofToml? (value : Toml) : Option Document :=
  match leadingFields? ["extraction", "cycles", "dependency", "diagram", "forbidden", "files"]
      value.written with
  | some [extraction, cycles, dependency, diagram, forbidden, files] => do
      some
        { extraction := ← withDefault? {} ExtractionEntry.ofToml? extraction
          cycles := ← optionalList? CyclesEntry.ofToml? cycles
          dependency := ← optionalList? DependencyEntry.ofToml? dependency
          diagram := ← optionalList? DiagramEntry.ofToml? diagram
          forbidden := ← optionalList? ForbiddenEntry.ofToml? forbidden
          files := ← optionalList? FilesEntry.ofToml? files }
  | _ => none

/-- The document that a text spells. -/
def ofText? (text : String) : Option Document :=
  (Toml.ofText? text.toList).bind ofToml?

end Document

end ImportRules.Config
