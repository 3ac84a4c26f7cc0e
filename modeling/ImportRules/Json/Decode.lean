import ImportRules.Edge
import ImportRules.Json.Reader
import ImportRules.Record
/-!
# Reading data from JSON

Readers of the values that JSON files hold: texts, lists, records, and the edges of an edge file.
-/

namespace ImportRules.Json

/-- A value seen as a possible record. -/
def written : Json → Record.Written Json
  | .object members => .members members
  | .array items => .elements items
  | _ => .other

def text? : Json → Option String
  | .string text => some text
  | _ => none

def bool? : Json → Option Bool
  | .bool value => some value
  | _ => none

/-- A list whose items are all read in the same way. -/
def list? {α : Type} (read? : Json → Option α) : Json → Option (List α)
  | .array items => items.mapM read?
  | _ => none

/-- A value that may be null. -/
def nullable? {α : Type} (read? : Json → Option α) : Json → Option (Option α)
  | .null => some none
  | value => (read? value).map some

/-- An import kind, as its name or as an object that maps the name to null. -/
def importKind? : Json → Option ImportKind
  | .string name => ImportKind.ofName? name
  | .object [(name, .null)] => ImportKind.ofName? name
  | _ => none

/-- An edge of an edge file. -/
def edge? (value : Json) : Option Edge :=
  match Record.fields? ["source", "target", "external", "importKinds"] value.written with
  | some [source, target, external, kinds] => do
      some
        { source := ← Record.required? text? source
          target := ← Record.required? text? target
          external := ← Record.withDefault? false bool? external
          kinds := ← Record.withDefault? [] (list? importKind?) kinds }
  | _ => none

/-- The edges of an edge file. -/
def edges? (text : String) : Option (List Edge) :=
  (ofText? text.toList).bind (list? edge?)

end ImportRules.Json
