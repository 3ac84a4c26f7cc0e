/-!
# Records in data formats

A record with named fields is written as a map from names to values, or as the list of its fields
in their declared order. In a map, unknown names are passed over and a declared name must not
repeat. In a list, fields at the end may be missing. Whether a missing field is a fault is for the
reader of the field to say.
-/

namespace ImportRules.Record

/-- A value of a data format, seen as a possible record. -/
inductive Written (α : Type) where
  | members (entries : List (String × α))
  | elements (items : List α)
  | other

/-- The value of a field in a map, `none` if the name repeats. -/
def member? {α : Type} (entries : List (String × α)) (name : String) : Option (Option α) :=
  match entries.filter (·.1 == name) with
  | [] => some none
  | [(_, value)] => some (some value)
  | _ => none

/-- The values of the declared fields, each present or missing; `none` if the value cannot be read
as a record. -/
def fields? {α : Type} (names : List String) : Written α → Option (List (Option α))
  | .members entries => names.mapM (member? entries)
  | .elements items =>
      if items.length ≤ names.length then
        some (items.map some ++ List.replicate (names.length - items.length) none)
      else none
  | .other => none

/-- As `fields?`, where the items of a list that follow the last declared field are passed over. -/
def leadingFields? {α : Type} (names : List String) : Written α → Option (List (Option α))
  | .elements items => fields? names (.elements (items.take names.length))
  | record => fields? names record

/-- A field that must be present. -/
def required? {α β : Type} (read? : α → Option β) : Option α → Option β
  | some value => read? value
  | none => none

/-- A field with a default. -/
def withDefault? {α β : Type} (default : β) (read? : α → Option β) : Option α → Option β
  | some value => read? value
  | none => some default

end ImportRules.Record
