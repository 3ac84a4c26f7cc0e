import ImportRules.Record
/-!
# TOML values

A TOML document is a table of named values. How a table was written is kept with it, since it
decides whether a later part of the document may still add to the table.
-/

namespace ImportRules

/-- How a table came to be. -/
inductive Toml.Origin where
  /-- Written in braces, and complete. -/
  | inline
  /-- Opened by a header of its own, or the document itself. -/
  | header
  /-- On the way to the table of a longer header. -/
  | passed
  /-- On the way of a dotted key. -/
  | dotted
  deriving DecidableEq, Repr

/-- A TOML value. Floats and date-times keep their spelling. -/
inductive Toml where
  | string (text : String)
  | integer (value : Int)
  | float (literal : String)
  | bool (value : Bool)
  | dateTime (text : String)
  | array (items : List Toml)
  | table (origin : Toml.Origin) (entries : List (String × Toml))
  /-- The tables under repeated headers in double brackets, latest first. -/
  | tables (latestFirst : List (List (String × Toml)))

namespace Toml

/-- The only name in a date-time that is read as a record. -/
def dateTimeName : String :=
  "$__toml_private_datetime"

/-- A value seen as a possible record. -/
def written : Toml → Record.Written Toml
  | .array items => .elements items
  | .table _ entries => .members entries
  | .tables latestFirst => .elements (latestFirst.reverse.map (.table .header))
  | .dateTime text => .members [(dateTimeName, .string text)]
  | _ => .other

def text? : Toml → Option String
  | .string text => some text
  | _ => none

def bool? : Toml → Option Bool
  | .bool value => some value
  | _ => none

/-- An integer that is not negative. -/
def nat? : Toml → Option Nat
  | .integer (.ofNat n) => some n
  | _ => none

/-- A list whose items are all read in the same way. -/
def list? {α : Type} (read? : Toml → Option α) (value : Toml) : Option (List α) :=
  match value.written with
  | .elements items => items.mapM read?
  | _ => none

/-- The entries of a table, all values read in the same way. -/
def entries? {α : Type} (read? : Toml → Option α) (value : Toml) :
    Option (List (String × α)) :=
  match value.written with
  | .members entries => entries.mapM fun (name, value) => (read? value).map (name, ·)
  | _ => none

end Toml

end ImportRules
