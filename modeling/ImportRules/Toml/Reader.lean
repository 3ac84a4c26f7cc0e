import ImportRules.Toml.Basic
import ImportRules.Toml.Number
/-!
# Reading TOML

A document is read line by line. A line opens a table, opens the next of several tables, or sets a
key of the table that is open. Whether the lines may stand together is decided when they are put
into one table: no key is set twice, and a table is opened at most once and is not extended from
elsewhere once it is complete.
-/

namespace ImportRules.Toml

/-- Named values of a table. -/
abbrev Entries :=
  List (String × Toml)

/-- Changes the value of one name. The change sees no value if the name is new. -/
def alter (name : String) (change : Option Toml → Option Toml) : Entries → Option Entries
  | [] => (change none).map fun value => [(name, value)]
  | (other, value) :: rest =>
      if other = name then (change (some value)).map fun value => (other, value) :: rest
      else (alter name change rest).map ((other, value) :: ·)

/-- Changes the table at the end of a path. Tables that are missing on the way are made with the
origin `made`, and the way leads through the tables whose origin `opens` accepts and through the
latest of several tables. -/
def alterAt (made : Origin) (opens : Origin → Bool) (change : Origin → Entries → Option Entries) :
    List String → Origin → Entries → Option Entries
  | [], origin, entries => change origin entries
  | name :: path, _, entries =>
      alter name (fun
        | none => (alterAt made opens change path made []).map (.table made)
        | some (.table origin inner) =>
            if opens origin then (alterAt made opens change path origin inner).map (.table origin)
            else none
        | some (.tables (latest :: earlier)) =>
            (alterAt made opens change path .header latest).map fun latest =>
              .tables (latest :: earlier)
        | some _ => none) entries

/-- Changes the table that a header path leads to. -/
def alterAtHeader (change : Origin → Entries → Option Entries) (path : List String)
    (entries : Entries) : Option Entries :=
  alterAt .passed (· != .inline) change path .header entries

/-- Gives a name its first value. -/
def define (name : String) (value : Toml) (entries : Entries) : Option Entries :=
  alter name (fun
    | none => some value
    | some _ => none) entries

/-- Sets a dotted key. Only tables on the way of a dotted key, or of a longer header, may lie on its
way, and the last of them must be on the way of a dotted key. -/
def set (parts : List String) (value : Toml) (entries : Entries) : Option Entries :=
  match parts.reverse with
  | [] => none
  | [name] => define name value entries
  | name :: way =>
      alterAt .dotted (fun origin => origin == .dotted || origin == .passed)
        (fun origin entries => if origin = .dotted then define name value entries else none)
        way.reverse .header entries

/-- Changes the value of the last name of a header. -/
def alterLast (parts : List String) (change : Option Toml → Option Toml) (entries : Entries) :
    Option Entries :=
  match parts.reverse with
  | [] => none
  | name :: way => alterAtHeader (fun _ => alter name change) way.reverse entries

/-- Opens the table of a header. A table that was only passed so far may be opened. -/
def openTable (parts : List String) (entries : Entries) : Option Entries :=
  alterLast parts (fun
    | none => some (.table .header [])
    | some (.table .passed inner) => some (.table .header inner)
    | some _ => none) entries

/-- Opens the next of several tables. -/
def openNextTable (parts : List String) (entries : Entries) : Option Entries :=
  alterLast parts (fun
    | none => some (.tables [[]])
    | some (.tables latestFirst) => some (.tables ([] :: latestFirst))
    | some _ => none) entries

/-- The table in braces that settings make up. -/
def ofSettings (settings : List (List String × Toml)) : Option Toml :=
  (settings.foldlM (fun entries (parts, value) => set parts value entries) []).map (.table .inline)

/-- A key with its value. -/
def setting (value : Reader Toml) (text : List Char) :
    Option ((List String × Toml) × List Char) := do
  let (parts, rest) ← key text
  let (_, rest) ← Reader.expect '=' rest
  let (value, rest) ← value (skipSpace rest)
  some ((parts, value), skipSpace rest)

/-- An array behind its opening bracket. -/
def arrayBody (value : Reader Toml) (text : List Char) : Option (Toml × List Char) :=
  let item : Reader Toml := fun text =>
    (value (skipGaps text)).map fun (value, rest) => (value, skipGaps rest)
  let (items, rest) :=
    match Reader.separated item ',' text with
    | some (items, ',' :: rest) => (items, rest)
    | some (items, rest) => (items, rest)
    | none => ([], text)
  (Reader.expect ']' (skipGaps rest)).map fun (_, rest) => (.array items, rest)

/-- A table behind its opening brace. -/
def inlineBody (value : Reader Toml) (text : List Char) : Option (Toml × List Char) := do
  let (settings, rest) := (Reader.separated (setting value) ',' text).getD ([], text)
  let (_, rest) ← Reader.expect '\x7d' (skipSpace rest)
  let table ← ofSettings settings
  some (table, rest)

/-- A number or a date-time. -/
def number (text : List Char) : Option (Toml × List Char) :=
  match moment text with
  | some (literal, rest) => some (.dateTime literal, rest)
  | none =>
      match realNumber text with
      | some (literal, rest) => some (.float literal, rest)
      | none => (wholeNumber text).map fun (value, rest) => (.integer value, rest)

/-- A value in which brackets and braces are nested up to the given depth. -/
def value : Nat → Reader Toml
  | depth, '[' :: rest =>
      match depth with
      | 0 => none
      | depth + 1 => arrayBody (value depth) rest
  | depth, '\x7b' :: rest =>
      match depth with
      | 0 => none
      | depth + 1 => inlineBody (value depth) rest
  | _, '"' :: rest => (quoted ('"' :: rest)).map fun (text, rest) => (.string text, rest)
  | _, '\'' :: rest => (quoted ('\'' :: rest)).map fun (text, rest) => (.string text, rest)
  | _, 't' :: 'r' :: 'u' :: 'e' :: rest => some (.bool true, rest)
  | _, 'f' :: 'a' :: 'l' :: 's' :: 'e' :: rest => some (.bool false, rest)
  | _, text => number text

/-- A line of a document. -/
inductive Line where
  | blank
  | header (parts : List String)
  | nextTable (parts : List String)
  | setting (parts : List String) (value : Toml)

/-- A line behind its leading blanks, without its line end. -/
def lineContent : Reader Line
  | '[' :: '[' :: rest => do
      let (parts, rest) ← key rest
      let (_, rest) ← Reader.expect ']' rest
      let (_, rest) ← Reader.expect ']' rest
      some (.nextTable parts, rest)
  | '[' :: rest => do
      let (parts, rest) ← key rest
      let (_, rest) ← Reader.expect ']' rest
      some (.header parts, rest)
  | '#' :: rest => some (.blank, '#' :: rest)
  | '\n' :: rest => some (.blank, '\n' :: rest)
  | '\r' :: rest => some (.blank, '\r' :: rest)
  | text =>
      (setting (value (nestingLimit - 1)) text).map fun ((parts, value), rest) =>
        (.setting parts value, rest)

/-- A line with its line end. -/
def line (text : List Char) : Option (Line × List Char) := do
  let (content, rest) ← lineContent (skipSpace text)
  let (_, rest) ← lineEnd rest
  some (content, rest)

/-- A document as far as it is read: its entries, and the path of the table that is open. -/
structure Draft where
  entries : Entries := []
  opened : List String := []

/-- Takes in a line. -/
def Draft.add (draft : Draft) : Line → Option Draft
  | .blank => some draft
  | .header parts => (openTable parts draft.entries).map (⟨·, parts⟩)
  | .nextTable parts => (openNextTable parts draft.entries).map (⟨·, parts⟩)
  | .setting parts value =>
      (alterAtHeader (fun _ => set parts value) draft.opened draft.entries).map (⟨·, draft.opened⟩)

/-- The table that a text spells. A mark of the byte order at its start is passed over. -/
def ofText? (text : List Char) : Option Toml :=
  let text := if text.head? = some '\uFEFF' then text.tail else text
  let (lines, rest) := Reader.many line text
  if (skipSpace rest).isEmpty then
    (lines.foldlM Draft.add {}).map fun draft => .table .header draft.entries
  else none

end ImportRules.Toml
