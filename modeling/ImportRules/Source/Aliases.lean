import ImportRules.Ascending
import ImportRules.Json.Decode
import ImportRules.Source.Comments
import ImportRules.Text.Blank
import ImportRules.UnitPath
/-!
# Path aliases

A `tsconfig.json` file may name a base directory for specifiers and aliases that stand for paths
below it. The file is JSON, except that comments and a comma before a closing bracket are allowed.
An alias with a `*` fits every specifier that starts and ends as the alias does around the star;
what stands between them replaces the first star of the alias's targets.
-/

namespace ImportRules.Source

/-- Drops commas that stand before a closing bracket, with only blanks between. `inString` tells
whether the text starts inside a string. -/
def dropTrailingCommas : (inString : Bool) → List Char → List Char
  | _, [] => []
  | true, '\\' :: c :: rest => '\\' :: c :: dropTrailingCommas true rest
  | true, c :: rest => c :: dropTrailingCommas (c != '"') rest
  | false, c :: rest =>
      if c = ',' ∧
          ((Text.trimBlankStart rest).head? = some '\x7d' ∨
            (Text.trimBlankStart rest).head? = some ']') then
        dropTrailingCommas false rest
      else c :: dropTrailingCommas (c == '"') rest

/-- The JSON text that is left without comments and superfluous commas. -/
def plainJson (text : List Char) : List Char :=
  dropTrailingCommas false (blankComments text)

/-- An alias and the paths that it stands for. -/
structure Alias where
  pattern : String
  targets : List String
  deriving DecidableEq, Repr

namespace Alias

/-- Size in bytes of an alias up to its first star. -/
def lead (pattern : String) : Nat :=
  Text.byteLength (pattern.toList.takeWhile (· != '*'))

/-- What an alias captures of a specifier: the text that its star stands for, nothing if it has
none. -/
def capture? (pattern specifier : String) : Option (List Char) :=
  match pattern.toList.dropWhile (· != '*') with
  | [] => if pattern = specifier then some [] else none
  | _ :: tail =>
      ((pattern.toList.takeWhile (· != '*')).isPrefixOf? specifier.toList).bind
        fun rest => tail.isSuffixOf? rest

/-- A target with its first star replaced. -/
def fill (captured : List Char) (target : String) : String :=
  match target.toList.dropWhile (· != '*') with
  | [] => target
  | _ :: tail => String.ofList (target.toList.takeWhile (· != '*') ++ captured ++ tail)

end Alias

/-- The settings of a file as they are written: the base directory, if there is one, and the aliases
in the order of their patterns. -/
structure Settings where
  base : Option String := none
  aliases : List Alias := []
  deriving DecidableEq, Repr

namespace Settings

/-- Puts an alias among others that are ordered by pattern; a later one of the same pattern wins. -/
def insertAlias (entry : Alias) : List Alias → List Alias :=
  alterAscending (fun a b => decide (a < b)) (·.pattern) entry.pattern entry fun _ => entry

/-- The aliases that a map names, ordered by pattern. -/
def aliases? : Json → Option (List Alias)
  | .object members => do
      let read ← members.mapM fun (pattern, value) =>
        (Json.list? Json.text? value).map fun targets => ⟨pattern, targets⟩
      some (read.foldl (fun aliases entry => insertAlias entry aliases) [])
  | _ => none

/-- The settings in the compiler options of a file. -/
def ofOptions? (value : Json) : Option Settings :=
  match Record.fields? ["baseUrl", "paths"] value.written with
  | some [base, paths] => do
      some
        { base := ← Record.withDefault? none (Json.nullable? Json.text?) base
          aliases := ← Record.withDefault? [] aliases? paths }
  | _ => none

/-- The settings in a JSON value. -/
def ofJson? (value : Json) : Option Settings :=
  match Record.fields? ["compilerOptions"] value.written with
  | some [options] => Record.withDefault? {} ofOptions? options
  | _ => none

/-- The settings in the text of a settings file. -/
def ofText? (text : String) : Option Settings :=
  (Json.ofText? (plainJson text.toList)).bind ofJson?

end Settings

/-- The settings of a project for specifiers that are not relative. -/
structure AliasTable where
  /-- The base directory from the root, empty for the root itself. -/
  base : Option String := none
  /-- Aliases in the order in which they are tried. -/
  aliases : List Alias := []
  deriving DecidableEq, Repr

/-- The settings in the form in which specifiers are looked up. Aliases with more text before their
star are tried first. -/
def Settings.table (settings : Settings) : AliasTable where
  base := settings.base.bind UnitPath.normalize?
  aliases := settings.aliases.mergeSort fun a b =>
    decide (Alias.lead b.pattern ≤ Alias.lead a.pattern)

namespace AliasTable

/-- The table in the text of a settings file. -/
def ofText? (text : String) : Option AliasTable :=
  (Settings.ofText? text).map Settings.table

/-- A path below the base directory. -/
def below (table : AliasTable) (path : String) : String :=
  match table.base with
  | some "" | none => path
  | some base => UnitPath.join base path

/-- The paths that the first fitting alias offers for a specifier. -/
def aliased (table : AliasTable) (specifier : String) : List String :=
  let fitting := table.aliases.findSome? fun entry =>
    (Alias.capture? entry.pattern specifier).map fun captured =>
      entry.targets.filterMap fun target =>
        UnitPath.normalize? (table.below (Alias.fill captured target))
  fitting.getD []

/-- The paths that a specifier may stand for, best first. -/
def candidates (table : AliasTable) (specifier : String) : List String :=
  table.aliased specifier ++
    match table.base with
    | some _ => (UnitPath.normalize? (table.below specifier)).toList
    | none => []

end AliasTable

end ImportRules.Source
