import ImportRules.Source.Aliases
/-!
# Resolving specifiers

A specifier is resolved against the units of a project. A relative specifier is taken from the
directory of the importing unit; any other one may be an alias or a path below the base directory.
A path refers to a unit of exactly that name, to one with an extension added, to one with a script
extension replaced, or to the index file of a directory, in this order. Everything else is
external.
-/

namespace ImportRules.Source

/-- What a specifier refers to. -/
inductive Resolution where
  | internal (unit : String)
  | external (specifier : String)
  deriving DecidableEq, Repr

/-- Knows the units of a project and how specifiers lead to them. -/
structure Resolver where
  units : List String
  /-- Extensions without their dot, in the order in which they are tried. -/
  extensions : List String
  aliases : AliasTable := {}

namespace Resolver

def isRelative (specifier : String) : Bool :=
  specifier == "." || specifier == ".." || "./".toList.isPrefixOf specifier.toList ||
    "../".toList.isPrefixOf specifier.toList

/-- A path without its script extension, `none` if it has none. -/
def scriptStem? (path : String) : Option String :=
  [".js", ".jsx", ".mjs", ".cjs"].findSome? fun extension =>
    (extension.toList.isSuffixOf? path.toList).map String.ofList

/-- The names under which a path may be known, best first. -/
def spellings (extensions : List String) (path : String) : List String :=
  let extended := fun stem => extensions.map fun extension => s!"{stem}.{extension}"
  let index := if path.isEmpty then "index" else path ++ "/index"
  [path] ++ extended path ++ ((scriptStem? path).map extended).getD [] ++ extended index

/-- The unit that a path refers to. -/
def probe? (resolver : Resolver) (path : String) : Option String :=
  (spellings resolver.extensions path).find? resolver.units.contains

/-- The paths that a specifier may stand for in an importing unit, best first. -/
def candidates (resolver : Resolver) (importer specifier : String) : List String :=
  if isRelative specifier then
    let directory := UnitPath.directory importer
    let path := if directory.isEmpty then specifier else UnitPath.join directory specifier
    (UnitPath.normalize? path).toList
  else if specifier.toList.head? == some '/' then []
  else resolver.aliases.candidates specifier

/-- Resolves a specifier of an importing unit. -/
def resolve (resolver : Resolver) (importer specifier : String) : Resolution :=
  match (resolver.candidates importer specifier).findSome? resolver.probe? with
  | some unit => .internal unit
  | none => .external specifier

end Resolver

/-- Extensions of source files unless others are asked for. -/
def defaultExtensions : List String :=
  ["ts", "tsx", "js", "jsx", "mjs", "cjs"]

end ImportRules.Source
