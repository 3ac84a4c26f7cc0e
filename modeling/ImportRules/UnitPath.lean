import ImportRules.Text.Basic
/-!
# Paths of units

A unit is a source file, named by its path from the root of the project with `/` between the
segments. The parts of a path are taken from its text alone; nothing here looks at files.
-/

namespace ImportRules.UnitPath

/-- The segments of a path. -/
def segments (path : String) : List String :=
  Text.pieces '/' path

/-- What stands behind the last occurrence of a separator, the whole text without one. -/
def behindLast (separator : Char) (text : List Char) : List Char :=
  (text.reverse.takeWhile (· != separator)).reverse

/-- What stands before the last occurrence of a separator, `none` without one. -/
def beforeLast? (separator : Char) (text : List Char) : Option (List Char) :=
  match text.reverse.dropWhile (· != separator) with
  | [] => none
  | _ :: front => some front.reverse

/-- The last segment of a path. -/
def fileName (path : String) : String :=
  String.ofList (behindLast '/' path.toList)

/-- The path without its last segment, empty if it has only one. -/
def directory (path : String) : String :=
  String.ofList ((beforeLast? '/' path.toList).getD [])

/-- The file name up to its last dot. A name whose only dot stands first is kept whole. -/
def stem (path : String) : String :=
  let name := behindLast '/' path.toList
  match beforeLast? '.' name with
  | some (c :: front) => String.ofList (c :: front)
  | _ => String.ofList name

/-- One step of lexical normalization: the segments kept so far, latest first, take in another one.
`none` means that the path has climbed above its root. -/
def climb (kept : List String) : String → Option (List String)
  | "" | "." => some kept
  | ".." =>
      match kept with
      | [] => none
      | _ :: kept => some kept
  | segment => some (segment :: kept)

/-- The path from the root without empty, `.` and `..` segments, `none` if it climbs above the
root. -/
def normalize? (path : String) : Option String :=
  ((segments path).foldlM climb []).map fun kept => Text.joined "/" kept.reverse

/-- A path below a directory. -/
def join (base path : String) : String :=
  base ++ "/" ++ path

end ImportRules.UnitPath
