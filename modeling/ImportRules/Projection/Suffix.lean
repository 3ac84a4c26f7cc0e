import ImportRules.UnitPath
/-!
# Suffix tables

A suffix table sorts units into groups by the end of their file names. The longest suffix that
fits decides, so that `.spec.ts` wins over `.ts`; of entries with the same suffix the earliest
decides.
-/

namespace ImportRules

/-- A suffix and the group of the units whose names end in it. -/
structure SuffixEntry where
  suffix : String
  group : String
  deriving DecidableEq, Repr

/-- The entries in the order in which they are tried. -/
structure SuffixTable where
  entries : List SuffixEntry
  deriving DecidableEq, Repr

namespace SuffixTable

/-- Whether an entry is tried no later than another one: longer suffixes first, then in order of
their text. -/
def noLater (first second : SuffixEntry) : Bool :=
  let size := first.suffix.utf8ByteSize
  let other := second.suffix.utf8ByteSize
  other < size || (size == other && first.suffix ≤ second.suffix)

/-- The table with the given entries. -/
def ofEntries (entries : List SuffixEntry) : SuffixTable :=
  ⟨entries.mergeSort noLater⟩

/-- The group of a unit, `none` if no suffix fits its name. -/
def group? (table : SuffixTable) (unit : String) : Option String :=
  let name := (UnitPath.fileName unit).toList
  (table.entries.find? fun entry => entry.suffix.toList.isSuffixOf name).map (·.group)

end SuffixTable

end ImportRules
