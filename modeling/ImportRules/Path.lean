import ImportRules.Text.Lossy
/-!
# File paths

File paths are bytes, with `/` between the names. Usually they are a text that a user wrote, but the
system takes any bytes. Paths are joined and cut without being normalized, so that a message shows a
path the way it was given.
-/

namespace ImportRules

/-- A file path, or a name in one. -/
structure Path where
  bytes : List UInt8
  deriving DecidableEq, Repr

namespace Path

/-- The path that a text names. -/
def ofText (text : String) : Path :=
  ⟨Text.bytesOf text.toList⟩

/-- The path as it is shown. Paths that are no texts may be shown alike. -/
def display (path : Path) : String :=
  String.ofList (Text.shown path.bytes)

instance : Coe String Path := ⟨ofText⟩

instance : CoeOut Path String := ⟨display⟩

instance : ToString Path := ⟨display⟩

/-- The byte between the names of a path. -/
def separator : UInt8 :=
  '/'.toUInt8

def isEmpty (path : Path) : Bool :=
  path.bytes.isEmpty

def isAbsolute (path : Path) : Bool :=
  path.bytes.head? == some separator

/-- A path taken from a base directory. An absolute path stands for itself, and so does every path
taken from the empty base. -/
def join (base path : Path) : Path :=
  if path.isAbsolute || base.isEmpty then path
  else if base.bytes.getLast? == some separator then ⟨base.bytes ++ path.bytes⟩
  else ⟨base.bytes ++ separator :: path.bytes⟩

/-- The parts of a path between its separators. -/
def segments (path : Path) : List Path :=
  (path.bytes.splitOn separator).map Path.mk

/-- The path with the given segments. -/
def ofSegments (segments : List Path) : Path :=
  ⟨[separator].intercalate (segments.map bytes)⟩

/-- Whether a segment leads nowhere else. -/
def isIdle (segment : Path) : Bool :=
  segment.isEmpty || segment == ofText "."

/-- Drops the segments at the end of a path that name nothing. A dot at the very start of a path
stays. -/
def trimSegments (reversed : List Path) : List Path :=
  match reversed with
  | [] => []
  | segment :: rest =>
      if segment.isEmpty || segment.isIdle && !rest.isEmpty then trimSegments rest
      else segment :: rest

/-- The directory that a path lies in, empty for a single name. -/
def parent (path : Path) : Path :=
  let body := if path.isAbsolute then path.segments.tail else path.segments
  let kept := trimSegments (trimSegments body.reverse).tail
  let front := ofSegments kept.reverse
  if path.isAbsolute then ⟨separator :: front.bytes⟩ else front

/-- The part of a file name behind its last dot. A name whose only dot stands first has none. -/
def extension? (name : Path) : Option Path :=
  match name.bytes.reverse.span (· != '.'.toUInt8) with
  | (_, []) | (_, [_]) => none
  | (behind, _) => some ⟨behind.reverse⟩

end Path

end ImportRules
