import ImportRules.Regex.Matching
import ImportRules.Text.Category
/-!
# Lines of a component diagram

A line is read as a relation between two names, or else as the declaration of a name, possibly with
an alias. Names stand in brackets, in quotes, or bare. What a line means is given by two regular
expressions, so that the reading of an ambiguous line, such as a bare name with dots before a
dotted arrow, is the one that their order of preference gives.
-/

namespace ImportRules.Diagram

open Regex

/-- A bare name: a letter or underscore, then word characters and dots. -/
def bareName : Regex :=
  .seq (.one fun c => c.isAlpha || c == '_') (.many (.one fun c => Text.isWord c || c == '.'))

/-- A name in brackets, in quotes, or bare. -/
def name : Regex :=
  choice
    [sequence [.char '[', .many1 (.noneOf [']']), .char ']'],
     sequence [.char '"', .many1 (.noneOf ['"']), .char '"'],
     bareName]

/-- A run of hyphens and dots. -/
def shaft : Regex :=
  .many1 (.oneOf ['-', '.'])

/-- What may interrupt the shaft of an arrow: a direction or a style in brackets. -/
def hint : Regex :=
  choice
    [literal "up", literal "down", literal "left", literal "right", literal "u", literal "d",
     literal "l", literal "r",
     sequence [.char '[', .many (.noneOf [']']), .char ']']]

/-- An arrow with a head at either end, at both, or at none. -/
def arrow : Regex :=
  sequence
    [.optional (.char '<'), shaft, .optional (.seq hint shaft), .optional (.char '>')]

/-- A relation: two names with an arrow between them, and perhaps a label behind a colon. -/
def relationLine : Regex :=
  sequence
    [.anchor .textStart, .group 1 name, .many .blank, .group 2 arrow, .many .blank, .group 3 name,
     .many .blank, .optional (.seq (.char ':') (.many (.noneOf ['\n']))), .anchor .textEnd]

/-- A declaration: a name, perhaps an alias, a stereotype and a colour. -/
def declarationLine : Regex :=
  sequence
    [.anchor .textStart,
     .optional (.seq (literal "component") (.many1 .blank)),
     .group 1 name,
     .optional (sequence [.many1 .blank, literal "as", .many1 .blank, .group 2 bareName]),
     .many .blank,
     .optional (sequence [literal "<<", .many (.noneOf ['>']), literal ">>"]),
     .many .blank,
     .optional (.seq (.char '#') (.many1 (.one Text.isWord))),
     .many .blank,
     .anchor .textEnd]

/-- Direction of an arrow. -/
inductive Heading where
  | rightward
  | leftward
  /-- Heads at both ends or at none. -/
  | unclear
  deriving DecidableEq, Repr

/-- Direction of an arrow by its heads. -/
def heading (arrow : List Char) : Heading :=
  match arrow.head? == some '<', arrow.getLast? == some '>' with
  | false, true => .rightward
  | true, false => .leftward
  | _, _ => .unclear

/-- What a trimmed line says. -/
inductive Line where
  | relation (left arrow right : List Char)
  | declaration (name : List Char) (alias? : Option (List Char))
  /-- Meant as a relation or a declaration but not readable as either. -/
  | malformed
  | irrelevant
  deriving DecidableEq, Repr

/-- Whether a line that cannot be read was meant as a relation or a declaration. -/
def looksStructural (line : List Char) : Bool :=
  line.head? == some '[' || "component".toList.isPrefixOf line ||
    Text.occursIn ['-', '>'] line || Text.occursIn ['<', '-'] line ||
    Text.occursIn ['.', '>'] line || Text.occursIn ['<', '.'] line

/-- Reads a trimmed line as a relation. -/
def readRelation? (line : List Char) : Option Line := do
  let found ← relationLine.search? line
  let left ← found.group? line 1
  let arrow ← found.group? line 2
  let right ← found.group? line 3
  some (.relation left arrow right)

/-- Reads a trimmed line as a declaration, which starts with the keyword or with a bracket. -/
def readDeclaration? (line : List Char) : Option Line := do
  if !("component".toList.isPrefixOf line || line.head? == some '[') then none
  let found ← declarationLine.search? line
  let name ← found.group? line 1
  some (.declaration name (found.group? line 2))

/-- Reads a trimmed line. -/
def readLine (line : List Char) : Line :=
  match readRelation? line with
  | some relation => relation
  | none =>
      match readDeclaration? line with
      | some declaration => declaration
      | none => if looksStructural line then .malformed else .irrelevant

end ImportRules.Diagram
