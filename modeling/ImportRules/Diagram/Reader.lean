import ImportRules.Diagram.Basic
import ImportRules.Diagram.Line
/-!
# Reading component diagrams

A diagram stands between a line that starts with `@startuml` and one that starts with `@enduml`.
Blank lines and lines that start with a single quote carry no meaning. Names in brackets or quotes
stand for themselves, bare names for what they were declared an alias of, if anything. The first
line that is meant as a relation or a declaration but cannot be read is reported with its place.
-/

namespace ImportRules

/-- Why a text is no diagram. -/
inductive DiagramError where
  | missingStart
  | missingEnd
  /-- Number of the line, counted from one, its trimmed text, and the bytes it covers. -/
  | malformedLine (line : Nat) (content : String) (offset length : Nat)
  deriving DecidableEq, Repr

namespace DiagramError

def message : DiagramError → String
  | .missingStart => "diagram has no @startuml marker"
  | .missingEnd => "diagram has no @enduml marker"
  | .malformedLine line content _ _ => s!"malformed diagram line {line}: `{content}`"

/-- Stable name of the kind of error. -/
def code : DiagramError → String
  | .missingStart => "archgraph::diagram::missing_start"
  | .missingEnd => "archgraph::diagram::missing_end"
  | .malformedLine .. => "archgraph::diagram::malformed_line"

/-- Advice on how to mend the text. -/
def help : DiagramError → String
  | .missingStart => "wrap the diagram in @startuml ... @enduml"
  | .missingEnd => "close the diagram with @enduml"
  | .malformedLine .. => "expected `component [Name]`, `[Name]` or `[A] --> [B]`"

end DiagramError

namespace Diagram

/-- A name without its brackets or quotes and without blanks inside them; a bare name is kept. -/
def unquoted (token : List Char) : List Char :=
  let inner? (first last : Char) : Option (List Char) :=
    match token with
    | c :: rest => if c = first then [last].isSuffixOf? rest else none
    | [] => none
  match inner? '[' ']' <|> inner? '"' '"' with
  | some inner => Text.trim inner
  | none => token

/-- The diagram read so far and the aliases declared in it, latest first. -/
structure Draft where
  diagram : Diagram := {}
  aliases : List (List Char × String) := []

namespace Draft

/-- The component that a name in a relation stands for. -/
def resolve (draft : Draft) (token : List Char) : String :=
  if token.head? == some '[' || token.head? == some '"' then String.ofList (unquoted token)
  else (draft.aliases.lookup token).getD (String.ofList token)

/-- Takes in a line that has been read; `none` if it is malformed. -/
def add (draft : Draft) : Line → Option Draft
  | .relation left arrow right =>
      let left := draft.resolve left
      let right := draft.resolve right
      match heading arrow with
      | .rightward => some { draft with diagram := draft.diagram.addRelation ⟨left, right⟩ }
      | .leftward => some { draft with diagram := draft.diagram.addRelation ⟨right, left⟩ }
      | .unclear => none
  | .declaration name alias? =>
      let component := String.ofList (unquoted name)
      some
        { diagram := draft.diagram.addComponent component
          aliases := (alias?.map (·, component)).toList ++ draft.aliases }
  | .malformed => none
  | .irrelevant => some draft

end Draft

/-- The error for a malformed line, given with its line end. -/
def malformedAt (number offset : Nat) (raw : List Char) : DiagramError :=
  let content := Text.trimEnd (fun c => c == '\r' || c == '\n') raw
  .malformedLine number (String.ofList (Text.trim content)) offset (Text.byteLength content)

/-- Reads the lines behind the start marker. `number` and `offset` are those of the first of
them. -/
def readBody (number offset : Nat) (draft : Draft) :
    List (List Char) → Except DiagramError Diagram
  | [] => .error .missingEnd
  | raw :: lines =>
      let line := Text.trim raw
      let continueWith := fun draft =>
        readBody (number + 1) (offset + Text.byteLength raw) draft lines
      if "@enduml".toList.isPrefixOf line then .ok draft.diagram
      else if line.isEmpty || line.head? == some '\'' then continueWith draft
      else
        match draft.add (readLine line) with
        | some draft => continueWith draft
        | none => .error (malformedAt number offset raw)

/-- Skips the lines up to and including the start marker, then reads the rest. -/
def readLines (number offset : Nat) : List (List Char) → Except DiagramError Diagram
  | [] => .error .missingStart
  | raw :: lines =>
      let after := offset + Text.byteLength raw
      if "@startuml".toList.isPrefixOf (Text.trim raw) then readBody (number + 1) after {} lines
      else readLines (number + 1) after lines

/-- Reads the text of a diagram. -/
def ofText (text : String) : Except DiagramError Diagram :=
  readLines 1 0 (Text.linesWithEnds text.toList)

end Diagram

end ImportRules
