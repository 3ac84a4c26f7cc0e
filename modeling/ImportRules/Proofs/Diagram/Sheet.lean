import ImportRules.Diagram.Reader
import Mathlib.Data.Set.Defs
/-!
# Written diagrams

A sheet is a diagram the way an author writes it: which components there are, which of them have an
alias, and which arrows are drawn between them, each with a choice of spelling. Names, aliases and
shafts carry what makes them writable, so that every sheet has a text.
-/

namespace ImportRules.Diagram

/-- A name that can stand in brackets and is not changed by trimming. -/
structure IsName (name : List Char) : Prop where
  ne_nil : name ≠ []
  trimmed : Text.trim name = name
  unclosed : ']' ∉ name
  oneLine : '\n' ∉ name

/-- A letter or underscore, then word characters and dots. -/
def IsAlias : List Char → Prop
  | [] => False
  | c :: rest =>
      (c.isAlpha || c == '_') = true ∧ ∀ d ∈ rest, (Text.isWord d || d == '.') = true

def bracketed (text : List Char) : List Char :=
  '[' :: text ++ [']']

/-- A component with the alias that it is declared under, if any. -/
structure Component where
  name : List Char
  alias? : Option (List Char)
  isName : IsName name
  isAlias : ∀ word ∈ alias?, IsAlias word

namespace Component

/-- What the component is called in the diagram. -/
def label (component : Component) : String :=
  String.ofList component.name

/-- The line that declares the component. -/
def declaration (component : Component) : List Char :=
  match component.alias? with
  | none => bracketed component.name
  | some word =>
      "component ".toList ++ (bracketed component.name ++ (" as ".toList ++ word))

/-- How an arrow mentions the component: by its alias, if that is asked for and there is one, and
else in brackets. -/
def mention (component : Component) (byAlias : Bool) : List Char :=
  match byAlias, component.alias? with
  | true, some word => word
  | _, _ => bracketed component.name

end Component

/-- A run of hyphens and dots. -/
structure Shaft where
  run : List Char
  ne_nil : run ≠ []
  dashed : ∀ c ∈ run, c ∈ ['-', '.']

/-- The directions that an arrow can be given, the longer spellings first. -/
def directions : List String :=
  ["up", "down", "left", "right", "u", "d", "l", "r"]

/-- What may interrupt the shaft of an arrow. -/
inductive Hint where
  | direction (word : String) (hword : word ∈ directions)
  | style (text : List Char) (unclosed : ']' ∉ text) (oneLine : '\n' ∉ text)

def Hint.text : Hint → List Char
  | .direction word _ => word.toList
  | .style text _ _ => bracketed text

/-- An arrow without its head: a shaft or, with a hint between them, two. -/
structure Body where
  shaft : Shaft
  more? : Option (Hint × Shaft)

def Body.text (body : Body) : List Char :=
  body.shaft.run ++
    match body.more? with
    | none => []
    | some (hint, shaft) => hint.text ++ shaft.run

/-- The body of an arrow with a head at one of its ends. -/
def Body.stem (body : Body) (leftward : Bool) : List Char :=
  if leftward then '<' :: body.text else body.text ++ ['>']

/-- A space and as many more as are asked for. -/
def gap (more : Nat) : List Char :=
  ' ' :: List.replicate more ' '

/-- An arrow as it is drawn between two components, perhaps with a label behind it. `before` and
`behind` tell the gaps on either side of it. -/
structure Arrow where
  left : Component
  right : Component
  leftByAlias : Bool
  rightByAlias : Bool
  leftward : Bool
  body : Body
  before : Nat
  behind : Nat
  label? : Option (List Char)
  oneLine : ∀ label ∈ label?, '\n' ∉ label

namespace Arrow

/-- The relation that the arrow stands for, which goes from its tail to its head. -/
def relation (arrow : Arrow) : Relation :=
  if arrow.leftward then ⟨arrow.right.label, arrow.left.label⟩
  else ⟨arrow.left.label, arrow.right.label⟩

/-- The arrow itself with its head. -/
def stem (arrow : Arrow) : List Char :=
  arrow.body.stem arrow.leftward

/-- The line of the arrow up to its label. -/
def core (arrow : Arrow) : List Char :=
  arrow.left.mention arrow.leftByAlias ++ (gap arrow.before ++ (arrow.stem ++ (gap arrow.behind ++
    arrow.right.mention arrow.rightByAlias)))

/-- The line that draws the arrow. -/
def line (arrow : Arrow) : List Char :=
  match arrow.label? with
  | none => arrow.core
  | some label => arrow.core ++ (" : ".toList ++ label)

end Arrow

/-- A diagram as it is written: components with distinct aliases and arrows between them. -/
structure Sheet where
  components : List Component
  arrows : List Arrow
  distinct : (components.filterMap (·.alias?)).Nodup
  declared : ∀ arrow ∈ arrows, arrow.left ∈ components ∧ arrow.right ∈ components

namespace Sheet

/-- What its components are called. -/
def names (sheet : Sheet) : Set String :=
  {name | ∃ component ∈ sheet.components, component.label = name}

/-- What its arrows stand for. -/
def relations (sheet : Sheet) : Set Relation :=
  {relation | ∃ arrow ∈ sheet.arrows, arrow.relation = relation}

/-- The lines between the two markers. -/
def body (sheet : Sheet) : List (List Char) :=
  sheet.components.map Component.declaration ++ sheet.arrows.map Arrow.line

/-- The text of the sheet, up to its end marker. -/
def text (sheet : Sheet) : String :=
  String.ofList (("@startuml".toList :: sheet.body).flatMap (· ++ ['\n']) ++ "@enduml".toList)

end Sheet

end ImportRules.Diagram
