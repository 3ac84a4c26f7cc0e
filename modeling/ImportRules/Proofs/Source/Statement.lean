import ImportRules.Source.Imports
/-!
# Written import statements

A statement is an import the way an author writes it: a form with the names and the items that it
brings in, a specifier and a choice of quotes. Names, items and specifiers carry what makes them
writable, so that every statement has a text. The items of a pair of braces may be spread over
lines, since any blanks may stand around them.
-/

namespace ImportRules.Source

/-- Characters of names. -/
def isNameChar (c : Char) : Bool :=
  c.isAlphanum || c == '_' || c == '$'

/-- Words that have a meaning of their own in a statement. -/
def reservedWords : List (List Char) :=
  ["type", "from", "as", "import", "export", "require"].map String.toList

structure Name where
  text : List Char
  ne_nil : text ≠ []
  isName : ∀ c ∈ text, isNameChar c = true
  notDigit : ∀ c ∈ text.head?, c.isDigit = false
  notReserved : text ∉ reservedWords

structure Specifier where
  text : List Char
  ne_nil : text ≠ []
  isPlain : ∀ c ∈ text, c ∉ ['\'', '"', '\\', '(', ')', '\n']

/-- A specifier with its quotes. -/
structure Quoted where
  quote : Char
  quote_mem : quote ∈ ['\'', '"']
  inside : List Char
  ne_nil : inside ≠ []
  isPlain : ∀ c ∈ inside, c ∉ ['\'', '"', '\\', '\n']

def Quoted.text (quoted : Quoted) : List Char :=
  quoted.quote :: (quoted.inside ++ [quoted.quote])

/-- Blanks between the items of a pair of braces. -/
structure Gap where
  text : List Char
  isBlank : ∀ c ∈ text, Text.isBlank c = true

/-- One of the items in braces, such as `type a as b`. -/
structure Item where
  typeOnly : Bool
  name : Name
  renamed : Option Name

namespace Item

/-- The new name of an item that is renamed. -/
def newName (item : Item) : List Char :=
  match item.renamed with
  | none => []
  | some other => " as ".toList ++ other.text

def text (item : Item) : List Char :=
  (if item.typeOnly then "type ".toList else []) ++ (item.name.text ++ item.newName)

end Item

/-- What stands between two commas: an item with blanks around it, or blanks only, as behind a last
comma. -/
structure Piece where
  before : Gap
  item : Option Item
  behind : Gap

def Piece.text (piece : Piece) : List Char :=
  piece.before.text ++ ((piece.item.map Item.text).getD [] ++ piece.behind.text)

/-- A pair of braces with what it holds. -/
structure Braces where
  first : Piece
  others : List Piece

namespace Braces

def inside (braces : Braces) : List Char :=
  braces.first.text ++ braces.others.flatMap fun piece => ',' :: piece.text

def text (braces : Braces) : List Char :=
  '\x7b' :: (braces.inside ++ ['\x7d'])

def items (braces : Braces) : List Item :=
  (braces.first :: braces.others).filterMap (·.item)

/-- There are items, and all of them are types. -/
def typesOnly (braces : Braces) : Bool :=
  !braces.items.isEmpty && braces.items.all (·.typeOnly)

end Braces

/-- What an import or an export takes from a module. -/
inductive Clause where
  | default (name : Name)
  | named (braces : Braces)
  | both (name : Name) (braces : Braces)
  | wildcard (name : Name)
  /-- Everything, without a name for it. -/
  | all

namespace Clause

def text : Clause → List Char
  | .default name => name.text
  | .named braces => braces.text
  | .both name braces => name.text ++ (", ".toList ++ braces.text)
  | .wildcard name => "* as ".toList ++ name.text
  | .all => ['*']

/-- Only types are taken, although the statement itself does not say so. -/
def typesOnly : Clause → Bool
  | .named braces => braces.typesOnly
  | _ => false

/-- The ways in which something is taken. -/
def ways : Clause → List ImportKind
  | .default _ => [.default]
  | .named _ => [.named]
  | .both _ _ => [.default, .named]
  | .wildcard _ | .all => [.wildcard]

def isImport : Clause → Bool
  | .all => false
  | _ => true

def isExport : Clause → Bool
  | .named _ | .wildcard _ | .all => true
  | _ => false

end Clause

/-- The forms of statements. -/
inductive Form where
  /-- `import '...'` -/
  | effect
  /-- `import ... from '...'` -/
  | importing (typeOnly : Bool) (clause : Clause) (hclause : clause.isImport = true)
  /-- `export ... from '...'` -/
  | exporting (typeOnly : Bool) (clause : Clause) (hclause : clause.isExport = true)
  /-- `const name = require('...')` or `const name = await import('...')` -/
  | call (name : Name) (awaited : Bool)

/-- The function that is called to get a module. -/
def callKeyword (awaited : Bool) : List Char :=
  (if awaited then "import" else "require").toList

structure Statement where
  form : Form
  doubleQuotes : Bool
  specifier : Specifier

namespace Statement

/-- The specifier with the quotes that are chosen for it. -/
def quoted (statement : Statement) : Quoted where
  quote := if statement.doubleQuotes then '"' else '\''
  quote_mem := by split <;> decide
  inside := statement.specifier.text
  ne_nil := statement.specifier.ne_nil
  isPlain c hc hmem := by
    have hmarks : ['\'', '"', '\\', '\n'].all ['\'', '"', '\\', '(', ')', '\n'].contains = true := by
      decide
    exact statement.specifier.isPlain c hc
      (List.contains_iff_mem.mp (List.all_eq_true.mp hmarks c hmem))

/-- A statement with a clause, up to its semicolon. -/
def withClause (statement : Statement) (keyword : String) (typeOnly : Bool) (clause : Clause) :
    List Char :=
  keyword.toList ++ (' ' :: (if typeOnly then "type ".toList else []) ++ (clause.text ++
    (" from ".toList ++ statement.quoted.text)))

/-- What stands before the call of a module. -/
def lead (statement : Statement) : List Char :=
  match statement.form with
  | .call name awaited =>
      "const ".toList ++ (name.text ++ (" = ".toList ++ if awaited then "await ".toList else []))
  | _ => []

/-- The part of the statement that makes it an import. -/
def core (statement : Statement) : List Char :=
  match statement.form with
  | .effect => "import ".toList ++ statement.quoted.text
  | .importing typeOnly clause _ => statement.withClause "import" typeOnly clause
  | .exporting typeOnly clause _ => statement.withClause "export" typeOnly clause
  | .call _ awaited => callKeyword awaited ++ ('(' :: (statement.quoted.text ++ [')']))

/-- The line of the statement, or its lines if blanks in braces are spread over lines. -/
def text (statement : Statement) : List Char :=
  statement.lead ++ (statement.core ++ [';', '\n'])

/-- How the statement imports. -/
def kinds (statement : Statement) : List ImportKind :=
  match statement.form with
  | .effect => []
  | .importing typeOnly clause _ | .exporting typeOnly clause _ =>
      (if typeOnly || clause.typesOnly then .type else .value) :: clause.ways
  | .call _ _ => [.value]

end Statement

end ImportRules.Source
