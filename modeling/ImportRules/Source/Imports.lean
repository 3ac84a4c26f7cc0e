import ImportRules.Edge
import ImportRules.Regex.Matching
import ImportRules.Source.Comments
import ImportRules.Text.Category
/-!
# Imports of a source text

An import statement names a module by a specifier and says what it takes from it. Four forms are
recognized, each by a regular expression on the text without comments: imports with a clause,
imports for their effect only, exports from another module, and calls of `require` or `import`.
The statements are listed in the order in which they start.
-/

namespace ImportRules.Source

open Regex

/-- An import statement. -/
structure ImportStatement where
  specifier : String
  kinds : List ImportKind
  /-- Number of characters before the statement. -/
  start : Nat
  deriving DecidableEq, Repr

/-- A quote around a specifier. -/
def specifierQuote : Regex := .oneOf ['\'', '"']

/-- A specifier with its quotes. -/
def quotedSpecifier (index : Nat) : Regex :=
  sequence
    [specifierQuote, .group index (.many1 (.noneOf ['\'', '"'])), specifierQuote]

/-- The start of a line with a keyword behind spaces and tabs. -/
def lineKeyword (keyword : String) : Regex :=
  sequence [.anchor .lineStart, .many (.oneOf [' ', '\t']), literal keyword]

/-- The keyword that makes a whole statement import types only. -/
def typeKeyword : Regex :=
  .optional (.group 1 (.seq (literal "type") (.many1 .blank)))

/-- A character of an identifier. -/
def isIdentifierChar (c : Char) : Bool :=
  Text.isWord c || c == '$'

/-- `import ... from '...'`. -/
def clauseImport : Regex :=
  sequence
    [lineKeyword "import", .many1 .blank, typeKeyword,
     .group 2
      (.seq (.one fun c => isIdentifierChar c || c == '*' || c == '\x7b')
        (.manyLazy (.noneOf ['\'', '"']))),
     .many .blank, literal "from", .many .blank, quotedSpecifier 3]

/-- `import '...'`. -/
def effectImport : Regex :=
  sequence [lineKeyword "import", .many .blank, quotedSpecifier 3]

/-- `export ... from '...'`. -/
def exportFrom : Regex :=
  sequence
    [lineKeyword "export", .many1 .blank, typeKeyword,
     .group 2
      (.alt
        (.seq (.char '*')
          (.optional
            (sequence
              [.many1 .blank, literal "as", .many1 .blank, .many1 (.one isIdentifierChar)])))
        (sequence [.char '\x7b', .many (.noneOf ['\x7d']), .char '\x7d'])),
     .many .blank, literal "from", .many .blank, quotedSpecifier 3]

/-- `require('...')` and `import('...')`. -/
def moduleCall : Regex :=
  sequence
    [.anchor (.word false .boundary), .alt (literal "require") (literal "import"),
     .many .blank, .char '(', .many .blank, quotedSpecifier 3, .many .blank, .char ')']

/-- The part of a clause before its first opening brace, and what the braces hold: the text up to
the last closing brace. Braces that are never closed hold all that follows, or nothing if a closing
brace stands before them. -/
def splitBraces (clause : List Char) : List Char × Option (List Char) :=
  let head := clause.takeWhile (· != '\x7b')
  match clause.dropWhile (· != '\x7b') with
  | [] => (clause, none)
  | _ :: inside =>
      let closed := Text.trimEnd (· != '\x7d') inside
      if closed.isEmpty then (head, some (if head.contains '\x7d' then [] else inside))
      else (head, some closed.dropLast)

/-- The kinds of a clause such as `Foo, { a, type B }`. -/
def clauseKinds (clause : List Char) (typeOnly : Bool) : List ImportKind :=
  let (head, braces) := splitBraces (Text.trim clause)
  let head := Text.trim (Text.trimEnd (· == ',') (Text.trim head))
  let wildcard := head.head? == some '*'
  let hasDefault := !head.isEmpty && !wildcard
  let items := ((braces.getD []).splitOn ',').map Text.trim |>.filter (!·.isEmpty)
  let inlineTypes :=
    !items.isEmpty && !hasDefault && !wildcard && items.all ("type ".toList.isPrefixOf ·)
  [if typeOnly || inlineTypes then .type else .value] ++
    (if hasDefault then [.default] else []) ++
    (if braces.isSome then [.named] else []) ++
    (if wildcard then [.wildcard] else [])

/-- The statement of a match, whose third group is the specifier. -/
def statementOf (code : List Char) (kinds : Match → List ImportKind) (found : Match) :
    ImportStatement where
  specifier := String.ofList ((found.group? code 3).getD [])
  kinds := kinds found
  start := found.first

/-- The kinds of a match with a clause in its second group. -/
def kindsOfClause (code : List Char) (found : Match) : List ImportKind :=
  clauseKinds ((found.group? code 2).getD []) (found.group? code 1).isSome

/-- The statements of one form. -/
def statementsOf (form : Regex) (kinds : Match → List ImportKind) (code : List Char) :
    List ImportStatement :=
  (form.searchAll code).map (statementOf code kinds)

/-- The import statements of a source text. -/
def imports (text : List Char) : List ImportStatement :=
  let code := blankComments text
  (statementsOf clauseImport (kindsOfClause code) code ++
    statementsOf effectImport (fun _ => []) code ++
    statementsOf exportFrom (kindsOfClause code) code ++
    statementsOf moduleCall (fun _ => [.value]) code).mergeSort
      fun a b => decide (a.start ≤ b.start)

end ImportRules.Source
