/-!
# Blanking comments

Comments of a source text are overwritten with spaces, so that the rest keeps its place: every
byte of a comment becomes one space, and newlines stay. Marks of a comment inside a string literal
are part of the string. A string ends at its closing quote or, unless it is a template, at the end
of the line.
-/

namespace ImportRules.Source

/-- What the text at a place belongs to. -/
inductive Region where
  | code
  | lineComment
  | blockComment
  /-- A string literal with its quote. -/
  | literal (quote : Char)
  deriving DecidableEq, Repr

/-- The quotes that open a string literal. -/
def isQuote (c : Char) : Bool :=
  c == '"' || c == '\'' || c == '\x60'

/-- As many spaces as a character has bytes. -/
def blankOut (c : Char) : List Char :=
  List.replicate c.utf8Size ' '

/-- The region behind a character inside a string literal. -/
def behindLiteralChar (quote c : Char) : Region :=
  if c = quote ∨ (c = '\n' ∧ quote ≠ '\x60') then .code else .literal quote

/-- Blanks the comments of a text that starts in a given region. -/
def blankFrom : Region → List Char → List Char
  | _, [] => []
  | .code, '/' :: '/' :: rest => ' ' :: ' ' :: blankFrom .lineComment rest
  | .code, '/' :: '*' :: rest => ' ' :: ' ' :: blankFrom .blockComment rest
  | .code, c :: rest => c :: blankFrom (if isQuote c then .literal c else .code) rest
  | .lineComment, c :: rest =>
      if c = '\n' then c :: blankFrom .code rest else blankOut c ++ blankFrom .lineComment rest
  | .blockComment, '*' :: '/' :: rest => ' ' :: ' ' :: blankFrom .code rest
  | .blockComment, c :: rest =>
      (if c = '\n' then [c] else blankOut c) ++ blankFrom .blockComment rest
  | .literal quote, '\\' :: c :: rest => '\\' :: c :: blankFrom (.literal quote) rest
  | .literal quote, c :: rest =>
      if c = '\\' then c :: blankFrom (.literal quote) rest
      else c :: blankFrom (behindLiteralChar quote c) rest

/-- Blanks the comments of a source text. -/
def blankComments (text : List Char) : List Char :=
  blankFrom .code text

end ImportRules.Source
