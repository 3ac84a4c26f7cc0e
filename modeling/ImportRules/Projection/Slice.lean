import ImportRules.Filter
import ImportRules.Regex.Matching
/-!
# Slice patterns

A slice pattern labels a unit with the part of its path that a single capture takes. Written as a
glob it starts at the beginning of the path and may end anywhere in it: `(*)` captures one
segment and `(**)` one or more whole segments, as few as the rest of the pattern allows unless it
ends the pattern; outside the capture `**` stands for any text within a line, `*` for any text
within a segment and `?` for one character other than `/`. Such a glob is written out as a regular
expression and refused if that takes too much memory. Written as a regular expression a slice
pattern is searched for anywhere and must have exactly one group.
-/

namespace ImportRules

namespace SliceGlob

/-- A part of a slice glob. -/
inductive Token where
  | capturePath
  | captureSegment
  | anyText
  | anyRun
  | anyChar
  | char (c : Char)
  deriving DecidableEq, Repr

/-- Reads the parts of a slice glob, or names the first parenthesis that belongs to no capture. -/
def tokens : List Char → Except Char (List Token)
  | [] => .ok []
  | '(' :: '*' :: '*' :: ')' :: rest => (tokens rest).map (.capturePath :: ·)
  | '(' :: '*' :: ')' :: rest => (tokens rest).map (.captureSegment :: ·)
  | '*' :: '*' :: rest => (tokens rest).map (.anyText :: ·)
  | '*' :: rest => (tokens rest).map (.anyRun :: ·)
  | '?' :: rest => (tokens rest).map (.anyChar :: ·)
  | c :: rest =>
      if c = '(' ∨ c = ')' then .error c else (tokens rest).map (.char c :: ·)

def Token.isCapture : Token → Bool
  | .capturePath | .captureSegment => true
  | _ => false

/-- Number of captures. -/
def captures (tokens : List Token) : Nat :=
  tokens.countP Token.isCapture

/-- A non-empty text without `/`. -/
def segment : Regex :=
  .many1 (.noneOf ['/'])

/-- One or more segments with `/` between them. -/
def segmentPath (greedy : Bool) : Regex :=
  .seq segment (.repeated (.seq (.char '/') segment) 0 none greedy)

/-- The expression for a part of a slice glob; `last` tells whether the part ends the pattern. -/
def Token.regex (last : Bool) : Token → Regex
  | .capturePath => .group 1 (segmentPath last)
  | .captureSegment => .group 1 segment
  | .anyText => .many (.noneOf ['\n'])
  | .anyRun => .many (.noneOf ['/'])
  | .anyChar => .noneOf ['/']
  | .char c => .char c

/-- The expression for the parts of a slice glob, one after the other. -/
def partsRegex : List Token → Regex
  | [] => .empty
  | token :: rest => .seq (token.regex rest.isEmpty) (partsRegex rest)

/-- The expression for a whole slice glob. -/
def regex (tokens : List Token) : Regex :=
  .seq (.anchor .textStart) (partsRegex tokens)

/-- A part of a slice glob as a regular expression is written; `last` tells whether the part ends
the pattern. -/
def Token.written (last : Bool) : Token → List Char
  | .capturePath => (if last then "([^/]+(?:/[^/]+)*)" else "([^/]+(?:/[^/]+)*?)").toList
  | .captureSegment => "([^/]+)".toList
  | .anyText => ".*".toList
  | .anyRun => "[^/]*".toList
  | .anyChar => "[^/]".toList
  | .char c => Expression.escaped c

/-- Parts of a slice glob as a regular expression is written. -/
def partsWritten : List Token → List Char
  | [] => []
  | token :: rest => token.written rest.isEmpty ++ partsWritten rest

/-- A whole slice glob as a regular expression is written. -/
def written (parts : List Token) : List Char :=
  '^' :: partsWritten parts

/-- Why a slice glob is refused whose expression would take too much memory. -/
def tooLarge : String :=
  s!"Compiled regex exceeds size limit of {Expression.memoryLimit} bytes."

end SliceGlob

/-- What a slice pattern is searched for with: the expression that a glob stands for, or a written
expression with its automaton. -/
inductive SliceSearch where
  | glob (parsed : Regex)
  | regex (parsed : Expression) (automaton : Automaton)

namespace SliceSearch

/-- The leftmost match in a text. -/
def search? : SliceSearch → List Char → Option Regex.Match
  | .glob parsed, text => parsed.search? text
  | .regex _ automaton, text => automaton.search? text

/-- The greatest group number. -/
def groupCount : SliceSearch → Nat
  | .glob parsed => parsed.groupCount
  | .regex parsed _ => parsed.groupCount

end SliceSearch

/-- A slice pattern as written, with a search whose first group is the label. -/
structure SlicePattern where
  raw : String
  search : SliceSearch

namespace SlicePattern

/-- Reads a slice pattern written as a glob. -/
def ofGlob (text : String) : Except PatternError SlicePattern :=
  if text.isEmpty then .error .empty
  else
    match SliceGlob.tokens text.toList with
    | .error c => .error (.invalidGlob text s!"`{c}` is only allowed in `(*)` or `(**)`")
    | .ok tokens =>
        let found := SliceGlob.captures tokens
        if found ≠ 1 then .error (.captureGroups text found)
        else
          match Expression.ofText? (SliceGlob.written tokens) with
          | none => .error (.invalidGlob text SliceGlob.tooLarge)
          | some _ => .ok ⟨text, .glob (SliceGlob.regex tokens)⟩

/-- Reads a slice pattern written as a regular expression. -/
def ofRegex (text : String) : Except PatternError SlicePattern :=
  if text.isEmpty then .error .empty
  else
    match Expression.ofText? text.toList with
    | none => .error (.invalidRegex text)
    | some parsed =>
        let found := parsed.groupCount
        if found = 1 then .ok ⟨text, .regex parsed parsed.automaton⟩
        else .error (.captureGroups text found)

/-- The label of a unit, `none` if the pattern captures nothing in it. -/
def label? (pattern : SlicePattern) (unit : String) : Option String :=
  let text := unit.toList
  ((pattern.search.search? text).bind (·.group? text 1)).bind fun captured =>
    if captured.isEmpty then none else some (String.ofList captured)

end SlicePattern

end ImportRules
