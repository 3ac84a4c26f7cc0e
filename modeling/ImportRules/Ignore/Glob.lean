import ImportRules.Regex.Matching
/-!
# Globs of ignore files

A glob of an ignore file describes a path below the directory of the file. A star stands for any
text within a name, two stars for any number of whole directories, a question mark for one byte, a
bracket for one byte out of a set, and braces for one of several globs. A path is matched byte by
byte, each byte standing for the character of the same number.
-/

namespace ImportRules.IgnoreGlob

/-- A part of a glob. -/
inductive Token where
  | char (c : Char)
  | anyByte
  | anyRun
  /-- Two stars at the start: any number of directories, with a `/` behind each. -/
  | leadingDirectories
  /-- Two stars at the end: everything below a directory. -/
  | everythingBelow
  /-- Two stars between two `/`: any number of directories between them. -/
  | innerDirectories
  | set (negated : Bool) (ranges : List (Char × Char))
  | oneOf (branches : List (List Token))

/-- What reading a bracket came to. -/
inductive SetReading where
  | closed (ranges : List (Char × Char)) (rest : List Char)
  | unclosed
  /-- A range runs backwards. -/
  | backwards

/-- Reads a bracket behind its start. `ranges` are those read so far, latest first; `first` tells
that nothing is read yet, and `inRange` that a hyphen waits for the end of its range. -/
def readSet (first inRange : Bool) (ranges : List (Char × Char)) : List Char → SetReading
  | [] => .unclosed
  | c :: rest =>
      if c = ']' ∧ ¬ first then
        .closed (if inRange then ('-', '-') :: ranges else ranges) rest
      else if c = '-' ∧ ¬ first ∧ ¬ inRange then readSet false true ranges rest
      else
        match inRange, ranges with
        | true, (low, _) :: others =>
            if c < low then .backwards else readSet false false ((low, c) :: others) rest
        | _, _ => readSet false false ((c, c) :: ranges) rest

/-- An open brace: the tokens before it and its finished branches, latest first. -/
structure Brace where
  before : List Token
  branches : List (List Token)

/-- A glob as far as it is read. -/
structure Draft where
  /-- Tokens of the branch that is being read, latest first. -/
  tokens : List Token := []
  /-- Open braces, innermost first. -/
  braces : List Brace := []

namespace Draft

def push (draft : Draft) (token : Token) : Draft :=
  { draft with tokens := token :: draft.tokens }

/-- Two stars that do not stand for directories are no more than one. -/
def pushRuns (draft : Draft) : Draft :=
  (draft.push .anyRun).push .anyRun

/-- Two stars behind a separator take its place, unless the tokens before already stand for
directories. -/
def pushDirectories (draft : Draft) (token : Token) : Draft :=
  match draft.tokens with
  | .leadingDirectories :: _ | .everythingBelow :: _ => draft
  | _ :: rest => { draft with tokens := token :: rest }
  | [] => draft

def openBrace (draft : Draft) : Draft :=
  { tokens := [], braces := ⟨draft.tokens, []⟩ :: draft.braces }

/-- A comma divides branches inside a brace and is a character elsewhere. -/
def comma (draft : Draft) : Draft :=
  match draft.braces with
  | [] => draft.push (.char ',')
  | brace :: outer =>
      { tokens := []
        braces := { brace with branches := draft.tokens.reverse :: brace.branches } :: outer }

def closeBrace? (draft : Draft) : Option Draft :=
  match draft.braces with
  | [] => none
  | brace :: outer =>
      let branches := (draft.tokens.reverse :: brace.branches).reverse
      some { tokens := .oneOf branches :: brace.before, braces := outer }

/-- Whether two stars may stand for directories behind a given character. -/
def opensDirectories (draft : Draft) (previous : Option Char) : Bool :=
  previous == some '/' ||
    (!draft.braces.isEmpty && (previous == some ',' || previous == some '\x7b'))

/-- Whether a branch may end before a given character. -/
def endsBranch (draft : Draft) (next : Char) : Bool :=
  !draft.braces.isEmpty && (next == ',' || next == '\x7d')

end Draft

/-- What two stars mean behind a character and before the rest of a glob: the draft with them, and
whether a `/` that follows belongs to them. -/
def readStars (draft : Draft) (previous : Option Char) (rest : List Char) : Draft × Bool :=
  if draft.tokens.isEmpty then
    match rest with
    | [] => (draft.push .leadingDirectories, false)
    | '/' :: _ => (draft.push .leadingDirectories, true)
    | _ => (draft.pushRuns, false)
  else if draft.opensDirectories previous then
    match rest with
    | [] => (draft.pushDirectories .everythingBelow, false)
    | '/' :: _ => (draft.pushDirectories .innerDirectories, true)
    | next :: _ =>
        if draft.endsBranch next then (draft.pushDirectories .everythingBelow, false)
        else (draft.pushRuns, false)
  else (draft.pushRuns, false)

/-- Reads a bracket as a set, or as the character itself if it is never closed. -/
def readBracket (rest : List Char) : Option (Token × List Char) :=
  let (negated, body) :=
    match rest with
    | '!' :: body => (true, body)
    | '^' :: body => (true, body)
    | body => (false, body)
  match readSet true false [] body with
  | .closed ranges rest => some (.set negated ranges, rest)
  | .unclosed => some (.char '[', rest)
  | .backwards => none

/-- Reads the rest of a glob. `none` means that it is malformed: a range runs backwards, braces do
not match, or nothing follows a backslash. -/
def readTokens (draft : Draft) (previous : Option Char) (text : List Char) :
    Option (List Token) :=
  match text with
  | [] => if draft.braces.isEmpty then some draft.tokens.reverse else none
  | '*' :: '*' :: rest =>
      match readStars draft previous rest, rest with
      | (draft, true), c :: rest => readTokens draft (some c) rest
      | (draft, _), rest => readTokens draft (some '*') rest
  | '*' :: rest => readTokens (draft.push .anyRun) (some '*') rest
  | '?' :: rest => readTokens (draft.push .anyByte) (some '?') rest
  | '\x7b' :: rest => readTokens draft.openBrace (some '\x7b') rest
  | '\x7d' :: rest =>
      match draft.closeBrace? with
      | some draft => readTokens draft (some '\x7d') rest
      | none => none
  | ',' :: rest => readTokens draft.comma (some ',') rest
  | '\\' :: c :: rest => readTokens (draft.push (.char c)) (some c) rest
  | '\\' :: [] => none
  | '[' :: rest =>
      match readBracket rest with
      | some (token, behind) =>
          if _h : behind.length ≤ rest.length then
            readTokens (draft.push token) (some ']') behind
          else none
      | none => none
  | c :: rest => readTokens (draft.push (.char c)) (some c) rest
termination_by text.length

/-- Bytes as a text, each as the character of the same number. -/
def byteChars (bytes : List UInt8) : List Char :=
  bytes.map fun byte => Char.ofNat byte.toNat

/-- The bytes of a character. -/
def charBytes (c : Char) : List Char :=
  byteChars (String.utf8EncodeChar c)

/-- The ranges of bytes that a range of characters stands for. Only the last byte of its start and
the first byte of its end make up a range; the other bytes stand for themselves. -/
def byteRanges (low high : Char) : List (Char × Char) :=
  let single := fun byte : Char => (byte, byte)
  if low = high then (charBytes low).map single
  else
    let front := charBytes low
    let back := charBytes high
    front.dropLast.map single ++
      (match front.getLast?, back.head? with
        | some first, some last => [(first, last)]
        | _, _ => []) ++
      back.tail.map single

/-- Whether a byte is in a set. -/
def inRanges (ranges : List (Char × Char)) (byte : Char) : Bool :=
  (ranges.flatMap fun (low, high) => byteRanges low high).any fun (low, high) =>
    decide (low ≤ byte ∧ byte ≤ high)

/-- Any bytes at all. -/
def anything : Regex :=
  .many (.one fun _ => true)

mutual

/-- The expression for a token, `none` if it stands for nothing at all. -/
def tokenRegex? : Token → Option Regex
  | .char c => some (.sequence ((charBytes c).map .char))
  | .anyByte => some (.noneOf ['/'])
  | .anyRun => some (.many (.noneOf ['/']))
  | .leadingDirectories => some (.alt (.optional (.char '/')) (.seq anything (.char '/')))
  | .everythingBelow => some (.seq (.char '/') anything)
  | .innerDirectories =>
      some (.seq (.char '/') (.optional (.seq anything (.char '/'))))
  | .set negated ranges => some (.one fun byte => inRanges ranges byte != negated)
  | .oneOf branches =>
      match branchRegexes branches with
      | [] => none
      | regexes => some (.choice regexes)

/-- The expression for a row of tokens. -/
def rowRegex? : List Token → Option Regex
  | [] => none
  | token :: rest =>
      match tokenRegex? token, rowRegex? rest with
      | some first, some second => some (.seq first second)
      | some regex, none | none, some regex => some regex
      | none, none => none

/-- The expressions for those branches that stand for something. -/
def branchRegexes : List (List Token) → List Regex
  | [] => []
  | branch :: rest => (rowRegex? branch).toList ++ branchRegexes rest

end

/-- The expression for a whole glob. Two stars alone stand for every path. -/
def regex (tokens : List Token) : Regex :=
  let body :=
    match tokens with
    | [.leadingDirectories] => anything
    | tokens => (rowRegex? tokens).getD .empty
  .seq (.anchor .textStart) (.seq body (.anchor .textEnd))

/-- The expression that a glob stands for, `none` if the glob is malformed. -/
def ofText? (text : String) : Option Regex :=
  (readTokens {} none text.toList).map regex

end ImportRules.IgnoreGlob
