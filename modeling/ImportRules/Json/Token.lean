import ImportRules.Text.Hex
/-!
# Tokens of JSON

A JSON text is a row of tokens with blanks between them: the brackets, commas and colons, the three
words, numbers and strings. Splitting a text into tokens decides everything about spelling, so that
what follows need not look at characters again.
-/

namespace ImportRules.Json

/-- A token. A string without content escapes one half of a surrogate pair without the other. -/
inductive Token where
  | openArray
  | closeArray
  | openObject
  | closeObject
  | comma
  | colon
  | null
  | bool (value : Bool)
  | number (literal : String)
  | string (content : Option String)
  deriving DecidableEq, Repr

/-- Blanks between tokens. -/
def isSpace (c : Char) : Bool :=
  c == ' ' || c == '\t' || c == '\n' || c == '\r'

def isHexDigit (c : Char) : Bool :=
  c.isDigit || ('a' ≤ c && c ≤ 'f') || ('A' ≤ c && c ≤ 'F')

/-- Value of four hexadecimal digits. -/
def hex4? (a b c d : Char) : Option Nat :=
  if [a, b, c, d].all isHexDigit then some (Text.hexValue [a, b, c, d]) else none

/-- What a single letter behind a backslash stands for. -/
def simpleEscape? : Char → Option Char
  | '"' => some '"'
  | '\\' => some '\\'
  | '/' => some '/'
  | 'b' => some '\x08'
  | 'f' => some '\x0c'
  | 'n' => some '\n'
  | 'r' => some '\r'
  | 't' => some '\t'
  | _ => none

/-- The first half of a surrogate pair. -/
def isHighSurrogate (n : Nat) : Bool :=
  0xD800 ≤ n && n ≤ 0xDBFF

/-- The second half of a surrogate pair. -/
def isLowSurrogate (n : Nat) : Bool :=
  0xDC00 ≤ n && n ≤ 0xDFFF

/-- The character that a surrogate pair stands for. -/
def pairedChar (high low : Nat) : Char :=
  Char.ofNat (0x10000 + (high - 0xD800) * 0x400 + (low - 0xDC00))

/-- A part of a string: a character, or one half of a surrogate pair. -/
inductive StringPart where
  | char (c : Char)
  | half (n : Nat)
  deriving DecidableEq, Repr

/-- What an escaped number stands for. -/
def StringPart.ofNumber (n : Nat) : StringPart :=
  if isHighSurrogate n || isLowSurrogate n then .half n else .char (Char.ofNat n)

/-- Characters that stand in a string as they are. -/
def isUnescaped (c : Char) : Bool :=
  c != '"' && c != '\\' && 32 ≤ c.toNat

/-- The parts that the text between two quotes spells, `none` if it is misspelt. -/
def stringParts? : List Char → Option (List StringPart)
  | [] => some []
  | '\\' :: 'u' :: a :: b :: c :: d :: rest => do
      let n ← hex4? a b c d
      let parts ← stringParts? rest
      some (.ofNumber n :: parts)
  | '\\' :: c :: rest => do
      let c ← simpleEscape? c
      let parts ← stringParts? rest
      some (.char c :: parts)
  | c :: rest =>
      if isUnescaped c then do
        let parts ← stringParts? rest
        some (.char c :: parts)
      else none

/-- The text of some parts, `none` if half of a pair stands without the other. -/
def joinParts? : List StringPart → Option (List Char)
  | [] => some []
  | .char c :: rest => (joinParts? rest).map (c :: ·)
  | .half high :: .half low :: rest =>
      if isHighSurrogate high && isLowSurrogate low then
        (joinParts? rest).map (pairedChar high low :: ·)
      else none
  | .half _ :: _ => none

/-- The text up to a quote that is not escaped, and the text behind it. -/
def upToQuote? : List Char → Option (List Char × List Char)
  | [] => none
  | '\\' :: c :: rest => (upToQuote? rest).map fun (inner, rest) => ('\\' :: c :: inner, rest)
  | c :: rest =>
      if c = '"' then some ([], rest)
      else (upToQuote? rest).map fun (inner, rest) => (c :: inner, rest)

/-- The content of a string behind its opening quote, and the text behind its closing quote. -/
def stringBody? (text : List Char) : Option (Option (List Char) × List Char) := do
  let (inner, rest) ← upToQuote? text
  let parts ← stringParts? inner
  some (joinParts? parts, rest)

/-- One or more digits and the text behind them. -/
def digits? (text : List Char) : Option (List Char × List Char) :=
  match text.takeWhile Char.isDigit with
  | [] => none
  | digits => some (digits, text.dropWhile Char.isDigit)

/-- The whole part of a number: a zero, or digits that start with another digit. -/
def wholePart? : List Char → Option (List Char × List Char)
  | '0' :: rest => some (['0'], rest)
  | text => digits? text

/-- The part of a number behind a point, empty without a point. -/
def fraction? : List Char → Option (List Char × List Char)
  | '.' :: rest => (digits? rest).map fun (digits, rest) => ('.' :: digits, rest)
  | text => some ([], text)

/-- The exponent of a number, empty if it has none. -/
def exponent? : List Char → Option (List Char × List Char)
  | c :: rest =>
      if c = 'e' ∨ c = 'E' then
        match rest with
        | '+' :: rest => (digits? rest).map fun (digits, rest) => (c :: '+' :: digits, rest)
        | '-' :: rest => (digits? rest).map fun (digits, rest) => (c :: '-' :: digits, rest)
        | rest => (digits? rest).map fun (digits, rest) => (c :: digits, rest)
      else some ([], c :: rest)
  | [] => some ([], [])

/-- A number without its sign. -/
def unsigned? (text : List Char) : Option (List Char × List Char) := do
  let (whole, text) ← wholePart? text
  let (fraction, text) ← fraction? text
  let (exponent, text) ← exponent? text
  some (whole ++ fraction ++ exponent, text)

/-- A number. -/
def number? : List Char → Option (List Char × List Char)
  | '-' :: rest => (unsigned? rest).map fun (literal, rest) => ('-' :: literal, rest)
  | text => unsigned? text

/-- The first token of a text that does not start with a blank, and the text behind it. -/
def nextToken? : List Char → Option (Token × List Char)
  | '[' :: rest => some (.openArray, rest)
  | ']' :: rest => some (.closeArray, rest)
  | '\x7b' :: rest => some (.openObject, rest)
  | '\x7d' :: rest => some (.closeObject, rest)
  | ',' :: rest => some (.comma, rest)
  | ':' :: rest => some (.colon, rest)
  | '"' :: rest =>
      (stringBody? rest).map fun (content, rest) => (.string (content.map String.ofList), rest)
  | 'n' :: 'u' :: 'l' :: 'l' :: rest => some (.null, rest)
  | 't' :: 'r' :: 'u' :: 'e' :: rest => some (.bool true, rest)
  | 'f' :: 'a' :: 'l' :: 's' :: 'e' :: rest => some (.bool false, rest)
  | text => (number? text).map fun (literal, rest) => (.number (String.ofList literal), rest)

/-- The tokens of a text. Every token reads at least one character, so that the length of the text
bounds their number. -/
def tokensWithin? : Nat → List Char → Option (List Token)
  | bound, text =>
      match text.dropWhile isSpace with
      | [] => some []
      | text =>
          match bound with
          | 0 => none
          | bound + 1 => do
              let (token, rest) ← nextToken? text
              let tokens ← tokensWithin? bound rest
              some (token :: tokens)

/-- The tokens of a text, `none` if it is misspelt. -/
def tokens? (text : List Char) : Option (List Token) :=
  tokensWithin? text.length text

end ImportRules.Json
