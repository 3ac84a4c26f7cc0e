import ImportRules.Text.Hex
import ImportRules.Text.Reading
/-!
# Spelling of TOML

The pieces that TOML lines are made of: blanks, comments and line ends, strings in their four
forms, and keys.
-/

namespace ImportRules.Toml

/-- Blanks inside a line. -/
def isSpace (c : Char) : Bool :=
  c == ' ' || c == '\t'

/-- Characters that may stand in a comment: all but control characters, and the tab. -/
def isPrintable (c : Char) : Bool :=
  c == '\t' || (' ' ≤ c && c != '\x7f')

def isHexDigit (c : Char) : Bool :=
  c.isDigit || ('a' ≤ c && c ≤ 'f') || ('A' ≤ c && c ≤ 'F')

def skipSpace (text : List Char) : List Char :=
  text.dropWhile isSpace

/-- A line end. -/
def newline : Reader Unit
  | '\n' :: rest => some ((), rest)
  | '\r' :: '\n' :: rest => some ((), rest)
  | _ => none

/-- The text behind a comment, or the text itself if it does not start with one. -/
def skipComment : List Char → List Char
  | '#' :: rest => rest.dropWhile isPrintable
  | text => text

/-- What may stand behind the last value of a line: blanks, a comment, and a line end or the end of
the text. -/
def lineEnd (text : List Char) : Option (Unit × List Char) :=
  match skipComment (skipSpace text) with
  | [] => some ((), [])
  | rest => newline rest

/-- One of the blanks, line ends and comments between the items of an array. -/
def gap : Reader Unit
  | '#' :: rest => some ((), rest.dropWhile isPrintable)
  | ' ' :: rest => some ((), rest)
  | '\t' :: rest => some ((), rest)
  | text => newline text

/-- The text behind the blanks, line ends and comments between the items of an array. -/
def skipGaps (text : List Char) : List Char :=
  (Reader.many gap text).2

/-- A character given by a number of hexadecimal digits. -/
def codePoint (digits : Nat) (text : List Char) : Option (Char × List Char) := do
  let (written, rest) ← Reader.exactly digits isHexDigit text
  let n := Text.hexValue written
  if n.isValidChar then some (Char.ofNat n, rest) else none

/-- The character that stands for what follows a backslash. -/
def escape : Reader Char
  | 'b' :: rest => some ('\x08', rest)
  | 't' :: rest => some ('\t', rest)
  | 'n' :: rest => some ('\n', rest)
  | 'f' :: rest => some ('\x0c', rest)
  | 'r' :: rest => some ('\r', rest)
  | '"' :: rest => some ('"', rest)
  | '\\' :: rest => some ('\\', rest)
  | 'u' :: rest => codePoint 4 rest
  | 'U' :: rest => codePoint 8 rest
  | _ => none

/-- A character of a string in double quotes. -/
def basicChar : Reader Char
  | '"' :: _ => none
  | '\\' :: rest => escape rest
  | c :: rest => if isPrintable c then some (c, rest) else none
  | [] => none

/-- A character of a string in single quotes. -/
def literalChar : Reader Char
  | '\'' :: _ => none
  | c :: rest => if isPrintable c then some (c, rest) else none
  | [] => none

/-- The text behind a backslash at the end of a line: the blanks and line ends that it swallows are
passed over. -/
def continuation (text : List Char) : Option (List Char) :=
  (newline (skipSpace text)).map fun (_, rest) =>
    (Reader.many (fun
      | ' ' :: rest => some ((), rest)
      | '\t' :: rest => some ((), rest)
      | text => newline text) rest).2

/-- A piece of a string of several lines in double quotes. -/
def basicPiece : Reader (List Char)
  | '"' :: '"' :: '"' :: _ => none
  | '"' :: rest => some (['"'], rest)
  | '\\' :: rest =>
      match continuation rest with
      | some rest => some ([], rest)
      | none => (escape rest).map fun (c, rest) => ([c], rest)
  | text =>
      match newline text with
      | some (_, rest) => some (['\n'], rest)
      | none => (basicChar text).map fun (c, rest) => ([c], rest)

/-- A piece of a string of several lines in single quotes. -/
def literalPiece : Reader (List Char)
  | '\'' :: '\'' :: '\'' :: _ => none
  | '\'' :: rest => some (['\''], rest)
  | text =>
      match newline text with
      | some (_, rest) => some (['\n'], rest)
      | none => (literalChar text).map fun (c, rest) => ([c], rest)

/-- A string of one line behind its opening quote. -/
def shortString (quote : Char) (char : Reader Char) (text : List Char) :
    Option (String × List Char) := do
  let (content, rest) := Reader.many char text
  let (_, rest) ← Reader.expect quote rest
  some (String.ofList content, rest)

/-- A string of several lines behind its three opening quotes. A line end directly behind them is
dropped, and up to two quotes before the closing three belong to the string. -/
def longString (quote : Char) (piece : Reader (List Char)) (text : List Char) :
    Option (String × List Char) := do
  let text := ((newline text).map (·.2)).getD text
  let (content, rest) := Reader.many piece text
  let quotes := (rest.takeWhile (· == quote)).length
  if quotes < 3 then none
  else
    let spare := min (quotes - 3) 2
    some (String.ofList (content.flatten ++ List.replicate spare quote), rest.drop (3 + spare))

/-- A string in any of the four forms. -/
def quoted : Reader String
  | '"' :: '"' :: '"' :: rest => longString '"' basicPiece rest
  | '"' :: rest => shortString '"' basicChar rest
  | '\'' :: '\'' :: '\'' :: rest => longString '\'' literalPiece rest
  | '\'' :: rest => shortString '\'' literalChar rest
  | _ => none

/-- Characters of a key without quotes. -/
def isBareKeyChar (c : Char) : Bool :=
  c.isAlphanum || c == '_' || c == '-'

/-- One part of a key, with the blanks around it. -/
def keyPart (text : List Char) : Option (String × List Char) :=
  let part :=
    match skipSpace text with
    | '"' :: rest => shortString '"' basicChar rest
    | '\'' :: rest => shortString '\'' literalChar rest
    | text => (Reader.run isBareKeyChar text).map fun (part, rest) => (String.ofList part, rest)
  part.map fun (part, rest) => (part, skipSpace rest)

/-- A key has fewer parts than this, and values are nested less deeply. -/
def nestingLimit : Nat :=
  80

/-- A key: parts divided by dots. -/
def key (text : List Char) : Option (List String × List Char) := do
  let (parts, rest) ← Reader.separated keyPart '.' text
  if parts.length < nestingLimit then some (parts, rest) else none

end ImportRules.Toml
