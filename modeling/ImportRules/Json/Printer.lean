import ImportRules.Json.Basic
/-!
# Writing JSON

Values are written over several lines with two spaces for each level. In strings only quotes,
backslashes and control characters are escaped.
-/

namespace ImportRules.Json

/-- A digit below sixteen in lower case. -/
def lowerHexDigit (n : Nat) : Char :=
  if n < 10 then Char.ofNat ('0'.toNat + n) else Char.ofNat ('a'.toNat + (n - 10))

/-- A character inside a string. -/
def escapeChar (c : Char) : List Char :=
  if c = '"' then ['\\', '"']
  else if c = '\\' then ['\\', '\\']
  else if c = '\n' then ['\\', 'n']
  else if c = '\r' then ['\\', 'r']
  else if c = '\t' then ['\\', 't']
  else if c = '\x08' then ['\\', 'b']
  else if c = '\x0c' then ['\\', 'f']
  else if c.toNat < 32 then
    ['\\', 'u', '0', '0', lowerHexDigit (c.toNat / 16), lowerHexDigit (c.toNat % 16)]
  else [c]

/-- A string with its quotes. -/
def quoted (text : String) : List Char :=
  '"' :: (text.toList.flatMap escapeChar ++ ['"'])

/-- A new line indented to a level. -/
def newline (level : Nat) : List Char :=
  '\n' :: List.replicate (2 * level) ' '

mutual

/-- A value whose lines after the first are indented to a level. -/
def print (level : Nat) : Json → List Char
  | .null => ['n', 'u', 'l', 'l']
  | .bool true => ['t', 'r', 'u', 'e']
  | .bool false => ['f', 'a', 'l', 's', 'e']
  | .number literal => literal.toList
  | .string text => quoted text
  | .brokenString => ['"', '"']
  | .array [] => ['[', ']']
  | .array (item :: items) =>
      '[' :: newline (level + 1) ++ print (level + 1) item ++ printItems (level + 1) items ++
        newline level ++ [']']
  | .object [] => ['\x7b', '\x7d']
  | .object ((name, value) :: members) =>
      '\x7b' :: newline (level + 1) ++ quoted name ++ [':', ' '] ++ print (level + 1) value ++
        printMembers (level + 1) members ++ newline level ++ ['\x7d']

/-- Further items of an array. -/
def printItems (level : Nat) : List Json → List Char
  | [] => []
  | item :: items => ',' :: newline level ++ print level item ++ printItems level items

/-- Further members of an object. -/
def printMembers (level : Nat) : List (String × Json) → List Char
  | [] => []
  | (name, value) :: members =>
      ',' :: newline level ++ quoted name ++ [':', ' '] ++ print level value ++
        printMembers level members

end

/-- The text of a value. -/
def pretty (value : Json) : String :=
  String.ofList (print 0 value)

end ImportRules.Json
