import ImportRules.Expression.Reading
import ImportRules.Regex.Anchor
import ImportRules.Text.Property
/-!
# Escape sequences

A backslash gives a meaning to a letter and takes the meaning from a sign. An escape stands for a
character, for a set of characters or for an anchor.

Where classes hold bytes, a set that would need a byte outside ASCII is refused, because it could
split a character. The complement of a set always needs one.
-/

namespace ImportRules.Expression

open Text (CharSet)
open Reading

/-- What an escape sequence stands for. A character may have been written as the value of a
byte. -/
inductive Escape where
  | char (c : Char) (asByte : Bool)
  | charSet (set : CharSet)
  | anchor (condition : Anchor)

/-- A set or, if asked for, its complement. -/
def complementIf (negated : Bool) (set : CharSet) : Reading CharSet := do
  if !negated then return set
  if (← flags).unicode then return set.compl else failure

/-- Decimal digits, blanks and word characters. -/
def shorthand? (flags : Flags) : Char → Option CharSet
  | 'd' => some (if flags.unicode then Text.Category.decimalNumber.set else .range '0' '9')
  | 's' => some (if flags.unicode then Text.Trait.whiteSpace else .ofTable "9-d 20")
  | 'w' => some (if flags.unicode then Text.wordSet else .ofTable "30-39 41-5a 5f 61-7a")
  | _ => none

/-- Characters with a meaning of their own in expressions. -/
def isMeta (c : Char) : Bool :=
  ['\\', '.', '+', '*', '?', '(', ')', '|', '[', ']', '\x7b', '\x7d', '^', '$', '#', '&', '-',
    '~'].contains c

/-- A character as it is written, behind a backslash if it is a sign. -/
def escaped (c : Char) : List Char :=
  if isMeta c then ['\\', c] else [c]

/-- Characters that may follow a backslash to stand for themselves. -/
def isEscapable (c : Char) : Bool :=
  isMeta c || (c.toNat < 128 && !c.isAlphanum && c != '<' && c != '>')

def isHex (c : Char) : Bool :=
  c.isDigit || ('a' ≤ c && c ≤ 'f') || ('A' ≤ c && c ≤ 'F')

/-- The character with the given hexadecimal code. -/
def charOfHex (digits : List Char) : Reading Char := do
  let n := Text.hexValue digits
  if n.isValidChar then return Char.ofNat n else failure

/-- A fixed number of hexadecimal digits. -/
def hexDigits : Nat → Reading (List Char)
  | 0 => return []
  | count + 1 => do
      let c ← current
      if !isHex c then failure
      advanceAndSkip
      return c :: (← hexDigits count)

/-- The rest of an escape by code, behind its letter: a code in braces or a fixed number of digits.
Two digits are the value of a byte. -/
def hexEscape (digits : Nat) : Reading Escape := do
  advanceAndSkip
  if (← current) == '\x7b' then
    advanceAndSkip
    let code ← collect (· != '\x7d') (← room)
    expect '\x7d'
    skipBlanks
    if code.isEmpty || !code.all isHex then failure
    return .char (← charOfHex code) false
  else
    return .char (← charOfHex (← hexDigits digits)) (digits == 2)

/-- Splits a text at the first occurrence of another. -/
def splitAtText (part : List Char) : List Char → Option (List Char × List Char)
  | [] => none
  | c :: rest =>
      match part.isPrefixOf? (c :: rest) with
      | some behind => some ([], behind)
      | none => (splitAtText part rest).map fun (front, behind) => (c :: front, behind)

/-- The characters with the property that stands between braces, and whether the others are meant
instead. -/
def propertyNamed (name : List Char) : Option (CharSet × Bool) :=
  match splitAtText ['!', '='] name with
  | some (kind, value) => (Text.Property.valued? kind value).map (·, true)
  | none =>
      match splitAtText [':'] name <|> splitAtText ['='] name with
      | some (kind, value) => (Text.Property.valued? kind value).map (·, false)
      | none => (Text.Property.single? name).map (·, false)

/-- The rest of a property escape, behind its letter. -/
def propertyEscape (negated : Bool) : Reading Escape := do
  advanceAndSkip
  let c ← current
  let found ←
    if c == '\x7b' then do
      advanceAndSkip
      let name ← collect (· != '\x7d') (← room)
      expect '\x7d'
      pure (propertyNamed name)
    else do
      if c == '\\' then failure
      advanceAndSkip
      pure ((Text.Property.single? [c]).map (·, false))
  let flags ← flags
  if !flags.unicode then failure
  match found with
  | some (set, others) => return .charSet (← complementIf (negated != others) (flags.fold set))
  | none => failure

/-- The word edge with a written name. -/
def wordEdge? : String → Option WordEdge
  | "start" => some .start
  | "end" => some .stop
  | "start-half" => some .startHalf
  | "end-half" => some .stopHalf
  | _ => none

/-- The name of a word edge in braces. A brace that no letter or hyphen follows starts a counted
repetition instead and is left alone. -/
def namedEdge : Reading (Option WordEdge) := do
  let state ← get
  if (← peek?) != some '\x7b' then return none
  advanceAndSkip
  let isNameChar := fun c : Char => c.isAlpha || c == '-'
  if !isNameChar (← current) then
    set state
    return none
  let name ← collect isNameChar (← room)
  expect '\x7d'
  match wordEdge? (String.ofList name) with
  | some edge => return some edge
  | none => failure

/-- The control character that a letter stands for behind a backslash. -/
def controlChar? : Char → Option Char
  | 'a' => some '\x07'
  | 'f' => some '\x0c'
  | 't' => some '\t'
  | 'n' => some '\n'
  | 'r' => some '\r'
  | 'v' => some '\x0b'
  | _ => none

/-- The anchor that a letter stands for behind a backslash. -/
def anchorEscape (flags : Flags) : Char → Reading Anchor
  | 'A' => return .textStart
  | 'z' => return .textEnd
  | 'b' => do return .word (!flags.unicode) ((← namedEdge).getD .boundary)
  | 'B' => return .word (!flags.unicode) .interior
  | '<' => return .word (!flags.unicode) .start
  | '>' => return .word (!flags.unicode) .stop
  | _ => failure

/-- An escape sequence, from its backslash on. -/
def escape : Reading Escape := do
  advance
  let flags ← flags
  match ← current with
  | 'x' => hexEscape 2
  | 'u' => hexEscape 4
  | 'U' => hexEscape 8
  | 'p' => propertyEscape false
  | 'P' => propertyEscape true
  | c =>
      advance
      if isEscapable c then return .char c false
      match shorthand? flags c, shorthand? flags c.toLower, controlChar? c with
      | some set, _, _ => return .charSet set
      | none, some set, _ => return .charSet (← complementIf true set)
      | none, none, some c => return .char c false
      | none, none, none => return .anchor (← anchorEscape flags c)

end ImportRules.Expression
