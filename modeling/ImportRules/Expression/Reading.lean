import ImportRules.Text.Blank
import ImportRules.Text.CaseFold
/-!
# Reading written expressions

The state of a reader is the text still to be read, the switches that are on, and the groups seen so
far. A reader fails when the text is no expression; why it is none is never told.

Switches hold from where they are written to the end of the enclosing group, also across its
alternatives. One of them allows blanks and comments between the signs of an expression.
-/

namespace ImportRules.Expression

open Text (CharSet)

/-- Switches that change how the rest of a group is read. -/
structure Flags where
  ignoreCase : Bool := false
  multiLine : Bool := false
  dotMatchesNewline : Bool := false
  swapGreed : Bool := false
  /-- Classes hold characters of all scripts; otherwise they hold bytes. -/
  unicode : Bool := true
  returnEndsLine : Bool := false
  ignoreBlanks : Bool := false

/-- A set with the case variants that the switches ask for. -/
def Flags.fold (flags : Flags) (set : CharSet) : CharSet :=
  if !flags.ignoreCase then set
  else if flags.unicode then set.closeCase
  else set.closeAsciiCase

/-- State of a reader. -/
structure ReadState where
  rest : List Char
  flags : Flags := {}
  groups : Nat := 0
  names : List (List Char) := []

/-- A reader of a part of an expression. -/
abbrev Reading := StateT ReadState Option

/-- Expressions nested deeper than this are refused. -/
def maxDepth : Nat := 250

namespace Reading

/-- The depth of something that encloses parts of the given depths. -/
def enclose (depths : List Nat) : Reading Nat := do
  let depth := depths.foldl max 0 + 1
  if depth ≤ maxDepth then return depth else failure

def flags : Reading Flags := do
  return (← get).flags

def peek? : Reading (Option Char) := do
  return (← get).rest.head?

/-- Drops one character. -/
def advance : Reading Unit :=
  modify fun state => { state with rest := state.rest.drop 1 }

/-- The text without leading blanks and `#` comments. -/
def dropBlanksAndComments : Nat → List Char → List Char
  | 0, text => text
  | fuel + 1, text =>
      match text.dropWhile Text.isBlank with
      | '#' :: rest => dropBlanksAndComments fuel (rest.dropWhile (· != '\n'))
      | rest => rest

/-- Skips blanks and comments where the switches allow them. -/
def skipBlanks : Reading Unit :=
  modify fun state =>
    if state.flags.ignoreBlanks then
      { state with rest := dropBlanksAndComments state.rest.length state.rest }
    else state

/-- Drops one character and then the blanks behind it. -/
def advanceAndSkip : Reading Unit := do
  advance
  skipBlanks

/-- The next character, which must exist. -/
def current : Reading Char := do
  match ← peek? with
  | some c => return c
  | none => failure

/-- Drops the given text if it comes next. -/
def accept (text : String) : Reading Bool := do
  let state ← get
  match text.toList.isPrefixOf? state.rest with
  | some rest =>
      set { state with rest := rest }
      return true
  | none => return false

/-- Drops the given character, which must come next. -/
def expect (c : Char) : Reading Unit := do
  if (← peek?) == some c then advance else failure

/-- Characters from here on that satisfy a predicate; blanks between them are skipped. -/
def collect (wanted : Char → Bool) : Nat → Reading (List Char)
  | 0 => return []
  | fuel + 1 => do
      match ← peek? with
      | some c =>
          if wanted c then
            advanceAndSkip
            return c :: (← collect wanted fuel)
          else return []
      | none => return []

/-- Number of characters left, an upper bound for every loop. -/
def room : Reading Nat := do
  return (← get).rest.length

/-- The character that counts behind the next one. Where blanks are skipped, so are those between
the two and the sign of one comment, but not what the comment says. -/
def peekBehind? : Reading (Option Char) := do
  let state ← get
  let behind := state.rest.drop 1
  if !state.flags.ignoreBlanks then return behind.head?
  let shown :=
    match behind.dropWhile Text.isBlank with
    | '#' :: rest => rest.dropWhile Text.isBlank
    | rest => rest
  return shown.head? <|> behind.head?

end Reading

end ImportRules.Expression
