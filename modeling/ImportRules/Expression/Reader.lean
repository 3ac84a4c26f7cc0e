import ImportRules.Expression.CharClass
import ImportRules.Expression.Memory
import ImportRules.Text.Word
/-!
# The written form of expressions

`Expression.ofText?` reads a written expression. Besides literals, classes, groups and repetitions
it knows switches (`(?i)`, `(?m:...)`), named groups, nested classes with set operations, character
properties and the named ASCII classes. There is no look-around and no back-reference, and a text
that uses them is no expression. Neither is a text that is nested too deeply or that stands for too
large a machine.
-/

namespace ImportRules.Expression

open Text (CharSet)
open Reading

/-- A part of an expression with the depth to which it is nested. -/
structure Piece where
  expression : Expression
  depth : Nat := 0

/-- A part of a sequence. A directive such as `(?i)` takes a place in the sequence but cannot be
repeated. -/
structure Item extends Piece where
  repeatable : Bool := true

/-- One switch by its letter. -/
def setFlag (flags : Flags) (value : Bool) : Char → Option Flags
  | 'i' => some { flags with ignoreCase := value }
  | 'm' => some { flags with multiLine := value }
  | 's' => some { flags with dotMatchesNewline := value }
  | 'U' => some { flags with swapGreed := value }
  | 'u' => some { flags with unicode := value }
  | 'R' => some { flags with returnEndsLine := value }
  | 'x' => some { flags with ignoreBlanks := value }
  | _ => none

/-- The switches of a group up to `:` or `)`. Every letter and the hyphen may stand once, and the
hyphen not last. -/
def readFlags : Nat → Flags → Bool → List Char → Reading (Flags × List Char)
  | 0, _, _, _ => failure
  | fuel + 1, flags, value, seen => do
      let c ← current
      if c == ':' || c == ')' then
        if seen.head? == some '-' then failure
        return (flags, seen)
      if seen.contains c then failure
      advance
      if c == '-' then readFlags fuel flags false (c :: seen)
      else
        match setFlag flags value c with
        | some flags => readFlags fuel flags value (c :: seen)
        | none => failure

/-- The name of a group up to its closing angle bracket. -/
def groupName : Reading (List Char) := do
  let rest := (← get).rest
  let name := rest.takeWhile (· != '>')
  modify fun state => { state with rest := rest.drop name.length }
  expect '>'
  match name with
  | [] => failure
  | c :: more =>
      let isPart := fun c : Char =>
        c == '_' || c == '.' || c == '[' || c == ']' || Text.isAlphabetic c || Text.isNumeric c
      if (c == '_' || Text.isAlphabetic c) && more.all isPart then return name else failure

/-- A decimal number between optional blanks. -/
def decimal : Reading Nat := do
  modify fun state => { state with rest := state.rest.dropWhile Text.isBlank }
  let digits ← collect Char.isDigit (← room)
  modify fun state => { state with rest := state.rest.dropWhile Text.isBlank }
  skipBlanks
  if digits.isEmpty then failure
  let value := digits.foldl (fun n c => 10 * n + (c.toNat - '0'.toNat)) 0
  if value < UInt32.size then return value else failure

/-- The bounds of a counted repetition, from its opening brace on. -/
def counts : Reading (Nat × Option Nat) := do
  advanceAndSkip
  if (← peek?).isNone then failure
  let least ← decimal
  let most ←
    if (← peek?) == some ',' then do
      advanceAndSkip
      if (← current) == '\x7d' then pure none else pure (some (← decimal))
    else pure (some least)
  expect '\x7d'
  skipBlanks
  match most with
  | some most => if most < least then failure else return (least, some most)
  | none => return (least, none)

/-- Items in a row, latest first. -/
def inRow (items : List Item) : Reading Piece :=
  match items with
  | [] => return { expression := .empty }
  | [item] => return item.toPiece
  | _ => do
      return {
        expression := sequence (items.reverse.map (·.expression))
        depth := ← enclose (items.map (·.depth)) }

/-- Alternatives, latest first. -/
def firstOf (pieces : List Piece) : Reading Piece :=
  match pieces with
  | [piece] => return piece
  | _ => do
      return {
        expression := choice (pieces.reverse.map (·.expression))
        depth := ← enclose (pieces.map (·.depth)) }

/-- A literal character under the switches. A byte outside ASCII is no character. -/
def literalChar (c : Char) (asByte : Bool) : Reading Expression := do
  let flags ← flags
  if !flags.unicode && asByte && 128 ≤ c.toNat then failure
  return ofSet (flags.fold (.single c))

/-- The characters that a dot stands for. -/
def dotSet (flags : Flags) : CharSet :=
  if flags.dotMatchesNewline then .all
  else if flags.returnEndsLine then (CharSet.ofChars ['\n', '\r']).compl
  else (CharSet.single '\n').compl

/-- A character outside classes that is neither a bracket nor an operator. -/
def primitive : Reading Expression := do
  let flags ← flags
  match ← current with
  | '\\' =>
      match ← escape with
      | .char c asByte => literalChar c asByte
      | .charSet set => return ofSet set
      | .anchor condition => return .anchor condition
  | '.' =>
      advance
      if flags.unicode then return ofSet (dotSet flags) else failure
  | '^' =>
      advance
      if !flags.multiLine then return .anchor .textStart
      return .anchor (if flags.returnEndsLine then .returnLineStart else .lineStart)
  | '$' =>
      advance
      if !flags.multiLine then return .anchor .textEnd
      return .anchor (if flags.returnEndsLine then .returnLineEnd else .lineEnd)
  | c =>
      advance
      literalChar c false

/-- A new group number and, if the group has one, its name. -/
def openGroup (name : Option (List Char)) : Reading Nat := do
  let state ← get
  match name with
  | some name =>
      if state.names.contains name then failure
      set { state with groups := state.groups + 1, names := name :: state.names }
  | none => set { state with groups := state.groups + 1 }
  return state.groups + 1

/-- How a group starts. -/
inductive GroupHead where
  | directive (flags : Flags)
  | capture (index : Nat)
  | plain (flags : Flags)

/-- The start of a group, behind its parenthesis. -/
def groupHead : Reading GroupHead := do
  skipBlanks
  if (← accept "?=") || (← accept "?!") || (← accept "?<=") || (← accept "?<!") then failure
  if (← accept "?P<") || (← accept "?<") then
    return .capture (← openGroup (some (← groupName)))
  if ← accept "?" then
    let (flags, seen) ← readFlags ((← room) + 1) (← flags) true []
    let stop ← current
    advance
    if stop == ')' then
      if seen.isEmpty then failure
      return .directive flags
    return .plain flags
  return .capture (← openGroup none)

/-- A repetition of an item, from its operator on. -/
def repeatItem (operator : Char) (item : Item) : Reading Item := do
  if !item.repeatable then failure
  let (least, most) ←
    if operator == '\x7b' then counts
    else do
      advance
      pure (if operator == '+' then 1 else 0, if operator == '?' then some 1 else none)
  let greedy := !(← accept "?")
  let depth ← enclose [item.depth]
  return {
    expression := repetition item.expression least most (greedy != (← flags).swapGreed), depth }

/-- The alternatives of a group up to its closing parenthesis or the end of the text. `items` are
the parts of the current alternative, `done` the alternatives before it, both latest first. -/
def groupBody : Nat → List Item → List Piece → Reading Piece
  | 0, _, _ => failure
  | fuel + 1, items, done => do
      skipBlanks
      let flags ← flags
      match ← peek? with
      | none | some ')' => firstOf ((← inRow items) :: done)
      | some '|' =>
          advance
          groupBody fuel [] ((← inRow items) :: done)
      | some '(' =>
          advance
          match ← groupHead with
          | .directive flags =>
              modify fun state => { state with flags }
              groupBody fuel ({ expression := .empty, repeatable := false } :: items) done
          | .capture index =>
              let inner ← groupBody fuel [] []
              expect ')'
              modify fun state => { state with flags }
              let depth ← enclose [inner.depth]
              groupBody fuel ({ expression := .group index inner.expression, depth } :: items) done
          | .plain inside =>
              modify fun state => { state with flags := inside }
              let inner ← groupBody fuel [] []
              expect ')'
              modify fun state => { state with flags }
              let depth ← enclose [inner.depth]
              groupBody fuel ({ expression := inner.expression, depth } :: items) done
      | some '[' =>
          let part ← charClass
          groupBody fuel ({ expression := ofSet part.set, depth := part.depth } :: items) done
      | some c =>
          if c == '?' || c == '*' || c == '+' || c == '\x7b' then
            match items with
            | item :: items => groupBody fuel ((← repeatItem c item) :: items) done
            | [] => failure
          else groupBody fuel ({ expression := ← primitive } :: items) done

/-- Reads the written form of an expression. -/
def ofText? (text : List Char) : Option Expression := do
  let (piece, state) ← (groupBody (text.length + 1) [] []).run { rest := text }
  if state.rest.isEmpty && piece.expression.fitsMemory then some piece.expression else none

end ImportRules.Expression
