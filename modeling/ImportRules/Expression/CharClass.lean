import ImportRules.Expression.Escape
/-!
# Character classes

A class in brackets lists characters, ranges, escapes, named ASCII classes and further classes. Sets
can be intersected, subtracted and compared inside it, from left to right. When case is ignored,
the variants are added before a set is combined with another and before its complement is taken.
-/

namespace ImportRules.Expression

open Text (CharSet)
open Reading

/-- A part of a class with the depth to which it is nested. -/
structure ClassPart where
  set : CharSet
  depth : Nat := 0

/-- The ASCII class with a given name. -/
def asciiClass? : String → Option CharSet
  | "alnum" => some (.ofTable "30-39 41-5a 61-7a")
  | "alpha" => some (.ofTable "41-5a 61-7a")
  | "ascii" => some .ascii
  | "blank" => some (.ofTable "9 20")
  | "cntrl" => some (.ofTable "0-1f 7f")
  | "digit" => some (.range '0' '9')
  | "graph" => some (.range '!' '~')
  | "lower" => some (.range 'a' 'z')
  | "print" => some (.range ' ' '~')
  | "punct" => some (.ofTable "21-2f 3a-40 5b-60 7b-7e")
  | "space" => some (.ofTable "9-d 20")
  | "upper" => some (.range 'A' 'Z')
  | "word" => some (.ofTable "30-39 41-5a 5f 61-7a")
  | "xdigit" => some (.ofTable "30-39 41-46 61-66")
  | _ => none

/-- A named ASCII class such as `[:alpha:]`, if one stands here. -/
def asciiClass : Reading (Option ClassPart) := do
  let state ← get
  if !(← accept "[:") then return none
  let negated ← accept "^"
  let name := (← get).rest.takeWhile (· != ':')
  modify fun state => { state with rest := state.rest.drop name.length }
  match asciiClass? (String.ofList name), ← accept ":]" with
  | some set, true => return some { set := ← complementIf negated (state.flags.fold set) }
  | _, _ =>
      set state
      return none

/-- How the parts of a class are combined. -/
inductive SetOperation where
  | both
  | without
  | either

def SetOperation.apply (s t : CharSet) : SetOperation → CharSet
  | .both => s.inter t
  | .without => s.diff t
  | .either => s.symmDiff t

/-- The operator that stands here. -/
def setOperator? : Reading (Option SetOperation) := do
  if ← accept "&&" then return some .both
  if ← accept "--" then return some .without
  if ← accept "~~" then return some .either
  return none

/-- One character of a class, or a set in it. -/
def classAtom : Reading Escape := do
  let c ← current
  if c == '\\' then escape
  else
    advance
    return .char c false

/-- A character of a class; a class of bytes has only ASCII ones. -/
def classChar (c : Char) : Reading Char := do
  if (← flags).unicode || c.toNat < 128 then return c else failure

/-- A character, a range of characters or an escaped set. A hyphen before the closing bracket or
before another hyphen starts no range. -/
def classRange : Reading ClassPart := do
  let low ← classAtom
  skipBlanks
  let next ← current
  let behind ← peekBehind?
  if next != '-' || behind == some ']' || behind == some '-' then
    match low with
    | .char c _ => return { set := .single (← classChar c) }
    | .charSet set => return { set }
    | .anchor _ => failure
  else
    advanceAndSkip
    if (← peek?).isNone then failure
    match low, ← classAtom with
    | .char low _, .char high _ =>
        if high < low then failure
        return { set := .range (← classChar low) (← classChar high) }
    | _, _ => failure

/-- The hyphens at the start of a class, which stand for themselves. -/
def leadingHyphens : Nat → Reading (List ClassPart)
  | 0 => return []
  | fuel + 1 => do
      if (← current) == '-' then
        advanceAndSkip
        return { set := .single '-' } :: (← leadingHyphens fuel)
      else return []

/-- The parts of a class that stand side by side, taken together. -/
def classUnion : List ClassPart → Reading ClassPart
  | [] => return { set := .empty }
  | [part] => return part
  | parts => do
      return { set := .unions (parts.map (·.set)), depth := ← enclose (parts.map (·.depth)) }

/-- What waits at the left of an operator, combined with what has been read behind it. -/
def combine (left : Option (ClassPart × SetOperation)) (right : ClassPart) : Reading ClassPart := do
  match left with
  | none => return right
  | some (left, operation) =>
      let flags ← flags
      return {
        set := operation.apply (flags.fold left.set) (flags.fold right.set)
        depth := ← enclose [left.depth, right.depth] }

mutual

/-- The rest of a class up to its closing bracket. `left` is the operand and the operator that wait
for what is read next, `parts` what has been read since. -/
def classParts : Nat → Option (ClassPart × SetOperation) → List ClassPart → Reading ClassPart
  | 0, _, _ => failure
  | fuel + 1, left, parts => do
      skipBlanks
      match ← current with
      | ']' =>
          advance
          combine left (← classUnion parts)
      | '[' =>
          match ← asciiClass with
          | some part => classParts fuel left (part :: parts)
          | none =>
              let part ← openClass fuel
              classParts fuel left (part :: parts)
      | _ =>
          match ← setOperator? with
          | some operation =>
              let part ← combine left (← classUnion parts)
              classParts fuel (some (part, operation)) []
          | none => classParts fuel left ((← classRange) :: parts)

/-- A class from its opening bracket on: the sign, the characters that stand for themselves only at
the start, and the rest. -/
def openClass : Nat → Reading ClassPart
  | 0 => failure
  | fuel + 1 => do
      advanceAndSkip
      let negated := (← current) == '^'
      if negated then advanceAndSkip
      let hyphens ← leadingHyphens fuel
      let first ← current
      let parts ←
        if hyphens.isEmpty && first == ']' then do
          advanceAndSkip
          pure [{ set := .single ']' }]
        else pure hyphens
      let part ← classParts fuel none parts
      return {
        set := ← complementIf negated ((← flags).fold part.set)
        depth := ← enclose [part.depth] }

end

/-- A class from its opening bracket on. -/
def charClass : Reading ClassPart := do
  openClass (2 * (← room) + 2)

end ImportRules.Expression
