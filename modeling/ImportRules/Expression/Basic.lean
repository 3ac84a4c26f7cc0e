import ImportRules.Regex.Anchor
import ImportRules.Text.CharSet
/-!
# Written expressions

A regular expression that a user has written is kept in a normal form. Characters that stand side
by side are one literal, sequences and alternatives are flat, alternatives that each read one
character are one set of characters, and alternatives that start alike share what they start with.

The form is part of the meaning. Alternatives are tried in order, and a repetition prefers many or
few rounds; once two alternatives share their start, the choice inside the shared part comes before
the choice between them. So `.*b|.*c` means `.*(b|c)`, which takes the longest text.
-/

namespace ImportRules

open Text (CharSet)

/-- A written expression. A sequence or a choice of several is nested to the right. -/
inductive Expression where
  /-- Reads nothing. -/
  | empty
  /-- Reads exactly the given text. -/
  | literal (text : List Char)
  /-- Reads one character of the set. -/
  | oneOf (set : CharSet)
  | anchor (condition : Anchor)
  /-- Remembers what its body read under the given number. -/
  | group (index : Nat) (body : Expression)
  /-- At least `least` rounds of the body and, if bounded, at most `most`. -/
  | repeated (body : Expression) (least : Nat) (most : Option Nat) (greedy : Bool)
  | seq (first rest : Expression)
  /-- Either expression, the first one if both lead to a match. -/
  | alt (first rest : Expression)
  deriving DecidableEq, Repr

namespace Expression

/-- The least number of characters that an expression reads, `none` if some part of it reads no
text at all. -/
def leastLength : Expression → Option Nat
  | .empty | .anchor _ => some 0
  | .literal text => some text.length
  | .oneOf set => if set.ranges.isEmpty then none else some 1
  | .group _ body => body.leastLength
  | .repeated body least _ _ => body.leastLength.map (least * ·)
  | .seq first rest => do return (← first.leastLength) + (← rest.leastLength)
  | .alt first rest => do return min (← first.leastLength) (← rest.leastLength)

/-- The greatest number of characters that an expression reads, `none` if there is no bound. -/
def greatestLength : Expression → Option Nat
  | .empty | .anchor _ => some 0
  | .literal text => some text.length
  | .oneOf set => if set.ranges.isEmpty then none else some 1
  | .group _ body => body.greatestLength
  | .repeated body _ most _ => do return (← body.greatestLength) * (← most)
  | .seq first rest => do return (← first.greatestLength) + (← rest.greatestLength)
  | .alt first rest => do return max (← first.greatestLength) (← rest.greatestLength)

/-- Whether an expression can only read the empty text. -/
def readsNothing (e : Expression) : Bool :=
  e.greatestLength == some 0

/-- Whether every text that an expression reads has a character. -/
def readsSomething (e : Expression) : Bool :=
  e.leastLength.any (0 < ·)

/-- The greatest group number in an expression, zero if it has no group. -/
def groupCount : Expression → Nat
  | .empty | .literal _ | .oneOf _ | .anchor _ => 0
  | .group index body => max index body.groupCount
  | .repeated body _ _ _ => body.groupCount
  | .seq first rest | .alt first rest => max first.groupCount rest.groupCount

/-- Number of parts that an expression is made of. -/
def size : Expression → Nat
  | .empty | .literal _ | .oneOf _ | .anchor _ => 1
  | .group _ body | .repeated body _ _ _ => body.size + 1
  | .seq first rest | .alt first rest => first.size + rest.size + 1

/-- Reads one character of a set. -/
def ofSet (set : CharSet) : Expression :=
  match set.single? with
  | some c => .literal [c]
  | none => .oneOf set

/-- A repetition. More than one round of a body that reads nothing changes nothing, no round at all
reads nothing, and exactly one round is the body itself. -/
def repetition (body : Expression) (least : Nat) (most : Option Nat) (greedy : Bool) :
    Expression :=
  let (least, most) :=
    if body.readsNothing then (min least 1, some (min (most.getD 1) 1)) else (least, most)
  if least = 0 ∧ most = some 0 then .empty
  else if least = 1 ∧ most = some 1 then body
  else .repeated body least most greedy

/-- The parts of a sequence, one after the other. -/
def parts : Expression → List Expression
  | .empty => []
  | .seq first rest => first :: rest.parts
  | e => [e]

/-- The sequence with the given parts. -/
def ofParts : List Expression → Expression
  | [] => .empty
  | [e] => e
  | e :: es => .seq e (ofParts es)

/-- Puts a part before others; two literals become one. -/
def attach : Expression → List Expression → List Expression
  | .literal text, .literal more :: es => .literal (text ++ more) :: es
  | e, es => e :: es

/-- Several expressions in a row. -/
def sequence (es : List Expression) : Expression :=
  ofParts ((es.flatMap parts).foldr attach [])

/-- The alternatives of a choice, best first. -/
def alternatives : Expression → List Expression
  | .alt first rest => first :: rest.alternatives
  | e => [e]

/-- The choice with the given alternatives; without any it reads no text. -/
def ofAlternatives : List Expression → Expression
  | [] => .oneOf .empty
  | [e] => e
  | e :: es => .alt e (ofAlternatives es)

/-- The character that an expression reads, if it is a literal of one character. -/
def char? : Expression → Option Char
  | .literal [c] => some c
  | _ => none

/-- The set that an expression reads a character of. -/
def set? : Expression → Option CharSet
  | .oneOf set => some set
  | _ => none

/-- The parts of a sequence of at least two. -/
def sequenceParts? : Expression → Option (List Expression)
  | .seq first rest => some (first :: rest.parts)
  | _ => none

/-- The longest common start of two lists. -/
def commonStart : List Expression → List Expression → List Expression
  | e :: es, f :: fs => if e = f then e :: commonStart es fs else []
  | _, _ => []

/-- The common start of several sequences, empty if they have none. -/
def sharedStart : List (List Expression) → List Expression
  | [] => []
  | first :: rest => rest.foldl commonStart first

/-- The first of several expressions that leads to a match. `depth` bounds how often a shared start
is split off. -/
def choiceWithin : Nat → List Expression → Expression
  | 0, es => ofAlternatives es
  | depth + 1, es =>
      match es.flatMap alternatives with
      | [] => ofAlternatives []
      | [e] => e
      | es =>
          match es.mapM char?, es.mapM set?, es.mapM sequenceParts? with
          | some chars, _, _ => ofSet (.ofChars chars)
          | none, some sets, _ => ofSet (.unions sets)
          | none, none, none => ofAlternatives es
          | none, none, some sequences =>
              match sharedStart sequences with
              | [] => ofAlternatives es
              | shared =>
                  let rests := sequences.map fun parts => sequence (parts.drop shared.length)
                  sequence (shared ++ [choiceWithin depth rests])

/-- The first of several expressions that leads to a match. -/
def choice (es : List Expression) : Expression :=
  choiceWithin ((es.map size).foldl (· + ·) 1) es

end Expression

end ImportRules
