import ImportRules.Expression.Basic
import ImportRules.Text.Basic
import ImportRules.Text.Utf8
/-!
# Memory that an expression takes

An expression that would take too much memory is refused. What counts is the size of two machines
that read bytes, one from the start of a match to its end and the other backward from its end. Both
are counted without being built: every round of a counted repetition is a copy of its body, so that
short expressions can stand for very large machines.
-/

namespace ImportRules

open Text (CharSet)

namespace Expression

/-- Size of a state, in bytes. -/
def stateSize : Nat := 32

/-- Size of a transition out of a state that reads one of several ranges of bytes. -/
def rangeSize : Nat := 8

/-- Size of an entry in the list of a state that chooses. -/
def entrySize : Nat := 4

/-- Size of a state that chooses between two others. -/
def decisionSize : Nat := stateSize + 2 * entrySize

/-- The greatest size of a machine. -/
def memoryLimit : Nat := 10485760

/-! ## Sets of characters -/

/-- The states that read a set of characters forward, in the order of their numbers from one on: for
each of them the ranges of bytes it reads and the states that follow, by number. -/
abbrev ByteStates := List (List (Text.Utf8.ByteRange × Nat))

/-- The state that reads any of some byte sequences, which are in ascending order and no longer than
`length`. States that read the same are one state, and number zero stands for the end. -/
def byteState : (length : Nat) → List (List Text.Utf8.ByteRange) → StateM ByteStates Nat
  | 0, _ => return 0
  | length + 1, sequences => do
      let groups := sequences.splitBy fun s t => s.head? == t.head?
      let transitions ← groups.filterMapM fun group => do
        match group with
        | [range] :: _ => return some (range, 0)
        | (range :: _) :: _ => return some (range, ← byteState length (group.map (·.drop 1)))
        | _ => return none
      match (← get).idxOf? transitions with
      | some index => return index + 1
      | none => modifyGet fun states => (states.length + 1, states ++ [transitions])

/-- Size of the states that read a set forward, in UTF-8. -/
def forwardSetSize (set : CharSet) : Nat :=
  let (_, states) := (byteState 4 set.byteSequences).run []
  states.foldl (fun size transitions => size + stateSize + rangeSize * transitions.length)
    stateSize

/-- Number of states for some byte sequences that share nothing but their starts; `previous` is the
sequence before them. -/
def distinctStarts (previous : List Text.Utf8.ByteRange) :
    List (List Text.Utf8.ByteRange) → Nat
  | [] => 0
  | sequence :: rest =>
      let shared := ((previous.zip sequence).takeWhile fun (r, s) => r == s).length
      sequence.length - shared + distinctStarts sequence rest

/-- Size of the states that read a set backward. -/
def backwardSetSize (set : CharSet) : Nat :=
  let sequences := set.byteSequences
  (distinctStarts [] sequences + 2) * stateSize + entrySize * sequences.length

/-- Size of the states that read one character of a set. -/
def setSize (backward : Bool) (set : CharSet) : Nat :=
  if set.isAscii then 2 * stateSize + rangeSize * set.ranges.length
  else if backward then backwardSetSize set
  else forwardSetSize set

/-! ## Choices between literals -/

/-- The texts of a choice between literals. -/
def literals? (e : Expression) : Option (List (List Char)) :=
  e.alternatives.mapM fun
    | .literal text => some text
    | _ => none

/-- Size of the states of a tree that reads one of several texts, each no longer than `length`.
Texts that start alike share a branch, and a text that ends inside the tree takes an entry. -/
def treeSize : (length : Nat) → List (List UInt8) → Nat
  | 0, _ => 0
  | length + 1, texts =>
      let starts := (texts.filterMap List.head?).eraseDups
      if starts.isEmpty then 0
      else
        let own := 2 * stateSize + entrySize +
          (if starts.length = 1 then 0 else rangeSize * starts.length) +
          (if texts.any List.isEmpty then entrySize else 0)
        starts.foldl (fun size start =>
          size + treeSize length ((texts.filter (·.head? == some start)).map (·.drop 1))) own

/-- Size of the states that read one of several texts. -/
def literalsSize (backward : Bool) (texts : List (List Char)) : Nat :=
  let texts := texts.map fun text =>
    if backward then (Text.bytesOf text).reverse else Text.bytesOf text
  stateSize + treeSize ((texts.map List.length).foldl max 0) texts

/-! ## Expressions -/

/-- Size of the states of a repetition whose body has the given size. -/
def repetitionSize (body : Nat) (readsSomething : Bool) : Nat → Option Nat → Nat
  | 0, some 1 => body + decisionSize + stateSize
  | 0, none => body + if readsSomething then decisionSize else 2 * decisionSize + stateSize
  | least, none => least * body + decisionSize
  | least, some most =>
      if least = most then least * body
      else
        (if least = 0 then stateSize else least * body) + stateSize +
          (most - least) * (body + decisionSize)

/-- Size of the entry that an alternative of a choice takes. -/
def entry (inChoice : Bool) : Nat :=
  if inChoice then entrySize else 0

/-- Size of the states of an expression. An alternative of a choice takes an entry beside its own
states; `inChoice` tells whether the expression is such an alternative, or the rest of them. -/
def statesSize (backward : Bool) : (inChoice : Bool) → Expression → Nat
  | inChoice, .alt first rest =>
      let own := entrySize + first.statesSize backward false + rest.statesSize backward true
      if inChoice then own
      else
        match literals? (.alt first rest) with
        | some texts => literalsSize backward texts
        | none => own + 2 * stateSize
  | inChoice, .empty | inChoice, .anchor _ => entry inChoice + stateSize
  | inChoice, .literal text => entry inChoice + stateSize * Text.byteLength text
  | inChoice, .oneOf set => entry inChoice + setSize backward set
  | inChoice, .group _ body =>
      entry inChoice + body.statesSize backward false + if backward then 0 else 2 * stateSize
  | inChoice, .repeated body least most _ =>
      entry inChoice +
        repetitionSize (body.statesSize backward false) body.readsSomething least most
  | inChoice, .seq first rest =>
      entry inChoice + first.statesSize backward false + rest.statesSize backward false

/-- Whether an expression can match only at the start of the text or, read backward, only at its
end. -/
def isAnchored (backward : Bool) : Expression → Bool
  | .anchor condition => condition = if backward then .textEnd else .textStart
  | .group _ body => body.isAnchored backward
  | .repeated body least _ _ => 0 < least && body.isAnchored backward
  | .seq first rest =>
      if backward then
        rest.isAnchored backward || (rest.readsNothing && first.isAnchored backward)
      else first.isAnchored backward || (first.readsNothing && rest.isAnchored backward)
  | .alt first rest => first.isAnchored backward && rest.isAnchored backward
  | .empty | .literal _ | .oneOf _ => false

/-- Size of a whole machine: besides the states of the expression it has one for success, two that
note the bounds of a match if it runs forward, and the loop that moves on to the next place unless
there is only one place to start at. -/
def machineSize (backward : Bool) (e : Expression) : Nat :=
  e.statesSize backward false + stateSize + (if backward then 0 else 2 * stateSize) +
    if e.isAnchored backward then stateSize
    else decisionSize + 2 * stateSize + rangeSize

/-- Whether both machines of an expression stay within the limit. -/
def fitsMemory (e : Expression) : Bool :=
  e.machineSize false ≤ memoryLimit && e.machineSize true ≤ memoryLimit

end Expression

end ImportRules
