import ImportRules.Expression.Basic
/-!
# Automata

An automaton has numbered states. Each state says what happens at a place before the search goes on
with another state: a character is read, an anchor is checked, a group is opened or closed, or one
of several states is chosen, the first one if several lead to a match.

The automaton of an expression is built from the end: a part is built for the state that follows
it, and its own first state is what the part before it continues with.
-/

namespace ImportRules

open Text (CharSet)

/-- What happens in a state, and the states that follow. -/
inductive State where
  /-- The search has succeeded. -/
  | done
  | read (set : CharSet) (next : Nat)
  | check (condition : Anchor) (next : Nat)
  | opens (group : Nat) (next : Nat)
  | closes (group : Nat) (next : Nat)
  | choose (nexts : List Nat)
  deriving Repr

/-- Number of states that can follow a state. -/
def State.followers : State → Nat
  | .done => 0
  | .read _ _ | .check _ _ | .opens _ _ | .closes _ _ => 1
  | .choose nexts => nexts.length

/-- States and the number of the first one. -/
structure Automaton where
  states : Array State
  start : Nat

namespace Automaton

/-- Number of steps from one state to another. -/
def stepCount (automaton : Automaton) : Nat :=
  automaton.states.foldl (fun count state => count + state.followers) 0

/-- Work on the states of an automaton. -/
abbrev Build := StateM (Array State)

/-- Adds a state and gives its number. -/
def add (state : State) : Build Nat :=
  modifyGet fun states => (states.size, states.push state)

/-- A choice between going on with a loop and leaving it. -/
def turn (greedy : Bool) (again leave : Nat) : State :=
  .choose (if greedy then [again, leave] else [leave, again])

/-- A part that can be built for the state that follows it. -/
abbrev Part := Nat → Build Nat

/-- The part a given number of times in a row. -/
def copies (part : Part) : Nat → Part
  | 0, next => pure next
  | count + 1, next => do copies part count (← part next)

/-- The part up to a given number of times. Every round but the first can be reached only through
the one before it, and after any of them the rest can be left out. -/
def optionalCopies (part : Part) (greedy : Bool) (leave : Nat) : Nat → Part
  | 0, next => pure next
  | count + 1, next => do
      optionalCopies part greedy leave count (← add (turn greedy (← part next) leave))

/-- The state in which a loop decides whether to go on, and the first state of its body. -/
def loop (part : Part) (greedy : Bool) (next : Nat) : Build (Nat × Nat) := do
  let decision ← add (.choose [])
  let body ← part decision
  modify (·.setIfInBounds decision (turn greedy body next))
  return (decision, body)

/-- Any number of rounds. A loop whose body can read nothing is entered by a decision of its own:
were it the one that ends a round, an empty first round would hide the way out behind it. -/
def anyNumber (part : Part) (readsSomething greedy : Bool) (next : Nat) : Build Nat := do
  let (decision, body) ← loop part greedy next
  if readsSomething then return decision else add (turn greedy body next)

/-- Builds an expression for the state that follows it. -/
def ofExpression : Expression → Part
  | .empty, next => pure next
  | .literal text, next => text.reverse.foldlM (fun next c => add (.read (.single c) next)) next
  | .oneOf set, next => add (.read set next)
  | .anchor condition, next => add (.check condition next)
  | .group index body, next => do
      add (.opens index (← ofExpression body (← add (.closes index next))))
  | .repeated body least (some most) greedy, next => do
      copies (ofExpression body) least
        (← optionalCopies (ofExpression body) greedy next (most - least) next)
  | .repeated body 0 none greedy, next =>
      anyNumber (ofExpression body) body.readsSomething greedy next
  | .repeated body (least + 1) none greedy, next => do
      let (_, last) ← loop (ofExpression body) greedy next
      copies (ofExpression body) least last
  | .seq first rest, next => do ofExpression first (← ofExpression rest next)
  | .alt first rest, next => do
      let rest ← ofExpression rest next
      add (.choose [← ofExpression first next, rest])

end Automaton

/-- The automaton of an expression. -/
def Expression.automaton (e : Expression) : Automaton :=
  let build : Automaton.Build Nat := do
    Automaton.ofExpression e (← Automaton.add .done)
  let (start, states) := build.run #[]
  { states, start }

end ImportRules
