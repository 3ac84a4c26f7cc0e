import ImportRules.Automaton.Basic
import ImportRules.Regex.Place
import Std.Data.HashSet
/-!
# Searching with an automaton

The search follows the steps of an automaton depth first, the preferred step first, and stops at the
first way that succeeds. It takes no state twice at the same place: a second way into a state can
lead no further than the first one did, and the first one was preferred. This also ends loops whose
rounds read nothing, and it bounds the work by the number of states times the length of the text.
-/

namespace ImportRules

open Regex (Place Match)

namespace Automaton

/-- A way through an automaton: the state it has reached, the place in the text, and where the
groups on the way were opened, latest first. -/
structure Thread where
  state : Nat
  place : Place
  opened : List (Nat × Nat) := []

/-- The states that have been taken, each with the index of the place. -/
abbrev Visited := Std.HashSet (Nat × Nat)

/-- Goes on with another state at the same place. -/
def Thread.moveTo (thread : Thread) (state : Nat) : Thread :=
  { thread with state }

/-- The ways on from what happens in a state, best first. -/
def Thread.ahead (thread : Thread) : State → List Thread
  | .done => []
  | .read set next =>
      match thread.place.next? with
      | some (c, place) => if set.contains c then [{ thread with state := next, place }] else []
      | none => []
  | .check condition next =>
      if condition.holds thread.place.before thread.place.after.head? then [thread.moveTo next]
      else []
  | .opens group next =>
      [{ thread with state := next, opened := (group, thread.place.index) :: thread.opened }]
  | .closes group next =>
      let first := (thread.opened.lookup group).getD thread.place.index
      [{ thread with state := next, place := thread.place.marked group first }]
  | .choose nexts => nexts.map thread.moveTo

/-- Follows the pending ways, first things first, until one succeeds. Gives that way and the states
taken so far. `steps` bounds the number of ways that are looked at. -/
def follow (automaton : Automaton) :
    (steps : Nat) → Visited → List Thread → Option Thread × Visited
  | 0, visited, _ => (none, visited)
  | _, visited, [] => (none, visited)
  | steps + 1, visited, thread :: pending =>
      let here := (thread.state, thread.place.index)
      if visited.contains here then automaton.follow steps visited pending
      else
        match automaton.states[thread.state]? with
        | some .done => (some thread, visited)
        | some state =>
            automaton.follow steps (visited.insert here) (thread.ahead state ++ pending)
        | none => automaton.follow steps visited pending

/-- The leftmost match from a place on. What an earlier place has tried in vain is not tried
again. -/
def searchFrom? (automaton : Automaton) (steps : Nat) (visited : Visited) (index : Nat)
    (before : Option Char) (after : List Char) : Option Match :=
  let place := { index, before, after }
  match automaton.follow steps visited [{ state := automaton.start, place }] with
  | (some thread, _) => some ⟨index, thread.place.index, thread.place.marks⟩
  | (none, visited) =>
      match after with
      | [] => none
      | c :: rest => automaton.searchFrom? steps visited (index + 1) (some c) rest

/-- The leftmost match in a text. -/
def search? (automaton : Automaton) (text : List Char) : Option Match :=
  automaton.searchFrom? (automaton.stepCount * (text.length + 1) + 2) ∅ 0 none text

/-- Whether an automaton finds a match somewhere in a text. -/
def isMatch (automaton : Automaton) (text : List Char) : Bool :=
  (automaton.search? text).isSome

end Automaton

end ImportRules
