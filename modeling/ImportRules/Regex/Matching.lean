import ImportRules.Regex.Basic
import ImportRules.Regex.Place
/-!
# Matching regular expressions

`Regex.ends` lists the places at which an expression can stop when it starts at a given place, in
order of preference and each place once. A match of a whole expression is the first of them, so
that the list is at the same time the search procedure and the statement of what it prefers.

Keeping the first of several ways to reach the same place loses nothing: what follows an
expression depends only on the place, and the way that is listed first is the one that wins. It
keeps every list no longer than the text.
-/

namespace ImportRules.Regex

/-- A pending step of a loop: either a round has just ended at a place, or the loop is left
there. -/
inductive LoopStep where
  | roundEnd (place : Place)
  | leave (place : Place)

/-- Works off the pending steps of a loop without an upper bound on its rounds. Where a round ends,
the loop either starts another one or is left, in the order that `greedy` says. Neither the end
nor the start of a round is taken twice at one index, so that a body that reads nothing cannot
turn for ever. `turns` bounds the number of distinct indices at which a round can end. -/
def runLoop (body : Place → List Place) (greedy : Bool) :
    (turns : Nat) → (begun ended : List Nat) → List LoopStep → List Place
  | _, _, _, [] => []
  | turns, begun, ended, .leave place :: pending =>
      place :: runLoop body greedy turns begun ended pending
  | 0, begun, ended, .roundEnd _ :: pending =>
      runLoop body greedy 0 begun ended pending
  | turns + 1, begun, ended, .roundEnd place :: pending =>
      if ended.contains place.index then
        runLoop body greedy (turns + 1) begun ended pending
      else
        let again :=
          if begun.contains place.index then [] else (body place).map LoopStep.roundEnd
        let pending :=
          if greedy then again ++ .leave place :: pending
          else .leave place :: (again ++ pending)
        runLoop body greedy turns (place.index :: begun) (place.index :: ended) pending
termination_by turns _ _ pending => (turns, pending.length)

/-- Exactly `count` rounds. -/
def exactly (body : Place → List Place) : Nat → Place → List Place
  | 0, place => [place]
  | count + 1, place => Place.distinct ((body place).flatMap (exactly body count))

/-- At most `count` rounds. -/
def atMost (body : Place → List Place) (greedy : Bool) : Nat → Place → List Place
  | 0, place => [place]
  | count + 1, place =>
      let more := (body place).flatMap (atMost body greedy count)
      Place.distinct (if greedy then more ++ [place] else place :: more)

/-- One or more rounds. -/
def oneOrMore (body : Place → List Place) (greedy : Bool) (place : Place) : List Place :=
  Place.distinct <| runLoop body greedy (place.after.length + 1) [place.index] []
    ((body place).map LoopStep.roundEnd)

/-- Any number of rounds. -/
def zeroOrMore (body : Place → List Place) (greedy : Bool) (place : Place) : List Place :=
  let rounds := (body place).map LoopStep.roundEnd
  Place.distinct <| runLoop body greedy (place.after.length + 1) [place.index] []
    (if greedy then rounds ++ [.leave place] else .leave place :: rounds)

/-- The places at which an expression can stop, best first. -/
def ends : Regex → Place → List Place
  | .empty, place => [place]
  | .one accepts, place =>
      match place.next? with
      | some (c, next) => if accepts c then [next] else []
      | none => []
  | .anchor condition, place =>
      if condition.holds place.before place.after.head? then [place] else []
  | .seq first second, place =>
      Place.distinct ((first.ends place).flatMap second.ends)
  | .alt preferred other, place =>
      Place.distinct (preferred.ends place ++ other.ends place)
  | .group index body, place =>
      (body.ends place).map (·.marked index place.index)
  | .repeated body least (some most) greedy, place =>
      Place.distinct
        ((exactly body.ends least place).flatMap (atMost body.ends greedy (most - least)))
  | .repeated body 0 none greedy, place => zeroOrMore body.ends greedy place
  | .repeated body (least + 1) none greedy, place =>
      Place.distinct
        ((exactly body.ends least place).flatMap (oneOrMore body.ends greedy))

/-- The preferred match that starts at a place. -/
def matchAt? (r : Regex) (place : Place) : Option Match :=
  (r.ends place).head?.map fun stop => ⟨place.index, stop.index, stop.marks⟩

/-- The leftmost match from a place on. -/
def searchFrom? (r : Regex) (index : Nat) (before : Option Char) : List Char → Option Match
  | [] => r.matchAt? { index, before, after := [] }
  | c :: rest =>
      match r.matchAt? { index, before, after := c :: rest } with
      | some found => some found
      | none => searchFrom? r (index + 1) (some c) rest

/-- The leftmost match in a text. -/
def search? (r : Regex) (text : List Char) : Option Match :=
  r.searchFrom? 0 none text

/-- Whether an expression matches somewhere in a text. -/
def isMatch (r : Regex) (text : List Char) : Bool :=
  (r.search? text).isSome

/-- Matches from a place on that start at or behind index `free` and do not overlap. An empty match
right at the end of the previous match is passed over. -/
def searchAllFrom (r : Regex) (index : Nat) (before : Option Char) (free : Nat)
    (previous : Option Nat) : List Char → List Match
  | [] =>
      if index < free then []
      else
        match r.matchAt? { index, before, after := [] } with
        | some found => if previous == some index then [] else [found]
        | none => []
  | c :: rest =>
      let later := fun free previous => searchAllFrom r (index + 1) (some c) free previous rest
      if index < free then later free previous
      else
        match r.matchAt? { index, before, after := c :: rest } with
        | some found =>
            if found.last == index && previous == some index then later free previous
            else found :: later found.last (some found.last)
        | none => later free previous

/-- All matches in a text, from left to right. -/
def searchAll (r : Regex) (text : List Char) : List Match :=
  r.searchAllFrom 0 none 0 none text

end ImportRules.Regex
