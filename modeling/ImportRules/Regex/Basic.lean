import ImportRules.Regex.Anchor
import ImportRules.Text.Blank
/-!
# Regular expressions

The expressions that this library builds itself, to say what an import or a line of a diagram looks
like and what a glob stands for. They are made of single characters, anchors, sequences,
alternatives, groups and repetitions. Alternatives are ordered: the first one that leads to a match
wins, and a repetition prefers either as many or as few rounds as possible. The order is part of
the meaning, because it decides which text a group captures.
-/

namespace ImportRules

/-- A regular expression. -/
inductive Regex where
  /-- Reads nothing. -/
  | empty
  /-- Reads one character that the predicate accepts. -/
  | one (accepts : Char → Bool)
  | anchor (condition : Anchor)
  | seq (first second : Regex)
  /-- Either expression, the first one if both lead to a match. -/
  | alt (preferred other : Regex)
  /-- Remembers what its body read under the given number. -/
  | group (index : Nat) (body : Regex)
  /-- At least `least` rounds of the body and, if bounded, at most `most`. -/
  | repeated (body : Regex) (least : Nat) (most : Option Nat) (greedy : Bool)

namespace Regex

/-- Reads exactly the given character. -/
def char (c : Char) : Regex := .one (· == c)

/-- Several expressions in a row. -/
def sequence : List Regex → Regex
  | [] => .empty
  | [r] => r
  | r :: rs => .seq r (sequence rs)

/-- The first of several expressions that leads to a match. -/
def choice : List Regex → Regex
  | [] => .one fun _ => false
  | [r] => r
  | r :: rs => .alt r (choice rs)

/-- Reads exactly the given text. -/
def literal (text : String) : Regex :=
  sequence (text.toList.map char)

/-- Any number of rounds, as many as possible. -/
def many (body : Regex) : Regex := .repeated body 0 none true

/-- Any number of rounds, as few as possible. -/
def manyLazy (body : Regex) : Regex := .repeated body 0 none false

/-- One or more rounds, as many as possible. -/
def many1 (body : Regex) : Regex := .repeated body 1 none true

/-- The body or, failing that, nothing. -/
def optional (body : Regex) : Regex := .repeated body 0 (some 1) true

/-- Reads a blank character. -/
def blank : Regex := .one Text.isBlank

/-- Reads one of the given characters. -/
def oneOf (set : List Char) : Regex := .one set.contains

/-- Reads a character that is not one of the given ones. -/
def noneOf (set : List Char) : Regex := .one (!set.contains ·)

/-- The greatest group number in an expression, zero if it has no group. -/
def groupCount : Regex → Nat
  | .empty | .one _ | .anchor _ => 0
  | .seq r s | .alt r s => max r.groupCount s.groupCount
  | .group index body => max index body.groupCount
  | .repeated body _ _ _ => body.groupCount

end Regex

end ImportRules
