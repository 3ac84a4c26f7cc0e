/-!
# Places and matches

A search moves through a text from place to place and remembers what groups have read on the way. A
match is where it started, where it stopped, and what the groups read.
-/

namespace ImportRules.Regex

/-- What a group read: the characters from index `first` up to index `last`. -/
structure Mark where
  group : Nat
  first : Nat
  last : Nat
  deriving DecidableEq, Repr

/-- A place in a text together with what the groups have read on the way to it, latest first. -/
structure Place where
  /-- Number of characters before the place. -/
  index : Nat
  before : Option Char
  after : List Char
  marks : List Mark := []

namespace Place

/-- The start of a text. -/
def start (text : List Char) : Place :=
  { index := 0, before := none, after := text }

/-- The place behind the next character. -/
def next? (place : Place) : Option (Char × Place) :=
  match place.after with
  | [] => none
  | c :: rest =>
      some (c,
        { place with index := place.index + 1, before := some c, after := rest })

/-- Remembers that a group read the text between two places. -/
def marked (place : Place) (group : Nat) (first : Nat) : Place :=
  { place with marks := ⟨group, first, place.index⟩ :: place.marks }

/-- Drops every place whose index occurred before. -/
def distinct (places : List Place) : List Place :=
  places.eraseDupsBy fun p q => p.index == q.index

end Place

/-- A match: the indices of the text it covers and what the groups read. -/
structure Match where
  first : Nat
  last : Nat
  marks : List Mark
  deriving DecidableEq, Repr

namespace Match

/-- The text that a group read last, `none` if the group took no part in the match. -/
def group? (found : Match) (text : List Char) (index : Nat) : Option (List Char) :=
  (found.marks.find? (·.group == index)).map fun mark =>
    (text.drop mark.first).take (mark.last - mark.first)

end Match

end ImportRules.Regex
