import ImportRules.Text.Hex
/-!
# Sets of characters

A set of characters is a list of ranges of code points, in ascending order and with a gap between
any two. Every operation keeps that form, so that equal sets are equal lists and membership is
settled by the first range that reaches up to the character.

Properties of characters are written down as texts: one item per range, the bounds in hexadecimal
and joined by a hyphen. A single number stands for the range of that one code point, and a range
with a step behind a slash for every so-many-th code point of it.
-/

namespace ImportRules.Text

/-- A set of characters, as ranges of code points with both ends included. -/
structure CharSet where
  ranges : List (Nat × Nat)
  deriving DecidableEq, Repr

namespace CharSet

/-- The greatest code point. -/
def maxPoint : Nat := 0x10FFFF

/-- The code point of the next character. The surrogates, which are no characters, are passed
over. -/
def next (point : Nat) : Nat :=
  if point = 0xD7FF then 0xE000 else point + 1

/-- The code point of the previous character. -/
def previous (point : Nat) : Nat :=
  if point = 0xE000 then 0xD7FF else point - 1

/-- Whether one of some ascending ranges holds a code point. -/
def holds (point : Nat) : List (Nat × Nat) → Bool
  | [] => false
  | (low, high) :: rest => low ≤ point && (point ≤ high || holds point rest)

/-- The character is in the set. -/
def contains (set : CharSet) (c : Char) : Bool :=
  holds c.toNat set.ranges

def empty : CharSet := ⟨[]⟩

/-- All characters. -/
def all : CharSet := ⟨[(0, maxPoint)]⟩

/-- The characters from one to another. -/
def range (low high : Char) : CharSet := ⟨[(low.toNat, high.toNat)]⟩

def single (c : Char) : CharSet := range c c

/-- The ASCII characters. -/
def ascii : CharSet := ⟨[(0, 127)]⟩

/-- Joins ranges that overlap or touch; `low` and `high` bound the range that is being built. -/
def joinFrom (low high : Nat) : List (Nat × Nat) → List (Nat × Nat)
  | [] => [(low, high)]
  | (low', high') :: rest =>
      if low' ≤ high + 1 then joinFrom low (max high high') rest
      else (low, high) :: joinFrom low' high' rest

/-- The set of the code points in some ranges, which may come in any order and overlap. -/
def ofRanges (ranges : List (Nat × Nat)) : CharSet where
  ranges :=
    match ranges.mergeSort fun p q => p.1 ≤ q.1 with
    | [] => []
    | (low, high) :: rest => joinFrom low high rest

/-- The set of the characters in a list. -/
def ofChars (chars : List Char) : CharSet :=
  ofRanges (chars.map fun c => (c.toNat, c.toNat))

def union (s t : CharSet) : CharSet :=
  ofRanges (s.ranges ++ t.ranges)

/-- The characters that are in one of several sets. -/
def unions (sets : List CharSet) : CharSet :=
  ofRanges (sets.flatMap (·.ranges))

/-- The ranges between some ranges, the first of which ends before the code point `start`. Two
ranges that only the surrogates keep apart count as if the characters next to the surrogates lay
between them. -/
def gapsFrom (start : Nat) : List (Nat × Nat) → List (Nat × Nat)
  | [] => if start ≤ maxPoint then [(start, maxPoint)] else []
  | (low, high) :: rest =>
      (min start (previous low), max start (previous low)) :: gapsFrom (next high) rest

/-- The characters that are not in a set. -/
def compl (set : CharSet) : CharSet where
  ranges :=
    match set.ranges with
    | (0, high) :: rest => gapsFrom (next high) rest
    | ranges => gapsFrom 0 ranges

/-- The characters that are in both of two sets. -/
def inter (s t : CharSet) : CharSet where
  ranges := s.ranges.flatMap fun (low, high) =>
    (t.ranges.map fun (low', high') => (max low low', min high high')).filter fun (low, high) =>
      low ≤ high

/-- What some ranges leave of the range from `low` to `high`. -/
def cut (low high : Nat) : List (Nat × Nat) → List (Nat × Nat)
  | [] => [(low, high)]
  | (low', high') :: rest =>
      if high' < low then cut low high rest
      else if high < low' then [(low, high)]
      else
        (if low < low' then [(low, previous low')] else []) ++
          if high' < high then cut (next high') high rest else []

/-- The characters of one set that are not in another. -/
def diff (s t : CharSet) : CharSet where
  ranges := s.ranges.flatMap fun (low, high) => cut low high t.ranges

/-- The characters that are in exactly one of two sets. -/
def symmDiff (s t : CharSet) : CharSet :=
  (s.union t).diff (s.inter t)

/-- Whether all members of a set are ASCII characters. -/
def isAscii (set : CharSet) : Bool :=
  set.ranges.all (·.2 < 128)

/-- The only member of a set with one member. -/
def single? (set : CharSet) : Option Char :=
  match set.ranges with
  | [(low, high)] => if low = high then some (Char.ofNat low) else none
  | _ => none

/-- The words of a table: maximal runs without spaces and newlines. -/
def words (table : List Char) : List (List Char) :=
  ((table.map fun c => if c = '\n' then ' ' else c).splitOn ' ').filter (!·.isEmpty)

/-- Every `step`-th code point from `low` to `high`. -/
def stepped (low high step : Nat) : List (Nat × Nat) :=
  (List.range ((high - low) / step + 1)).map fun i => (low + i * step, low + i * step)

/-- The ranges that one word of a table stands for. -/
def ofWord (word : List Char) : List (Nat × Nat) :=
  match word.splitOn '-' with
  | [low, high] =>
      match high.splitOn '/' with
      | [high, step] => stepped (hexValue low) (hexValue high) (hexValue step)
      | _ => [(hexValue low, hexValue high)]
  | _ => [(hexValue word, hexValue word)]

/-- The set that a table lists. -/
def ofTable (table : String) : CharSet :=
  ofRanges ((words table.toList).flatMap ofWord)

end CharSet

end ImportRules.Text
