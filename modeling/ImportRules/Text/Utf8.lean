import ImportRules.Text.CharSet
/-!
# UTF-8 forms of character sets

In UTF-8 a character is one to four bytes. A set of characters is the union of finitely many
sequences of byte ranges: each sequence stands for the characters whose first byte lies in the first
range, whose second byte lies in the second, and so on.
-/

namespace ImportRules.Text

namespace Utf8

/-- A range of bytes, both ends included. -/
abbrev ByteRange := Nat × Nat

/-- The range of all bytes that are not the first of a character. -/
def continuation : ByteRange := (0x80, 0xBF)

/-- The sequences for the values from `low` to `high`, which are written with `count` continuation
bytes behind a first byte; `mark` is what the first byte adds to its part of the value. Values that
share the first byte are told apart by the bytes behind it, and where all values behind a range of
first bytes are meant, one sequence does for all of them. -/
def sequencesBetween (mark : Nat) : Nat → Nat → Nat → List (List ByteRange)
  | 0, low, high => [[(mark + low, mark + high)]]
  | count + 1, low, high =>
      let unit := Nat.pow 64 (count + 1)
      let (first, last) := (low / unit, high / unit)
      let behind := fun byte low high =>
        (sequencesBetween 0x80 count low high).map ((mark + byte, mark + byte) :: ·)
      if first = last then behind first (low % unit) (high % unit)
      else
        let startsFull := low % unit = 0
        let endsFull := high % unit = unit - 1
        let firstFull := if startsFull then first else first + 1
        let behindFull := if endsFull then last + 1 else last
        (if startsFull then [] else behind first (low % unit) (unit - 1)) ++
          (if firstFull < behindFull then
            [(mark + firstFull, mark + behindFull - 1) :: List.replicate (count + 1) continuation]
          else []) ++
          if endsFull then [] else behind last 0 (high % unit)

/-- The least and the greatest code point of each length, the number of continuation bytes, and
what the first byte adds. The surrogates are left out. -/
def lengths : List (Nat × Nat × Nat × Nat) :=
  [(0, 0x7F, 0, 0), (0x80, 0x7FF, 1, 0xC0), (0x800, 0xD7FF, 2, 0xE0), (0xE000, 0xFFFF, 2, 0xE0),
   (0x10000, 0x10FFFF, 3, 0xF0)]

/-- The sequences of byte ranges for a range of code points. -/
def sequencesOfRange (low high : Nat) : List (List ByteRange) :=
  lengths.flatMap fun (least, greatest, count, mark) =>
    let low := max low least
    let high := min high greatest
    if low ≤ high then sequencesBetween mark count low high else []

end Utf8

/-- The bytes of a text. -/
def bytesOf (text : List Char) : List UInt8 :=
  text.flatMap String.utf8EncodeChar

/-- The sequences of byte ranges for a set, in ascending order. -/
def CharSet.byteSequences (set : CharSet) : List (List Utf8.ByteRange) :=
  set.ranges.flatMap fun (low, high) => Utf8.sequencesOfRange low high

end ImportRules.Text
