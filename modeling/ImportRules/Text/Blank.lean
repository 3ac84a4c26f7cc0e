import ImportRules.Text.Basic
/-!
# Blank characters

The characters of Unicode's White_Space property, and trimming by them. Beside the ASCII blanks
these are the next-line character, the no-break space and the typographic spaces.
-/

namespace ImportRules.Text

/-- The character has the White_Space property. -/
def isBlank (c : Char) : Bool :=
  let n := c.toNat
  (9 ≤ n && n ≤ 13) || n == 0x20 || n == 0x85 || n == 0xA0 || n == 0x1680 ||
    (0x2000 ≤ n && n ≤ 0x200A) || n == 0x2028 || n == 0x2029 || n == 0x202F ||
    n == 0x205F || n == 0x3000

/-- A text without blanks at its start. -/
def trimBlankStart (text : List Char) : List Char :=
  text.dropWhile isBlank

/-- A text without blanks at either end. -/
def trim (text : List Char) : List Char :=
  trimBoth isBlank text

end ImportRules.Text
