import ImportRules.Text.Trait
/-!
# Letters, numbers and word characters

The classes of characters that names and words are made of. For ASCII they are the usual ones;
beyond it they follow from the traits and categories.
-/

namespace ImportRules.Text

/-- The characters that words are made of: letters, marks, decimal digits, connector punctuation and
the two joiners. -/
def wordSet : CharSet :=
  .unions [Trait.alphabetic, Trait.joinControl,
    Category.sets [.nonspacingMark, .spacingMark, .enclosingMark, .decimalNumber,
      .connectorPunctuation]]

def numberSet : CharSet :=
  Category.sets [.decimalNumber, .letterNumber, .otherNumber]

/-- The character is an ASCII letter, an ASCII digit or an underscore. -/
def isAsciiWord (c : Char) : Bool :=
  c.isAlphanum || c == '_'

/-- The character may stand in a word. -/
def isWord (c : Char) : Bool :=
  if c.toNat < 128 then isAsciiWord c else wordSet.contains c

/-- The character is a letter in the widest sense. -/
def isAlphabetic (c : Char) : Bool :=
  if c.toNat < 128 then c.isAlpha else Trait.alphabetic.contains c

/-- The character is a number of any kind. -/
def isNumeric (c : Char) : Bool :=
  if c.toNat < 128 then c.isDigit else numberSet.contains c

end ImportRules.Text
