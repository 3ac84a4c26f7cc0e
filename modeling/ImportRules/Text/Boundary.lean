import ImportRules.Text.Trait
/-!
# Boundaries in texts

How texts are divided into what is seen as one character, into words and into sentences is settled
by three classifications of the characters. Every function here gives the characters of a class,
asked for by a name in lower case without blanks, hyphens and underscores. Characters that fall
into no class cannot be asked for.
-/

namespace ImportRules.Text

namespace Boundary

/-- Format characters that stand before a number and take part in it. -/
def numberMarks : CharSet :=
  .ofTable "600-605 6dd 890-891 8e2 110bd 110cd"

/-- Invisible characters that spell out a tag. -/
def tags : CharSet :=
  .ofTable "e0020-e007f"

/-- Characters that belong to the character before them, spacing marks included. -/
def extenders : CharSet :=
  Trait.graphemeExtend.union Category.spacingMark.set

/-! ## Seen characters -/

/-- Hangul syllables without a final consonant: every twenty-eighth one. -/
def openSyllables : CharSet :=
  .ofTable "ac00-d788/1c"

def syllables : CharSet :=
  .ofTable "ac00-d7a3"

/-- Characters that stand alone whatever surrounds them. -/
def graphemeControl : CharSet :=
  (CharSet.unions [Category.sets [.lineSeparator, .paragraphSeparator, .control, .format],
    Category.unassigned.set.inter Trait.defaultIgnorable]).diff
      (.unions [tags, Trait.prependedConcatenationMark, .ofTable "a d 200c-200d"])

/-- Spacing marks that belong to the character before them. -/
def spacingMark : CharSet :=
  ((Category.spacingMark.set.diff Trait.graphemeExtend).union (.ofTable "e33 eb3")).diff
    (.ofTable
      "102b-102c 1038 1062-1064 1067-106d 1083 1087-108c 108f 109a-109c 1a61 1a63-1a64 aa7b aa7d
11720-11721")

/-- The class of seen characters with a given name. -/
def grapheme? : String → Option CharSet
  | "cn" | "control" => some graphemeControl
  | "cr" => some (.single '\r')
  | "lf" => some (.single '\n')
  | "ex" | "extend" => some (Trait.graphemeExtend.union Trait.emojiModifier)
  | "l" => some (.ofTable "1100-115f a960-a97c")
  | "v" => some (.ofTable "1160-11a7 d7b0-d7c6 16d63 16d67-16d6a")
  | "t" => some (.ofTable "11a8-11ff d7cb-d7fb")
  | "lv" => some openSyllables
  | "lvt" => some (syllables.diff openSyllables)
  | "pp" | "prepend" => some (.ofTable
      "600-605 6dd 70f 890-891 8e2 d4e 110bd 110cd 111c2-111c3 113d1 1193f 11941 11a3a
11a84-11a89 11d46 11f02")
  | "ri" | "regionalindicator" => some Trait.regionalIndicator
  | "sm" | "spacingmark" => some spacingMark
  | "zwj" => some (.ofTable "200d")
  | _ => none

/-! ## Words -/

def hebrewLetter : CharSet :=
  .ofTable
    "5d0-5ea 5ef-5f2 fb1d fb1f-fb28 fb2a-fb36 fb38-fb3c fb3e fb40-fb41 fb43-fb44 fb46-fb4f"

def katakana : CharSet :=
  .ofTable
    "3031-3035 309b-309c 30a0-30fa 30fc-30ff 31f0-31ff 32d0-32fe 3300-3357 ff66-ff9d 1aff0-1aff3
1aff5-1affb 1affd-1affe 1b000 1b120-1b122 1b155 1b164-1b167"

/-- Letters and letter-like signs of scripts that put blanks between words. -/
def wordLetter : CharSet :=
  ((Trait.alphabetic.union (.ofTable
    "2c2-2c5 2d2-2d7 2de-2df 2e5-2eb 2ed 2ef-2ff 55a-55c 55e 58a 5f3 70f a708-a716 a720-a721
a789-a78a ab5b")).diff
      (.unions [Trait.ideographic, katakana, hebrewLetter, extenders])).diff (.ofTable
        "e01-e30 e32-e33 e40-e46 e81-e82 e84 e86-e8a e8c-ea3 ea5 ea7-eb0 eb2-eb3 ebd ec0-ec4 ec6
edc-edf 1000-102a 103f 1050-1055 105a-105d 1061 1065-1066 106e-1070 1075-1081 108e 1780-17b3 17d7
17dc 1950-196d 1970-1974 1980-19ab 19b0-19c9 1a20-1a54 1aa7 3041-3096 309d-309f a9e0-a9e4
a9e6-a9ef a9fa-a9fe aa60-aa76 aa7a aa7e-aaaf aab1 aab5-aab6 aab9-aabd aac0 aac2 aadb-aadd
11700-1171a 11740-11746 1b001-1b11f 1b132 1b150-1b152")

/-- The class of word parts with a given name. -/
def word? : String → Option CharSet
  | "le" | "aletter" => some wordLetter
  | "cr" => some (.single '\r')
  | "lf" => some (.single '\n')
  | "nl" | "newline" => some (.ofTable "b-c 85 2028-2029")
  | "dq" | "doublequote" => some (.ofTable "22")
  | "sq" | "singlequote" => some (.ofTable "27")
  | "extend" => some (extenders.union Trait.emojiModifier)
  | "ex" | "extendnumlet" => some (Category.connectorPunctuation.set.union (.ofTable "202f"))
  | "fo" | "format" =>
      some (Category.format.set.diff
        (.unions [numberMarks, tags, .ofTable "70f 200b-200d"]))
  | "hl" | "hebrewletter" => some hebrewLetter
  | "ka" | "katakana" => some katakana
  | "ml" | "midletter" => some (.ofTable "3a b7 387 55f 5f4 2027 fe13 fe55 ff1a")
  | "mn" | "midnum" => some (.ofTable "2c 3b 37e 589 60c-60d 66c 7f8 2044 fe50 fe54 ff0c ff1b")
  | "mb" | "midnumlet" => some (.ofTable "2e 2018-2019 2024 fe52 ff07 ff0e")
  | "nu" | "numeric" =>
      some (.unions [Category.decimalNumber.set, numberMarks, .ofTable "66b 19da"])
  | "ri" | "regionalindicator" => some Trait.regionalIndicator
  | "wsegspace" => some (.ofTable "20 1680 2000-2006 2008-200a 205f 3000")
  | "zwj" => some (.ofTable "200d")
  | _ => none

/-! ## Sentences -/

def sentenceLower : CharSet :=
  (Trait.lowercase.diff Trait.graphemeExtend).diff (.ofTable "10d0-10fa 10fd-10ff")

def sentenceUpper : CharSet :=
  (Trait.uppercase.union Category.titlecaseLetter.set).diff (.ofTable "1c90-1cba 1cbd-1cbf")

def sentenceExtend : CharSet :=
  extenders.union (.ofTable "200d")

/-- Full stops, which need not end a sentence. -/
def fullStop : CharSet :=
  .ofTable "2e 2024 fe52 ff0e"

/-- The class of sentence parts with a given name. -/
def sentence? : String → Option CharSet
  | "at" | "aterm" => some fullStop
  | "cl" | "close" => some (.ofTable
      "22 27-29 5b 5d 7b 7d ab bb f3a-f3d 169b-169c 2018-201f 2039-203a 2045-2046 207d-207e
208d-208e 2308-230b 2329-232a 275b-2760 2768-2775 27c5-27c6 27e6-27ef 2983-2998 29d8-29db
29fc-29fd 2e00-2e0d 2e1c-2e1d 2e20-2e29 2e42 2e55-2e5c 3008-3011 3014-301b 301d-301f fd3e-fd3f
fe17-fe18 fe35-fe44 fe47-fe48 fe59-fe5e ff08-ff09 ff3b ff3d ff5b ff5d ff5f-ff60 ff62-ff63
1f676-1f678")
  | "cr" => some (.single '\r')
  | "lf" => some (.single '\n')
  | "ex" | "extend" => some sentenceExtend
  | "fo" | "format" =>
      some (Category.format.set.diff (.unions [numberMarks, tags, .ofTable "200c-200d"]))
  | "le" | "oletter" =>
      some ((Trait.alphabetic.union (.ofTable "5f3")).diff
        (.unions [sentenceLower, sentenceUpper, sentenceExtend]))
  | "lo" | "lower" => some sentenceLower
  | "up" | "upper" => some sentenceUpper
  | "nu" | "numeric" =>
      some (.unions [Category.decimalNumber.set, numberMarks, .ofTable "66b-66c 19da"])
  | "sc" | "scontinue" => some (.ofTable
      "2c-2d 3a-3b 37e 55d 60c-60d 7f8 1802 1808 2013-2014 3001 fe10-fe11 fe13-fe14 fe31-fe32
fe50-fe51 fe54-fe55 fe58 fe63 ff0c-ff0d ff1a-ff1b ff64")
  | "se" | "sep" => some (.ofTable "85 2028-2029")
  | "sp" => some (Trait.whiteSpace.diff (.ofTable "a d 85 2028-2029"))
  | "st" | "sterm" => some (Trait.sentenceTerminal.diff fullStop)
  | _ => none

end Boundary

end ImportRules.Text
