import ImportRules.Text.Word
/-!
# Anchors

An anchor is a condition on a place in a text. It reads nothing and looks at no more than the
characters directly before and after the place.
-/

namespace ImportRules

/-- How a place in a text lies with respect to words. -/
inductive WordEdge where
  | boundary
  | interior
  | start
  | stop
  | startHalf
  | stopHalf
  deriving DecidableEq, Repr

/-- A condition on a place that reads nothing. -/
inductive Anchor where
  | textStart
  | textEnd
  | lineStart
  | lineEnd
  /-- Start of a line when a carriage return, also one before a newline, ends lines. -/
  | returnLineStart
  | returnLineEnd
  /-- A word edge; words are made of ASCII characters only or of word characters of all scripts. -/
  | word (ascii : Bool) (edge : WordEdge)
  deriving DecidableEq, Repr

/-- Whether an anchor holds between two neighbouring characters; `none` stands for an end of the
text. -/
def Anchor.holds (before after : Option Char) : Anchor → Bool
  | .textStart => before.isNone
  | .textEnd => after.isNone
  | .lineStart => before.isNone || before == some '\n'
  | .lineEnd => after.isNone || after == some '\n'
  | .returnLineStart =>
      before.isNone || before == some '\n' || (before == some '\r' && after != some '\n')
  | .returnLineEnd =>
      after.isNone || after == some '\r' || (after == some '\n' && before != some '\r')
  | .word ascii edge =>
      let isWord := if ascii then Text.isAsciiWord else Text.isWord
      let left := before.any isWord
      let right := after.any isWord
      match edge with
      | .boundary => left != right
      | .interior => left == right
      | .start => !left && right
      | .stop => left && !right
      | .startHalf => !left
      | .stopHalf => !right

end ImportRules
