import ImportRules.Text.Utf8
/-!
# Texts of bytes

Bytes that should be UTF-8 but need not be can still be shown as a text. A character stands for
itself, and the mark `U+FFFD` stands for bytes that begin a character and are then broken off. So
different bytes may be shown alike.
-/

namespace ImportRules.Text

/-- The character that bytes start with. -/
def firstChar? (bytes : List UInt8) : Option Char :=
  bytes.toByteArray.utf8DecodeChar? 0

/-- The number of bytes that lie in the ranges, one after the other. -/
def lengthWithin : List Utf8.ByteRange → List UInt8 → Nat
  | (low, high) :: ranges, byte :: bytes =>
      if low ≤ byte.toNat ∧ byte.toNat ≤ high then lengthWithin ranges bytes + 1 else 0
  | _, _ => 0

/-- The greatest number of bytes that begin a character. It is one also for a byte that can begin
none, since that byte has to be shown. -/
def begunLength (bytes : List UInt8) : Nat :=
  (CharSet.all.byteSequences.map (lengthWithin · bytes)).foldl max 1

/-- The text that bytes are shown as, behind the first `skipped` of them. -/
def shownBehind : Nat → List UInt8 → List Char
  | _, [] => []
  | skipped + 1, _ :: bytes => shownBehind skipped bytes
  | 0, byte :: bytes =>
      match firstChar? (byte :: bytes) with
      | some c => c :: shownBehind (c.utf8Size - 1) bytes
      | none => '\uFFFD' :: shownBehind (begunLength (byte :: bytes) - 1) bytes

/-- The text that bytes are shown as. -/
def shown (bytes : List UInt8) : List Char :=
  shownBehind 0 bytes

end ImportRules.Text
