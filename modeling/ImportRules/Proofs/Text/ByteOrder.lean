import Mathlib.Data.String.Basic
/-!
# Texts and their bytes have the same order

Texts are compared character by character. Comparing their bytes in UTF-8 gives the same result: of
two characters, the greater one has the greater byte at the first place where their bytes differ,
and the bytes of neither go on where those of the other end.
-/

namespace ImportRules.Text

/-- The bytes of a text. -/
def bytes (text : String) : List UInt8 :=
  text.toUTF8.data.toList

theorem bytes_eq_flatMap (text : String) :
    bytes text = text.toList.flatMap String.utf8EncodeChar := by
  have hencode : text.toUTF8 = text.toList.utf8Encode := String.utf8Encode_toList.symm
  rw [bytes, hencode, List.utf8Encode, List.data_toByteArray, List.toList_toArray]

/-- Where neither of two lists goes on from the other, what follows them does not matter. -/
theorem append_lt_append_of_apart {first second : List UInt8} (hlt : first < second)
    (hapart : ¬first <+: second) (rest tail : List UInt8) : first ++ rest < second ++ tail := by
  induction first generalizing second with
  | nil => exact absurd List.nil_prefix hapart
  | cons a first ih =>
      cases second with
      | nil => exact absurd hlt (List.not_lt_nil _)
      | cons b second =>
          apply List.cons_lt_cons_iff.mpr
          rcases List.cons_lt_cons_iff.mp hlt with hbyte | ⟨rfl, hlater⟩
          · exact .inl hbyte
          · exact .inr ⟨rfl, ih hlater fun h => hapart (List.cons_prefix_cons.mpr ⟨rfl, h⟩)⟩

theorem utf8EncodeChar_lt {c d : Char} (hlt : c < d) :
    String.utf8EncodeChar c < String.utf8EncodeChar d := by
  have hval : c.val.toNat < d.val.toNat := hlt
  have hbound : d.val.toNat < 0x110000 := by
    rcases d.valid with h | h <;> omega
  -- the six-bit digits of a character, each from the one before it
  have hdigit (n : Nat) : n / 4096 = n / 64 / 64 ∧ n / 262144 = n / 64 / 64 / 64 := by omega
  have hcont (n : Nat) : (n % 64 + 128) % 256 = n % 64 + 128 := by omega
  unfold String.utf8EncodeChar
  dsimp only
  split_ifs <;> simp only [List.cons_lt_cons_iff, UInt8.lt_iff_toNat_lt, ← UInt8.toNat_inj,
    UInt8.toNat_ofNat', List.nil_lt_cons, List.not_lt_nil, Nat.reducePow, hdigit, hcont] <;> omega

theorem not_isPrefix_utf8EncodeChar {c d : Char} (hne : c ≠ d) :
    ¬String.utf8EncodeChar c <+: String.utf8EncodeChar d := by
  rintro ⟨rest, hrest⟩
  have hapart : [c] <+: [d] := by
    apply List.isPrefix_of_utf8Encode_append_eq_utf8Encode rest.toByteArray
    rw [List.utf8Encode_singleton, List.utf8Encode_singleton, ← List.toByteArray_append, hrest]
  exact hne (by simpa using hapart)

/-- The order of texts is that of their bytes. -/
theorem bytes_lt {first second : String} (hlt : first < second) : bytes first < bytes second := by
  rw [bytes_eq_flatMap, bytes_eq_flatMap]
  have hchars : first.toList < second.toList := String.lt_iff_toList_lt.mp hlt
  generalize first.toList = chars at hchars
  generalize second.toList = others at hchars
  induction chars generalizing others with
  | nil =>
      cases others with
      | nil => exact absurd hchars (List.not_lt_nil _)
      | cons d others =>
          obtain ⟨byte, more, hencode⟩ := List.exists_cons_of_ne_nil
            (String.utf8EncodeChar_ne_nil (c := d))
          rw [List.flatMap_cons, hencode]
          exact List.nil_lt_cons _ _
  | cons c chars ih =>
      cases others with
      | nil => exact absurd hchars (List.not_lt_nil _)
      | cons d others =>
          rw [List.flatMap_cons, List.flatMap_cons]
          rcases List.cons_lt_cons_iff.mp hchars with hchar | ⟨rfl, hlater⟩
          · exact append_lt_append_of_apart (utf8EncodeChar_lt hchar)
              (not_isPrefix_utf8EncodeChar (ne_of_lt hchar)) _ _
          · exact List.append_left_lt (ih _ hlater)

end ImportRules.Text
