import ImportRules.Path
/-!
# Paths as they are shown

A path that is a text is shown as that text, so that different texts name paths that are shown
differently. Other paths may be shown alike, but then the mark `U+FFFD` is always among what is
shown.
-/

namespace ImportRules

namespace Text

variable {bytes : List UInt8} {c : Char}

theorem firstChar?_append (c : Char) (bytes : List UInt8) :
    firstChar? (String.utf8EncodeChar c ++ bytes) = some c := by
  rw [firstChar?, List.toByteArray_append]
  exact ByteArray.utf8DecodeChar?_utf8EncodeChar_append

theorem exists_of_firstChar? (hfirst : firstChar? bytes = some c) :
    ∃ rest, bytes = String.utf8EncodeChar c ++ rest := by
  obtain ⟨rest, hrest⟩ := ByteArray.exists_of_utf8DecodeChar?_eq_some hfirst
  refine ⟨rest.data.toList, List.toByteArray_inj.mp ?_⟩
  rw [hrest, List.toByteArray_append]
  congr 1
  exact ByteArray.ext (by rw [List.data_toByteArray, Array.toArray_toList])

theorem shownBehind_eq_shown_drop (skipped : Nat) (bytes : List UInt8) :
    shownBehind skipped bytes = shown (bytes.drop skipped) := by
  induction bytes generalizing skipped with
  | nil => cases skipped <;> rfl
  | cons byte bytes ih =>
      cases skipped with
      | zero => rfl
      | succ skipped => exact ih skipped

theorem shown_cons (byte : UInt8) (bytes : List UInt8) :
    shown (byte :: bytes) =
      match firstChar? (byte :: bytes) with
      | some c => c :: shown (bytes.drop (c.utf8Size - 1))
      | none => '\uFFFD' :: shown (bytes.drop (begunLength (byte :: bytes) - 1)) := by
  simp only [← shownBehind_eq_shown_drop]
  rfl

/-- A character at the start of bytes is shown as itself. -/
theorem shown_char_append (c : Char) (bytes : List UInt8) :
    shown (String.utf8EncodeChar c ++ bytes) = c :: shown bytes := by
  have hfirst := firstChar?_append c bytes
  have hlength := String.length_utf8EncodeChar c
  cases hchar : String.utf8EncodeChar c with
  | nil => exact absurd hchar String.utf8EncodeChar_ne_nil
  | cons byte more =>
      rw [hchar, List.cons_append] at hfirst
      rw [hchar, List.length_cons] at hlength
      rw [List.cons_append, shown_cons, hfirst]
      simp only [← hlength, Nat.add_sub_cancel, List.drop_left]

theorem shown_bytesOf (text : List Char) : shown (bytesOf text) = text := by
  induction text with
  | nil => rfl
  | cons c text ih => rw [bytesOf, List.flatMap_cons, shown_char_append, ← bytesOf, ih]

/-- Bytes that are shown without a mark are those of the text that is shown. -/
theorem bytesOf_shown (hmark : '\uFFFD' ∉ shown bytes) : bytesOf (shown bytes) = bytes := by
  induction hlength : bytes.length using Nat.strongRecOn generalizing bytes with
  | ind length ih =>
      subst hlength
      cases bytes with
      | nil => rfl
      | cons byte bytes =>
          cases hfirst : firstChar? (byte :: bytes) with
          | none =>
              rw [shown_cons, hfirst] at hmark
              exact absurd List.mem_cons_self hmark
          | some c =>
              obtain ⟨rest, hrest⟩ := exists_of_firstChar? hfirst
              have hshorter : rest.length < (byte :: bytes).length := by
                have hchar := List.length_pos_iff.mpr (@String.utf8EncodeChar_ne_nil c)
                rw [hrest, List.length_append]
                omega
              rw [hrest, shown_char_append] at hmark ⊢
              rw [bytesOf, List.flatMap_cons, ← bytesOf,
                ih _ hshorter (List.not_mem_of_not_mem_cons hmark) rfl]

end Text

namespace Path

variable {path other : Path}

theorem display_ofText (text : String) : (ofText text).display = text := by
  rw [display, ofText, Text.shown_bytesOf, String.ofList_toList]

theorem ofText_display (hmark : '\uFFFD' ∉ path.display.toList) : ofText path.display = path := by
  rw [display, String.toList_ofList] at hmark
  rw [ofText, display, String.toList_ofList, Text.bytesOf_shown hmark]

/-- Paths that are shown alike are the same, unless a mark is shown. -/
theorem eq_of_display_eq (hdisplay : path.display = other.display)
    (hmark : '\uFFFD' ∉ other.display.toList) : path = other := by
  rw [← ofText_display hmark, ← hdisplay, ofText_display (hdisplay ▸ hmark)]

end Path

end ImportRules
