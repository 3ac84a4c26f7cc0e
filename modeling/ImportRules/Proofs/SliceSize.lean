import ImportRules.Proofs.SliceText
import ImportRules.Proofs.Text.Lines
/-!
# Slice globs that are small enough

A slice glob is refused if its expression takes too much memory. What an expression takes is summed
up part by part, and a part of a slice glob takes no more than a fixed size, so that only very long
globs are refused.
-/

namespace ImportRules

namespace Expression

variable {backward : Bool}

/-- Size of the states of several expressions. -/
def sizeOfAll (backward : Bool) (es : List Expression) : Nat :=
  es.foldr (fun e size => e.statesSize backward false + size) 0

theorem sizeOfAll_cons (e : Expression) (es : List Expression) :
    sizeOfAll backward (e :: es) = e.statesSize backward false + sizeOfAll backward es := rfl

theorem sizeOfAll_append (es fs : List Expression) :
    sizeOfAll backward (es ++ fs) = sizeOfAll backward es + sizeOfAll backward fs := by
  induction es with
  | nil => exact (Nat.zero_add _).symm
  | cons e es ih => rw [List.cons_append, sizeOfAll_cons, ih, sizeOfAll_cons, Nat.add_assoc]

theorem sizeOfAll_parts_le (e : Expression) :
    sizeOfAll backward e.parts ≤ e.statesSize backward false := by
  induction e with
  | seq first rest ih ih' =>
      rw [parts, sizeOfAll_cons]
      simp only [statesSize, entry, Bool.false_eq_true, if_false]
      omega
  | empty => exact Nat.zero_le _
  | literal | oneOf | anchor | group | repeated | alt => exact Nat.le_refl _

/-- Two literals take as much as the one that they are joined to. -/
theorem sizeOfAll_attach (e : Expression) (es : List Expression) :
    sizeOfAll backward (attach e es) = e.statesSize backward false + sizeOfAll backward es := by
  fun_cases attach e es with
  | case1 text more es =>
      rw [sizeOfAll_cons, sizeOfAll_cons]
      simp only [statesSize, Text.byteLength_append, Nat.mul_add, entry, Bool.false_eq_true,
        if_false]
      omega
  | case2 e es hne => exact sizeOfAll_cons e es

theorem statesSize_ofParts_le (es : List Expression) :
    (ofParts es).statesSize backward false ≤ stateSize + sizeOfAll backward es := by
  fun_induction ofParts es with
  | case1 => exact Nat.le_refl _
  | case2 e =>
      rw [sizeOfAll_cons]
      exact Nat.le_add_left _ _
  | case3 e es hne ih =>
      rw [sizeOfAll_cons]
      simp only [statesSize, entry, Bool.false_eq_true, if_false]
      omega

/-- A sequence takes hardly more than its parts. -/
theorem statesSize_sequence_le (es : List Expression) :
    (sequence es).statesSize backward false ≤ stateSize + sizeOfAll backward es := by
  have hattach : ∀ fs : List Expression,
      sizeOfAll backward (fs.foldr attach []) = sizeOfAll backward fs := by
    intro fs
    induction fs with
    | nil => rfl
    | cons f fs ih => rw [List.foldr_cons, sizeOfAll_attach, ih, sizeOfAll_cons]
  have hparts : sizeOfAll backward (es.flatMap parts) ≤ sizeOfAll backward es := by
    induction es with
    | nil => exact Nat.le_refl _
    | cons e es ih =>
        have hfirst : sizeOfAll backward e.parts ≤ e.statesSize backward false :=
          sizeOfAll_parts_le e
        rw [List.flatMap_cons, sizeOfAll_append, sizeOfAll_cons]
        exact Nat.add_le_add hfirst ih
  have hsequence := @statesSize_ofParts_le backward ((es.flatMap parts).foldr attach [])
  rw [hattach] at hsequence
  exact hsequence.trans (Nat.add_le_add_left hparts _)

theorem statesSize_row_le (backward : Bool) (items : List Item) :
    (row items).expression.statesSize backward false ≤
      stateSize + sizeOfAll backward (items.reverse.map (·.expression)) := by
  rcases items with _ | ⟨item, _ | ⟨second, items⟩⟩
  · exact Nat.le_refl _
  · exact Nat.le_add_left _ _
  · exact statesSize_sequence_le _

/-- What a machine has besides the states of its expression takes less than so much. -/
theorem machineSize_le (backward : Bool) (e : Expression) :
    e.machineSize backward ≤ e.statesSize backward false + 208 := by
  unfold machineSize decisionSize stateSize entrySize rangeSize
  split <;> split <;> omega

end Expression

namespace SliceGlob

open Expression (sizeOfAll statesSize)

/-- The size that no part but a capture exceeds. -/
def partSize : Nat := 1040

/-- The size by which no capture exceeds other parts. -/
def captureSize : Nat := 1112

/-- The number of a group takes no memory. -/
theorem Token.statesSize_expression (backward last : Bool) (index : Nat) (token : Token) :
    (token.expression last index).statesSize backward false =
      (token.expression last 1).statesSize backward false := by
  cases token <;> rfl

theorem Token.statesSize_le (backward last : Bool) (index : Nat) (token : Token) :
    (token.expression last index).statesSize backward false ≤
      partSize + if token.isCapture then captureSize else 0 := by
  rw [statesSize_expression]
  cases token with
  | char c =>
      have hsize : ((Token.char c).expression last 1).statesSize backward false =
          0 + Expression.stateSize * (c.utf8Size + 0) := rfl
      have hbytes := c.utf8Size_le_four
      rw [hsize, Expression.stateSize, partSize]
      omega
  | _ => cases backward <;> cases last <;> decide +kernel

theorem sizeOfAll_partsItems_le (backward : Bool) (parts : List Token) (count : Nat) :
    sizeOfAll backward ((partsItems parts count).map (·.expression)) ≤
      partSize * parts.length + captureSize * captures parts := by
  induction parts generalizing count with
  | nil => exact Nat.le_refl _
  | cons token rest ih =>
      have hrest := ih (count + if token.isCapture then 1 else 0)
      have htoken := token.statesSize_le backward rest.isEmpty (count + 1)
      have hcaptures : captureSize * (captures rest + if token.isCapture then 1 else 0) =
          captureSize * captures rest + if token.isCapture then captureSize else 0 := by
        rw [Nat.mul_add, mul_ite, Nat.mul_one, Nat.mul_zero]
      rw [partsItems, List.map_cons, Expression.sizeOfAll_cons, captures_cons, hcaptures,
        List.length_cons, Nat.mul_succ]
      simp only [Token.item]
      omega

/-- The greatest number of characters for which a glob is small enough in any case. -/
def safeLength : Nat := 10000

theorem fitsMemory_parsed {parts : List Token} (hone : captures parts = 1)
    (hlength : parts.length ≤ safeLength) : (parsed parts).fitsMemory = true := by
  have hsize : ∀ backward, (parsed parts).machineSize backward ≤ Expression.memoryLimit := by
    intro backward
    have hmachine := Expression.machineSize_le backward (parsed parts)
    have hrow := Expression.statesSize_row_le backward ((partsItems parts 0).reverse ++ [startItem])
    have hparts := sizeOfAll_partsItems_le backward parts 0
    have hanchor : (Expression.anchor .textStart).statesSize backward false = 32 := rfl
    rw [map_expression_parsed, Expression.sizeOfAll_cons, hanchor, ← parsed] at hrow
    rw [hone, partSize, captureSize] at hparts
    rw [safeLength] at hlength
    rw [Expression.memoryLimit]
    rw [Expression.stateSize] at hrow
    omega
  rw [Expression.fitsMemory, Bool.and_eq_true, decide_eq_true_eq, decide_eq_true_eq]
  exact ⟨hsize false, hsize true⟩

/-- No part of a glob is written without a character. -/
theorem length_le_of_tokens {glob : List Char} {parts : List Token}
    (hparts : tokens glob = .ok parts) : parts.length ≤ glob.length := by
  fun_induction tokens glob generalizing parts with
  | case1 =>
      cases hparts
      exact Nat.le_refl _
  | case7 => cases hparts
  | case2 rest ih | case3 rest ih | case4 rest ih | case5 rest hnext ih | case6 rest ih
  | case8 c rest _ _ _ _ _ _ ih =>
      obtain ⟨parts, hrest, rfl⟩ := exists_tokens_of_map hparts
      have hlength := ih hrest
      simp only [List.length_cons]
      omega

/-- A glob that is not too long is small enough, if it has one capture. -/
theorem isSome_ofText?_written {glob : List Char} {parts : List Token}
    (hparts : tokens glob = .ok parts) (hone : captures parts = 1)
    (hlength : glob.length ≤ safeLength) :
    (Expression.ofText? (written parts)).isSome = true := by
  have hfits := fitsMemory_parsed hone ((length_le_of_tokens hparts).trans hlength)
  rw [ofText?_written, if_pos hfits]
  rfl

end SliceGlob

end ImportRules
