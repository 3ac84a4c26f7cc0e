import ImportRules.Source.Comments
/-!
# Text that has no comments

Blanking comments leaves code alone in which no slash stands, and so it does a string literal with
whatever it holds.
-/

namespace ImportRules.Source

variable {c quote : Char} {text rest : List Char}

theorem blankFrom_code_cons (hslash : c ≠ '/') (hquote : isQuote c = false) (rest : List Char) :
    blankFrom .code (c :: rest) = c :: blankFrom .code rest := by
  rw [blankFrom, hquote]
  · rfl
  · simp [hslash]
  · simp [hslash]

theorem blankFrom_code_append (htext : ∀ c ∈ text, c ≠ '/' ∧ isQuote c = false)
    (rest : List Char) : blankFrom .code (text ++ rest) = text ++ blankFrom .code rest := by
  induction text with
  | nil => rfl
  | cons c text ih =>
      obtain ⟨⟨hslash, hquote⟩, htext⟩ := List.forall_mem_cons.mp htext
      rw [List.cons_append, blankFrom_code_cons hslash hquote, ih htext, List.cons_append]

theorem blankFrom_literal_append (htext : ∀ c ∈ text, c ≠ quote ∧ c ≠ '\\' ∧ c ≠ '\n')
    (rest : List Char) :
    blankFrom (.literal quote) (text ++ rest) = text ++ blankFrom (.literal quote) rest := by
  induction text with
  | nil => rfl
  | cons c text ih =>
      obtain ⟨⟨hquote, hescape, hnewline⟩, htext⟩ := List.forall_mem_cons.mp htext
      have hinside : behindLiteralChar quote c = .literal quote := by
        simp [behindLiteralChar, hquote, hnewline]
      rw [List.cons_append, blankFrom, if_neg hescape, hinside, ih htext, List.cons_append]
      simp [hescape]

/-- A string literal without escapes is left alone. -/
theorem blankFrom_code_quoted (hquote : isQuote quote = true)
    (htext : ∀ c ∈ text, c ≠ quote ∧ c ≠ '\\' ∧ c ≠ '\n') (rest : List Char) :
    blankFrom .code (quote :: (text ++ quote :: rest)) =
      quote :: (text ++ quote :: blankFrom .code rest) := by
  have hslash : quote ≠ '/' := by rintro rfl; exact absurd hquote (by decide)
  have hescape : quote ≠ '\\' := by rintro rfl; exact absurd hquote (by decide)
  have hclose : blankFrom (.literal quote) (quote :: rest) = quote :: blankFrom .code rest := by
    rw [blankFrom, if_neg hescape]
    · simp [behindLiteralChar]
    · simp [hescape]
  rw [blankFrom, if_pos hquote, blankFrom_literal_append htext, hclose]
  · simp [hslash]
  · simp [hslash]

end ImportRules.Source
