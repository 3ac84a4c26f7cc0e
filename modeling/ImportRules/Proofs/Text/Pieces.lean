import Mathlib.Data.List.Forall2
/-!
# The pieces of a text between separators

What holds of the pieces of a text is shown along its separators: a text without one is its own only
piece, and any other text is a first piece, a separator and a text that is cut again. Pieces hold no
separator and stand in the text as they are.
-/

namespace ImportRules.Text

variable {separator : Char} {text piece : List Char}

/-- A text is cut at its first separator, and what is behind it is cut again. -/
theorem cut_induction (separator : Char) {motive : List Char → Prop}
    (whole : ∀ text, separator ∉ text → motive text)
    (cut : ∀ front back, separator ∉ front → motive back → motive (front ++ separator :: back))
    (text : List Char) : motive text := by
  induction hlength : text.length using Nat.strongRecOn generalizing text with
  | ind length ih =>
      by_cases hmem : separator ∈ text
      · obtain ⟨front, back, rfl, hfront⟩ := List.eq_append_cons_of_mem hmem
        apply cut front back hfront
        apply ih back.length ?_ back rfl
        rw [← hlength, List.length_append, List.length_cons]
        omega
      · exact whole text hmem

theorem separator_notMem_of_mem_splitOn (hpiece : piece ∈ text.splitOn separator) :
    separator ∉ piece := by
  induction text using cut_induction separator with
  | whole text htext =>
      rw [List.splitOn_eq_singleton htext] at hpiece
      exact List.mem_singleton.mp hpiece ▸ htext
  | cut front back hfront ih =>
      rw [List.splitOn_append_cons_self_of_not_mem hfront] at hpiece
      rcases List.mem_cons.mp hpiece with rfl | hpiece
      · exact hfront
      · exact ih hpiece

theorem infix_of_mem_splitOn (hpiece : piece ∈ text.splitOn separator) : piece <:+: text := by
  induction text using cut_induction separator with
  | whole text htext =>
      rw [List.splitOn_eq_singleton htext] at hpiece
      exact List.mem_singleton.mp hpiece ▸ List.infix_refl piece
  | cut front back hfront ih =>
      rw [List.splitOn_append_cons_self_of_not_mem hfront] at hpiece
      rcases List.mem_cons.mp hpiece with rfl | hpiece
      · exact (List.prefix_append _ _).isInfix
      · apply (ih hpiece).trans
        exact ((List.suffix_cons separator back).trans (List.suffix_append _ _)).isInfix

/-- A text is cut in one way only at the first character that is not accepted. -/
theorem append_cons_inj {accepts : Char → Bool} {c d : Char} {first second rest tail : List Char}
    (hfirst : ∀ c ∈ first, accepts c = true) (hsecond : ∀ c ∈ second, accepts c = true)
    (hc : accepts c = false) (hd : accepts d = false)
    (heq : first ++ c :: rest = second ++ d :: tail) : first = second ∧ c = d ∧ rest = tail := by
  induction first generalizing second with
  | nil =>
      cases second with
      | nil => exact ⟨rfl, List.cons.inj heq⟩
      | cons e second =>
          obtain ⟨rfl, -⟩ := List.cons.inj heq
          exact absurd (hsecond c List.mem_cons_self) (by simp [hc])
  | cons e first ih =>
      obtain ⟨he, hfirst⟩ := List.forall_mem_cons.mp hfirst
      cases second with
      | nil =>
          obtain ⟨rfl, -⟩ := List.cons.inj heq
          exact absurd he (by simp [hd])
      | cons f second =>
          obtain ⟨rfl, hlater⟩ := List.cons.inj heq
          obtain ⟨rfl, hrest⟩ := ih hfirst (List.forall_mem_cons.mp hsecond).2 hlater
          exact ⟨rfl, hrest⟩

/-! ## Parts for the pieces -/

variable {α : Type} {R : α → List Char → Prop} {part : α} {parts : List α}

/-- A single part is related to the pieces of a text that has only one. -/
theorem forall₂_splitOn_singleton :
    List.Forall₂ R [part] (text.splitOn separator) ↔ separator ∉ text ∧ R part text := by
  by_cases htext : separator ∈ text
  · obtain ⟨before, behind, rfl, hbefore⟩ := List.eq_append_cons_of_mem htext
    rw [List.splitOn_append_cons_self_of_not_mem hbefore]
    simp [List.splitOn_ne_nil]
  · rw [List.splitOn_eq_singleton htext]
    simp [htext]

/-- The first of several parts is related to what stands before the first separator. -/
theorem forall₂_splitOn_cons (hparts : parts ≠ []) :
    List.Forall₂ R (part :: parts) (text.splitOn separator) ↔
      ∃ before behind, text = before ++ separator :: behind ∧ separator ∉ before ∧
        R part before ∧ List.Forall₂ R parts (behind.splitOn separator) := by
  constructor
  · intro hforall
    by_cases htext : separator ∈ text
    · obtain ⟨before, behind, rfl, hbefore⟩ := List.eq_append_cons_of_mem htext
      rw [List.splitOn_append_cons_self_of_not_mem hbefore, List.forall₂_cons] at hforall
      exact ⟨before, behind, rfl, hbefore, hforall⟩
    · rw [List.splitOn_eq_singleton htext, List.forall₂_cons, List.forall₂_nil_right_iff] at hforall
      exact absurd hforall.2 hparts
  · rintro ⟨before, behind, rfl, hbefore, hforall⟩
    rw [List.splitOn_append_cons_self_of_not_mem hbefore, List.forall₂_cons]
    exact hforall

end ImportRules.Text
