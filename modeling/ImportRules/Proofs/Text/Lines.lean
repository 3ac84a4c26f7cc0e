import ImportRules.Proofs.Text.Pieces
import ImportRules.Text.Blank
import Mathlib.Data.List.DropRight
/-!
# Lines and what trimming leaves of them

A text that is put together from lines is cut into the same lines again. Trimming a line touches
only what stands behind its last character that is not blank.
-/

namespace ImportRules.Text

theorem byteLength_append (first second : List Char) :
    byteLength (first ++ second) = byteLength first + byteLength second := by
  induction first with
  | nil => simp [byteLength]
  | cons c first ih => simp [byteLength, ih, Nat.add_assoc]

variable {drop : Char → Bool} {first second line rest : List Char}

/-- Trimming at the end stops at a character that is kept. -/
theorem trimEnd_append (hlast : ∀ c ∈ first.getLast?, drop c = false) :
    trimEnd drop (first ++ second) = first ++ trimEnd drop second := by
  have hkept : first.reverse.dropWhile drop = first.reverse := by
    cases hreverse : first.reverse with
    | nil => rfl
    | cons c tail =>
        have hc : drop c = false := hlast c (by rw [List.getLast?_eq_head?_reverse, hreverse]; rfl)
        simp [hc]
  rw [trimEnd, trimEnd, List.reverse_append, List.dropWhile_append, hkept]
  split
  next hempty => simp [List.isEmpty_iff.mp hempty]
  next => simp

theorem trimEnd_eq_self (hlast : ∀ c ∈ first.getLast?, drop c = false) :
    trimEnd drop first = first := by
  have hend : trimEnd drop (first ++ []) = first ++ [] := trimEnd_append hlast
  rwa [List.append_nil] at hend

theorem trimEnd_append_of_forall (hsecond : ∀ c ∈ second, drop c = true) :
    trimEnd drop (first ++ second) = trimEnd drop first := by
  have hdropped : ∀ c ∈ second.reverse, drop c = true := by simpa using hsecond
  rw [trimEnd, List.reverse_append, List.dropWhile_append_of_pos hdropped, trimEnd]

theorem trimEnd_concat {c : Char} (hc : drop c = true) (text : List Char) :
    trimEnd drop (text ++ [c]) = trimEnd drop text :=
  trimEnd_append_of_forall (List.forall_mem_singleton.mpr hc)

theorem mem_of_mem_trimEnd {c : Char} (hc : c ∈ trimEnd drop line) : c ∈ line := by
  rw [trimEnd, List.mem_reverse] at hc
  exact List.mem_reverse.mp ((List.dropWhile_sublist _).mem hc)

theorem trimEnd_eq_nil (hline : ∀ c ∈ line, drop c = true) : trimEnd drop line = [] := by
  rw [trimEnd, ← List.append_nil line.reverse, List.dropWhile_append_of_pos (by simpa using hline)]
  rfl

/-- What trimming takes off stands at the end. -/
theorem exists_trimEnd_append (drop : Char → Bool) (text : List Char) :
    ∃ ending, text = trimEnd drop text ++ ending ∧ ∀ c ∈ ending, drop c = true := by
  refine ⟨(text.reverse.takeWhile drop).reverse, ?_, ?_⟩
  · rw [trimEnd, ← List.reverse_append, List.takeWhile_append_dropWhile, List.reverse_reverse]
  · intro c hc
    exact List.mem_takeWhile_imp (List.mem_reverse.mp hc)

theorem trimEnd_trimEnd (drop : Char → Bool) (text : List Char) :
    trimEnd drop (trimEnd drop text) = trimEnd drop text := by
  rw [trimEnd, trimEnd, List.reverse_reverse, List.dropWhile_idempotent]

theorem trim_blank_append (hfirst : ∀ c ∈ first, isBlank c = true) (second : List Char) :
    trim (first ++ second) = trim second := by
  rw [trim, trimBoth, List.dropWhile_append_of_pos hfirst, trim, trimBoth]

theorem trim_append_blank (hsecond : ∀ c ∈ second, isBlank c = true) (first : List Char) :
    trim (first ++ second) = trim first := by
  rw [trim, trimBoth, trim, trimBoth, List.dropWhile_append]
  split
  next hempty =>
    rw [List.isEmpty_iff.mp hempty, ← List.append_nil second, List.dropWhile_append_of_pos hsecond,
      List.dropWhile_nil]
  next => exact trimEnd_append_of_forall hsecond

/-- A text that starts and ends with characters that are not blank. -/
structure Solid (text : List Char) : Prop where
  ne_nil : text ≠ []
  head : ∀ c ∈ text.head?, isBlank c = false
  last : ∀ c ∈ text.getLast?, isBlank c = false

namespace Solid

theorem of_forall (hne : line ≠ []) (hline : ∀ c ∈ line, isBlank c = false) : Solid line where
  ne_nil := hne
  head c hc := hline c (List.mem_of_mem_head? hc)
  last c hc := hline c (List.mem_of_mem_getLast? hc)

theorem of_all (hne : line ≠ []) (hall : line.all (!isBlank ·) = true) : Solid line :=
  of_forall hne fun c hc => by simpa using List.all_eq_true.mp hall c hc

theorem head_append (hfirst : Solid first) (second : List Char) :
    ∀ c ∈ (first ++ second).head?, isBlank c = false := by
  rw [List.head?_append_of_ne_nil _ hfirst.ne_nil]
  exact hfirst.head

theorem between (hfirst : Solid first) (hsecond : Solid second) (middle : List Char) :
    Solid (first ++ (middle ++ second)) where
  ne_nil := by simp [hfirst.ne_nil]
  head := hfirst.head_append _
  last := by
    rw [← List.append_assoc, List.getLast?_append_of_ne_nil _ hsecond.ne_nil]
    exact hsecond.last

/-- Trimming touches only what stands behind a text without blanks at its ends. -/
theorem trim_append (hline : Solid line) (rest : List Char) :
    trim (line ++ rest) = line ++ trimEnd isBlank rest := by
  obtain ⟨c, tail, rfl⟩ := List.exists_cons_of_ne_nil hline.ne_nil
  have hc : isBlank c = false := hline.head c rfl
  rw [trim, trimBoth, List.cons_append, List.dropWhile_cons_of_neg (by simp [hc]),
    ← List.cons_append, trimEnd_append hline.last]

theorem trim_eq (hline : Solid line) : trim line = line := by
  simpa [trimEnd] using hline.trim_append []

end Solid

/-- Trimming takes the blanks off on both sides of a text. -/
theorem trim_between {before behind : List Char} (hbefore : ∀ c ∈ before, isBlank c = true)
    (hbehind : ∀ c ∈ behind, isBlank c = true) (hline : line = [] ∨ Solid line) :
    trim (before ++ (line ++ behind)) = line := by
  rw [trim_blank_append hbefore]
  rcases hline with rfl | hline
  · rw [List.nil_append, ← List.append_nil behind, trim_blank_append hbehind]
    rfl
  · rw [hline.trim_append, trimEnd_eq_nil hbehind, List.append_nil]

/-! ## Cutting a text into lines -/

theorem linesWithEnds_append (hline : '\n' ∉ line) (rest : List Char) :
    linesWithEnds (line ++ '\n' :: rest) = (line ++ ['\n']) :: linesWithEnds rest := by
  induction line with
  | nil => simp [linesWithEnds]
  | cons c line ih =>
      obtain ⟨hc, hline⟩ : '\n' ≠ c ∧ '\n' ∉ line := by simpa using hline
      rw [List.cons_append, linesWithEnds, if_neg hc.symm, ih hline]
      rfl

theorem linesWithEnds_flatMap {lines : List (List Char)} (hlines : ∀ line ∈ lines, '\n' ∉ line)
    (rest : List Char) :
    linesWithEnds (lines.flatMap (· ++ ['\n']) ++ rest) =
      lines.map (· ++ ['\n']) ++ linesWithEnds rest := by
  induction lines with
  | nil => rfl
  | cons line lines ih =>
      obtain ⟨hline, hlines⟩ := List.forall_mem_cons.mp hlines
      have htail := ih hlines
      simp only [List.flatMap_cons, List.append_assoc, List.cons_append, List.nil_append,
        linesWithEnds_append hline, htail, List.map_cons]

/-- A text without a newline is its only line. -/
theorem linesWithEnds_of_notMem (hne : line ≠ []) (hline : '\n' ∉ line) :
    linesWithEnds line = [line] := by
  induction line with
  | nil => exact absurd rfl hne
  | cons c line ih =>
      obtain ⟨hc, hline⟩ : '\n' ≠ c ∧ '\n' ∉ line := by simpa using hline
      rw [linesWithEnds, if_neg hc.symm]
      cases line with
      | nil => rfl
      | cons d line => rw [ih (List.cons_ne_nil d line) hline]

/-- A text is the lines between its newlines, each but the last with its line end. -/
theorem exists_splitOn_newline (text : List Char) :
    ∃ lines last, text.splitOn '\n' = lines ++ [last] ∧ (∀ line ∈ lines, '\n' ∉ line) ∧
      '\n' ∉ last ∧ text = lines.flatMap (· ++ ['\n']) ++ last := by
  induction text using cut_induction '\n' with
  | whole text htext => exact ⟨[], text, List.splitOn_eq_singleton htext, by simp, htext, rfl⟩
  | cut front back hfront ih =>
      obtain ⟨lines, last, hsplit, hlines, hlast, hback⟩ := ih
      refine ⟨front :: lines, last, ?_, List.forall_mem_cons.mpr ⟨hfront, hlines⟩, hlast, ?_⟩
      · rw [List.splitOn_append_cons_self_of_not_mem hfront, hsplit]
        rfl
      · nth_rewrite 1 [hback]
        simp

/-! ## Lines with their ends -/

/-- A line with its line end. -/
def IsWhole (raw : List Char) : Prop :=
  ∃ line, '\n' ∉ line ∧ raw = line ++ ['\n']

theorem IsWhole.count_newline (hwhole : IsWhole line) : line.count '\n' = 1 := by
  obtain ⟨content, hcontent, rfl⟩ := hwhole
  simp [List.count_eq_zero_of_not_mem hcontent]

/-- Cutting gives whole lines and, if the text does not end with a newline, a rest of a line. -/
theorem exists_linesWithEnds_eq (text : List Char) :
    ∃ above tail, linesWithEnds text = above ++ tail ∧ text = above.flatten ++ tail.flatten ∧
      (∀ raw ∈ above, IsWhole raw) ∧ (tail = [] ∨ ∃ last, tail = [last] ∧ '\n' ∉ last) := by
  obtain ⟨lines, last, -, hlines, hlast, htext⟩ := exists_splitOn_newline text
  have hcut : linesWithEnds text = lines.map (· ++ ['\n']) ++ linesWithEnds last := by
    rw [htext, linesWithEnds_flatMap hlines]
  have hwhole : ∀ raw ∈ lines.map (· ++ ['\n']), IsWhole raw := by
    intro raw hraw
    obtain ⟨line, hline, rfl⟩ := List.mem_map.mp hraw
    exact ⟨line, hlines line hline, rfl⟩
  by_cases hne : last = []
  · subst hne
    exact ⟨_, [], hcut, by simpa [List.flatMap_def] using htext, hwhole, .inl rfl⟩
  · rw [linesWithEnds_of_notMem hne hlast] at hcut
    exact ⟨_, [last], hcut, by simpa [List.flatMap_def] using htext, hwhole,
      .inr ⟨last, rfl, hlast⟩⟩

theorem flatten_linesWithEnds (text : List Char) : (linesWithEnds text).flatten = text := by
  obtain ⟨above, tail, hcut, htext, -⟩ := exists_linesWithEnds_eq text
  rw [hcut, List.flatten_append, ← htext]

/-- Only the last line can be without a line end. -/
theorem isWhole_of_linesWithEnds {text raw : List Char} {above below : List (List Char)}
    (hlines : linesWithEnds text = above ++ raw :: below) :
    (∀ line ∈ above, IsWhole line) ∧ (IsWhole raw ∨ '\n' ∉ raw) := by
  obtain ⟨whole, tail, hcut, -, hwhole, htail⟩ := exists_linesWithEnds_eq text
  have heq : whole ++ tail = above ++ raw :: below := hcut.symm.trans hlines
  have hraw : raw ∈ whole ++ tail := heq ▸ List.mem_append_right above List.mem_cons_self
  rcases htail with rfl | ⟨last, rfl, hlast⟩
  · rw [List.append_nil] at heq hraw
    subst heq
    exact ⟨fun line hline => hwhole line (List.mem_append_left _ hline), .inl (hwhole raw hraw)⟩
  · refine ⟨?_, ?_⟩
    · intro line hline
      have hearlier : whole = above ++ (raw :: below).dropLast := by
        rw [← List.dropLast_append_of_ne_nil (by simp), ← heq, List.dropLast_concat]
      apply hwhole
      rw [hearlier]
      exact List.mem_append_left _ hline
    · rcases List.mem_append.mp hraw with hmem | hmem
      · exact .inl (hwhole raw hmem)
      · exact .inr (List.mem_singleton.mp hmem ▸ hlast)

/-- Lines with their ends are found again in front of any text. -/
theorem linesWithEnds_flatten_append {above : List (List Char)}
    (habove : ∀ line ∈ above, IsWhole line) (rest : List Char) :
    linesWithEnds (above.flatten ++ rest) = above ++ linesWithEnds rest := by
  induction above with
  | nil => rfl
  | cons raw above ih =>
      obtain ⟨⟨line, hline, rfl⟩, hrest⟩ := List.forall_mem_cons.mp habove
      have htail := ih hrest
      simp only [List.flatten_cons, List.append_assoc, List.cons_append, List.nil_append,
        linesWithEnds_append hline, htail]

/-- There are as many newlines as lines with an end. -/
theorem count_newline_flatten {above : List (List Char)} (habove : ∀ line ∈ above, IsWhole line) :
    above.flatten.count '\n' = above.length := by
  induction above with
  | nil => rfl
  | cons raw above ih =>
      obtain ⟨hraw, habove⟩ := List.forall_mem_cons.mp habove
      rw [List.flatten_cons, List.count_append, hraw.count_newline, ih habove, List.length_cons,
        Nat.add_comm]

theorem getLast?_flatten {above : List (List Char)} (hne : above ≠ [])
    (habove : ∀ line ∈ above, IsWhole line) : above.flatten.getLast? = some '\n' := by
  rw [← List.dropLast_concat_getLast hne, List.flatten_append, List.flatten_singleton]
  obtain ⟨line, -, hlast⟩ := habove _ (List.getLast_mem hne)
  simp [hlast]

/-- The first line of a text starts with what the text starts with. -/
theorem exists_linesWithEnds_append (hne : line ≠ []) (hline : '\n' ∉ line) (rest : List Char) :
    ∃ ending lines, linesWithEnds (line ++ rest) = (line ++ ending) :: lines := by
  induction line with
  | nil => exact absurd rfl hne
  | cons c line ih =>
      obtain ⟨hc, hline⟩ : '\n' ≠ c ∧ '\n' ∉ line := by simpa using hline
      rw [List.cons_append, linesWithEnds, if_neg hc.symm]
      cases line with
      | nil =>
          rw [List.nil_append]
          split
          next => exact ⟨[], [], rfl⟩
          next ending lines _ => exact ⟨ending, lines, rfl⟩
      | cons d line =>
          obtain ⟨ending, lines, hlines⟩ := ih (List.cons_ne_nil d line) hline
          rw [hlines]
          exact ⟨ending, lines, rfl⟩

end ImportRules.Text
