import ImportRules.Proofs.Diagram.Progress
import Mathlib.Logic.Relation
/-!
# What carries no meaning in the text of a diagram

Blank lines and comments, blanks at either end of a line, lines above the start marker and lines
below the end marker can be added to a text and taken out of it. Its lines move by that, and with
them the places of errors, but it is read as the same diagram, or refused for the same reason.
-/

namespace ImportRules

/-- The error without the place of a malformed line. -/
def DiagramError.unplaced : DiagramError → DiagramError
  | .malformedLine _ content _ _ => .malformedLine 0 content 0 0
  | error => error

namespace Diagram

variable {raw raw' closing : List Char} {above lines lines' : List (List Char)}
  {text text' : String}

/-- What a text is read as, apart from where an error stands in it. -/
def outcome (text : String) : Except DiagramError Diagram :=
  (ofText text).mapError DiagramError.unplaced

/-- The lines of a text without their line ends. -/
def textLines (text : String) : List (List Char) :=
  text.toList.splitOn '\n'

/-- A line is added, or blanks to a line, where they carry no meaning. -/
inductive Retouch : List (List Char) → List (List Char) → Prop
  /-- A blank line or a comment, anywhere. -/
  | silentLine (above below : List (List Char)) {line : List Char} (hline : isSilent line = true) :
      Retouch (above ++ below) (above ++ line :: below)
  /-- Blanks on either side of a line. -/
  | blanks (above below : List (List Char)) (before line behind : List Char)
      (hbefore : ∀ c ∈ before, Text.isBlank c = true)
      (hbehind : ∀ c ∈ behind, Text.isBlank c = true) :
      Retouch (above ++ line :: below) (above ++ (before ++ line ++ behind) :: below)
  /-- Lines above all others, without a start marker. -/
  | linesAbove (lines : List (List Char)) {added : List (List Char)}
      (hadded : ∀ line ∈ added, isStart line = false) : Retouch lines (added ++ lines)
  /-- Lines below all others, where there is an end marker behind a start marker. -/
  | linesBelow (above below added : List (List Char)) {closing : List Char}
      (habove : ∃ line ∈ above, isStart line = true) (hclosing : isEnd closing = true) :
      Retouch (above ++ closing :: below) (above ++ closing :: (below ++ added))

/-- The lines of one text are retouched to those of another. -/
def Retouches (text text' : String) : Prop :=
  Retouch (textLines text) (textLines text')

/-! ## Reading lines wherever they stand -/

/-- What lines behind the start marker are read as. -/
def bodyOutcome (draft : Draft) (lines : List (List Char)) : Except DiagramError Diagram :=
  (readBody 1 0 draft lines).mapError DiagramError.unplaced

/-- What the lines of a text are read as. -/
def linesOutcome (lines : List (List Char)) : Except DiagramError Diagram :=
  (readLines 1 0 lines).mapError DiagramError.unplaced

theorem alike_unplaced (htrim : Text.trim raw = Text.trim raw') :
    Alike DiagramError.unplaced raw raw' where
  start := by rw [isStart, isStart, htrim]
  effect := Draft.effect_congr htrim
  fault number offset number' offset' := by
    rw [malformedAt_eq, malformedAt_eq, htrim]
    rfl

theorem forall₂_alike_unplaced (lines : List (List Char)) :
    List.Forall₂ (Alike DiagramError.unplaced) lines lines :=
  List.forall₂_same.mpr fun _ _ => alike_unplaced rfl

theorem bodyOutcome_cons (draft : Draft) (raw : List Char) (lines : List (List Char)) :
    bodyOutcome draft (raw :: lines) =
      match draft.effect raw with
      | .closes => .ok draft.diagram
      | .goesOn next => bodyOutcome next lines
      | .fails => .error (.malformedLine 0 (String.ofList (Text.trim raw)) 0 0) := by
  rw [bodyOutcome, readBody_by_effect]
  cases draft.effect raw with
  | closes => rfl
  | goesOn next => exact Alike.readBody_eq (forall₂_alike_unplaced lines) _ _ _ _ next
  | fails => rw [malformedAt_eq]; rfl

theorem linesOutcome_of_isStart (hraw : isStart raw = true) (lines : List (List Char)) :
    linesOutcome (raw :: lines) = bodyOutcome {} lines := by
  rw [linesOutcome, readLines_of_isStart hraw]
  exact Alike.readBody_eq (forall₂_alike_unplaced lines) _ _ _ _ {}

theorem linesOutcome_of_not_isStart (hraw : isStart raw = false) (lines : List (List Char)) :
    linesOutcome (raw :: lines) = linesOutcome lines := by
  rw [linesOutcome, readLines_of_not_isStart hraw]
  exact Alike.readLines_eq (forall₂_alike_unplaced lines) _ _ _ _

/-! ## Lines that can be exchanged below any others -/

/-- Lines that are read as the same outside a diagram, and inside it with any draft. -/
structure Interchangeable (lines lines' : List (List Char)) : Prop where
  outside : linesOutcome lines = linesOutcome lines'
  inside : ∀ draft, bodyOutcome draft lines = bodyOutcome draft lines'

theorem Interchangeable.refl (lines : List (List Char)) : Interchangeable lines lines :=
  ⟨rfl, fun _ => rfl⟩

theorem bodyOutcome_cons_congr (htrim : Text.trim raw = Text.trim raw')
    (hlines : ∀ draft, bodyOutcome draft lines = bodyOutcome draft lines') (draft : Draft) :
    bodyOutcome draft (raw :: lines) = bodyOutcome draft (raw' :: lines') := by
  rw [bodyOutcome_cons, bodyOutcome_cons, draft.effect_congr htrim, htrim]
  simp only [hlines]

/-- Lines with the same trimmed text can be exchanged as well. -/
theorem Interchangeable.cons (htrim : Text.trim raw = Text.trim raw')
    (hlines : Interchangeable lines lines') : Interchangeable (raw :: lines) (raw' :: lines') where
  outside := by
    have hsame : isStart raw' = isStart raw := by rw [isStart, isStart, htrim]
    cases hraw : isStart raw with
    | false =>
        rw [linesOutcome_of_not_isStart hraw, linesOutcome_of_not_isStart (hsame.trans hraw)]
        exact hlines.outside
    | true =>
        rw [linesOutcome_of_isStart hraw, linesOutcome_of_isStart (hsame.trans hraw)]
        exact hlines.inside {}
  inside := bodyOutcome_cons_congr htrim hlines.inside

theorem Interchangeable.append (hlines : Interchangeable lines lines')
    (above : List (List Char)) : Interchangeable (above ++ lines) (above ++ lines') := by
  induction above with
  | nil => exact hlines
  | cons raw above ih => exact ih.cons rfl

/-- A blank line or a comment is no marker. -/
theorem not_marker_of_isSilent (hraw : isSilent raw = true) :
    isStart raw = false ∧ isEnd raw = false := by
  rw [isSilent] at hraw
  rw [isStart, isEnd]
  cases htrim : Text.trim raw with
  | nil => exact ⟨by decide, by decide⟩
  | cons c rest =>
      obtain rfl : c = '\'' := by simpa [htrim] using hraw
      exact ⟨rfl, rfl⟩

theorem interchangeable_silent (hraw : isSilent raw = true) (lines : List (List Char)) :
    Interchangeable lines (raw :: lines) := by
  obtain ⟨hstart, hend⟩ := not_marker_of_isSilent hraw
  refine ⟨(linesOutcome_of_not_isStart hstart lines).symm, ?_⟩
  intro draft
  have heffect : draft.effect raw = .goesOn draft := by
    simp [Draft.effect, hend, hraw]
  rw [bodyOutcome_cons, heffect]

/-! ## Retouching -/

theorem linesOutcome_append_of_not_isStart {added : List (List Char)}
    (hadded : ∀ line ∈ added, isStart line = false) (lines : List (List Char)) :
    linesOutcome (added ++ lines) = linesOutcome lines := by
  induction added with
  | nil => rfl
  | cons raw added ih =>
      obtain ⟨hraw, hrest⟩ := List.forall_mem_cons.mp hadded
      rw [List.cons_append, linesOutcome_of_not_isStart hraw, ih hrest]

/-- Inside a diagram, nothing is read below its end marker. -/
theorem bodyOutcome_append_closing (hclosing : isEnd closing = true) (draft : Draft)
    (body below below' : List (List Char)) :
    bodyOutcome draft (body ++ closing :: below) =
      bodyOutcome draft (body ++ closing :: below') := by
  induction body generalizing draft with
  | nil =>
      have heffect : draft.effect closing = .closes := by simp [Draft.effect, hclosing]
      rw [List.nil_append, List.nil_append, bodyOutcome_cons, bodyOutcome_cons, heffect]
  | cons raw body ih => exact bodyOutcome_cons_congr rfl ih draft

theorem linesOutcome_append_closing (hclosing : isEnd closing = true)
    (habove : ∃ line ∈ above, isStart line = true) (below below' : List (List Char)) :
    linesOutcome (above ++ closing :: below) = linesOutcome (above ++ closing :: below') := by
  induction above with
  | nil => simp at habove
  | cons raw above ih =>
      -- Only from the first start marker on does the end marker count.
      cases hraw : isStart raw with
      | true =>
          rw [List.cons_append, List.cons_append, linesOutcome_of_isStart hraw,
            linesOutcome_of_isStart hraw]
          exact bodyOutcome_append_closing hclosing {} above below below'
      | false =>
          rw [List.cons_append, List.cons_append, linesOutcome_of_not_isStart hraw,
            linesOutcome_of_not_isStart hraw]
          exact ih (by simpa [hraw] using habove)

theorem Retouch.linesOutcome_eq (hretouch : Retouch lines lines') :
    linesOutcome lines = linesOutcome lines' := by
  cases hretouch with
  | silentLine above below hline =>
      exact ((interchangeable_silent hline below).append above).outside
  | blanks above below before line behind hbefore hbehind =>
      have htrim : Text.trim line = Text.trim (before ++ line ++ behind) := by
        rw [Text.trim_append_blank hbehind, Text.trim_blank_append hbefore]
      exact (((Interchangeable.refl below).cons htrim).append above).outside
  | linesAbove lines hadded => exact (linesOutcome_append_of_not_isStart hadded lines).symm
  | linesBelow above below added habove hclosing =>
      exact linesOutcome_append_closing hclosing habove below (below ++ added)

/-- Cutting a text behind its newlines or at them makes no difference. -/
theorem interchangeable_linesWithEnds (text : List Char) :
    Interchangeable (Text.linesWithEnds text) (text.splitOn '\n') := by
  obtain ⟨lines, last, hsplit, hlines, hlast, htext⟩ := Text.exists_splitOn_newline text
  -- Behind a newline at the end of the text stands a last line that is blank.
  have hend : Interchangeable (Text.linesWithEnds last) [last] := by
    by_cases hne : last = []
    · rw [hne]
      exact interchangeable_silent (by decide) []
    · rw [Text.linesWithEnds_of_notMem hne hlast]
      exact .refl [last]
  rw [hsplit, htext, Text.linesWithEnds_flatMap hlines]
  clear hsplit hlines htext
  induction lines with
  | nil => exact hend
  | cons line lines ih =>
      have hnewline : ∀ c ∈ ['\n'], Text.isBlank c = true :=
        List.forall_mem_singleton.mpr (by decide)
      exact ih.cons (Text.trim_append_blank hnewline line)

theorem outcome_eq_linesOutcome (text : String) : outcome text = linesOutcome (textLines text) :=
  (interchangeable_linesWithEnds text.toList).outside

/-- Retouching a text, any number of times and back and forth, does not change what it is read as:
the same diagram, or the same error with the same malformed line. -/
theorem outcome_of_retouches (hretouches : Relation.EqvGen Retouches text text') :
    outcome text = outcome text' := by
  induction hretouches with
  | rel text text' hretouch =>
      rw [outcome_eq_linesOutcome, outcome_eq_linesOutcome]
      exact Retouch.linesOutcome_eq hretouch
  | refl text => rfl
  | symm text text' _ ih => exact ih.symm
  | trans text between text' _ _ ih ih' => exact ih.trans ih'

/-- A line with no name before its arrow stays the one that is reported when a line is put above
the diagram and another one below it, a comment before the line and blanks around it. -/
theorem outcome_of_retouches_malformed :
    let text := "@startuml\n->\n@enduml"
    let text' := "note\n@startuml\n' here\n\t-> \r\n@enduml\nmore"
    Relation.EqvGen Retouches text text' ∧ outcome text = outcome text' ∧
      outcome text = .error (.malformedLine 0 "->" 0 0) := by
  have habove : Retouches "@startuml\n->\n@enduml" "note\n@startuml\n->\n@enduml" :=
    Retouch.linesAbove ["@startuml".toList, "->".toList, "@enduml".toList]
      (List.forall_mem_singleton.mpr (by decide : isStart "note".toList = false))
  have hcomment : Retouches "note\n@startuml\n->\n@enduml"
      "note\n@startuml\n' here\n->\n@enduml" :=
    Retouch.silentLine ["note".toList, "@startuml".toList] ["->".toList, "@enduml".toList]
      (by decide : isSilent "' here".toList = true)
  have hblanks : Retouches "note\n@startuml\n' here\n->\n@enduml"
      "note\n@startuml\n' here\n\t-> \r\n@enduml" :=
    Retouch.blanks ["note".toList, "@startuml".toList, "' here".toList] ["@enduml".toList]
      ['\t'] "->".toList [' ', '\r'] (List.all_eq_true.mp (by decide))
      (List.all_eq_true.mp (by decide))
  have hbelow : Retouches "note\n@startuml\n' here\n\t-> \r\n@enduml"
      "note\n@startuml\n' here\n\t-> \r\n@enduml\nmore" :=
    Retouch.linesBelow ["note".toList, "@startuml".toList, "' here".toList, "\t-> \r".toList] []
      ["more".toList] ⟨"@startuml".toList, by simp, by decide⟩
      (by decide : isEnd "@enduml".toList = true)
  have hretouches :=
    Relation.EqvGen.trans _ _ _ (.rel _ _ habove) (.trans _ _ _ (.rel _ _ hcomment)
      (.trans _ _ _ (.rel _ _ hblanks) (.rel _ _ hbelow)))
  exact ⟨hretouches, outcome_of_retouches hretouches, rfl⟩

end Diagram

end ImportRules
