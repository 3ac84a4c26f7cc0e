import ImportRules.Diagram.Reader
import ImportRules.Proofs.Text.Lines
import Mathlib.Data.List.Forall2
/-!
# Progress through the lines of a diagram

Behind the start marker, a line closes the diagram, takes the reader on to another draft, or fails.
Which of them it does depends on its trimmed text alone. So the lines above a place tell with which
draft the reader gets there, and a malformed line is the one that fails after lines that the reader
got through. Lines that do the same are read as the same diagram, or refused alike.
-/

namespace ImportRules.Diagram

variable {draft next last : Draft} {raw raw' : List Char} {above below lines : List (List Char)}
  {number offset : Nat}

/-! ## What a line does -/

/-- The line is a start marker. -/
def isStart (raw : List Char) : Bool :=
  "@startuml".toList.isPrefixOf (Text.trim raw)

/-- The line is an end marker. -/
def isEnd (raw : List Char) : Bool :=
  "@enduml".toList.isPrefixOf (Text.trim raw)

/-- The line is blank or a comment. -/
def isSilent (raw : List Char) : Bool :=
  (Text.trim raw).isEmpty || (Text.trim raw).head? == some '\''

/-- What a line behind the start marker does. -/
inductive Effect where
  | closes
  | goesOn (next : Draft)
  | fails

/-- What a line does to a draft. -/
def Draft.effect (draft : Draft) (raw : List Char) : Effect :=
  if isEnd raw then .closes
  else if isSilent raw then .goesOn draft
  else
    match draft.add (readLine (Text.trim raw)) with
    | some next => .goesOn next
    | none => .fails

theorem readBody_by_effect (number offset : Nat) (draft : Draft) (raw : List Char)
    (lines : List (List Char)) :
    readBody number offset draft (raw :: lines) =
      match draft.effect raw with
      | .closes => .ok draft.diagram
      | .goesOn next => readBody (number + 1) (offset + Text.byteLength raw) next lines
      | .fails => .error (malformedAt number offset raw) := by
  rw [readBody, Draft.effect, isEnd, isSilent]
  split
  · rfl
  · split
    · rfl
    · cases draft.add (readLine (Text.trim raw)) <;> rfl

theorem Draft.effect_congr (htrim : Text.trim raw = Text.trim raw') (draft : Draft) :
    draft.effect raw = draft.effect raw' := by
  rw [effect, effect, isEnd, isEnd, isSilent, isSilent, htrim]

/-- A line without its line end. -/
def withoutEnd (raw : List Char) : List Char :=
  Text.trimEnd (fun c => c == '\r' || c == '\n') raw

theorem isBlank_of_lineEnd {c : Char} (hc : (c == '\r' || c == '\n') = true) :
    Text.isBlank c = true := by
  rcases Bool.or_eq_true_iff.mp hc with hc | hc <;> rw [beq_iff_eq.mp hc] <;> decide

theorem trim_withoutEnd (raw : List Char) : Text.trim (withoutEnd raw) = Text.trim raw := by
  obtain ⟨ending, hraw, hending⟩ :=
    Text.exists_trimEnd_append (fun c => c == '\r' || c == '\n') raw
  have hblank : ∀ c ∈ ending, Text.isBlank c = true :=
    fun c hc => isBlank_of_lineEnd (hending c hc)
  nth_rewrite 2 [hraw]
  exact (Text.trim_append_blank hblank _).symm

theorem malformedAt_eq (number offset : Nat) (raw : List Char) :
    malformedAt number offset raw =
      .malformedLine number (String.ofList (Text.trim raw)) offset
        (Text.byteLength (withoutEnd raw)) := by
  rw [← trim_withoutEnd]
  rfl

/-! ## What lines do one after the other -/

/-- Lines that take the reader on from a draft to another. -/
inductive Draft.Takes : Draft → List (List Char) → Draft → Prop
  | nil (draft : Draft) : Takes draft [] draft
  | cons {draft next last : Draft} {raw : List Char} {lines : List (List Char)}
      (hraw : draft.effect raw = .goesOn next) (hlines : Takes next lines last) :
      Takes draft (raw :: lines) last

/-- Lines that lead to a place inside a diagram: any lines, a start marker, and lines that take the
reader on to a draft. -/
inductive Reaches : List (List Char) → Draft → Prop
  | skip {raw : List Char} {above : List (List Char)} {draft : Draft}
      (hraw : isStart raw = false) (habove : Reaches above draft) : Reaches (raw :: above) draft
  | start {raw : List Char} {above : List (List Char)} {draft : Draft}
      (hraw : isStart raw = true) (habove : ({} : Draft).Takes above draft) :
      Reaches (raw :: above) draft

theorem readLines_of_isStart (hraw : isStart raw = true) (number offset : Nat)
    (lines : List (List Char)) :
    readLines number offset (raw :: lines) =
      readBody (number + 1) (offset + Text.byteLength raw) {} lines := by
  rw [isStart] at hraw
  rw [readLines, if_pos hraw]

theorem readLines_of_not_isStart (hraw : isStart raw = false) (number offset : Nat)
    (lines : List (List Char)) :
    readLines number offset (raw :: lines) =
      readLines (number + 1) (offset + Text.byteLength raw) lines := by
  rw [isStart] at hraw
  rw [readLines, if_neg (Bool.not_eq_true _ ▸ hraw)]

theorem Draft.Takes.readBody_append (htakes : draft.Takes above last) (number offset : Nat)
    (below : List (List Char)) :
    readBody number offset draft (above ++ below) =
      readBody (number + above.length) (offset + Text.byteLength above.flatten) last below := by
  induction htakes generalizing number offset with
  | nil draft => rfl
  | cons hraw hlines ih =>
      rw [List.cons_append, readBody_by_effect, hraw]
      dsimp only
      rw [ih, List.flatten_cons, Text.byteLength_append, List.length_cons, Nat.add_assoc,
        Nat.add_assoc, Nat.add_comm 1]

theorem Reaches.readLines_append (hreaches : Reaches above draft) (number offset : Nat)
    (below : List (List Char)) :
    readLines number offset (above ++ below) =
      readBody (number + above.length) (offset + Text.byteLength above.flatten) draft below := by
  induction hreaches generalizing number offset with
  | skip hraw habove ih =>
      rw [List.cons_append, readLines_of_not_isStart hraw, ih, List.flatten_cons,
        Text.byteLength_append, List.length_cons, Nat.add_assoc, Nat.add_assoc, Nat.add_comm 1]
  | start hraw habove =>
      rw [List.cons_append, readLines_of_isStart hraw, habove.readBody_append, List.flatten_cons,
        Text.byteLength_append, List.length_cons, Nat.add_assoc, Nat.add_assoc, Nat.add_comm 1]

/-! ## Lines that do the same -/

/-- Two lines that do the same, and of which an error tells the same as far as `told` goes. -/
structure Alike {β : Type} (told : DiagramError → β) (raw raw' : List Char) : Prop where
  start : isStart raw = isStart raw'
  effect : ∀ draft : Draft, draft.effect raw = draft.effect raw'
  fault : ∀ number offset number' offset',
    told (malformedAt number offset raw) = told (malformedAt number' offset' raw')

section Alike

variable {β : Type} {told : DiagramError → β} {lines' : List (List Char)}

theorem Alike.readBody_eq (hlines : List.Forall₂ (Alike told) lines lines')
    (number offset number' offset' : Nat) (draft : Draft) :
    (readBody number offset draft lines).mapError told =
      (readBody number' offset' draft lines').mapError told := by
  induction hlines generalizing number offset number' offset' draft with
  | nil => rfl
  | cons hraw _ ih =>
      rw [readBody_by_effect, readBody_by_effect, hraw.effect]
      split
      next => rfl
      next next _ => exact ih _ _ _ _ next
      next => exact congrArg Except.error (hraw.fault _ _ _ _)

/-- Lines that do the same in turn are read as the same diagram, or refused alike, wherever they
stand. -/
theorem Alike.readLines_eq (hlines : List.Forall₂ (Alike told) lines lines')
    (number offset number' offset' : Nat) :
    (readLines number offset lines).mapError told =
      (readLines number' offset' lines').mapError told := by
  induction hlines generalizing number offset number' offset' with
  | nil => rfl
  | @cons raw raw' _ _ hraw hlines ih =>
      cases hstart : isStart raw with
      | false =>
          rw [readLines_of_not_isStart hstart, readLines_of_not_isStart (hraw.start ▸ hstart)]
          exact ih _ _ _ _
      | true =>
          rw [readLines_of_isStart hstart, readLines_of_isStart (hraw.start ▸ hstart)]
          exact Alike.readBody_eq hlines _ _ _ _ {}

end Alike

/-! ## Where a malformed line stands -/

theorem exists_takes_of_malformed {line start length : Nat} {content : String}
    (herror : readBody number offset draft lines =
      .error (.malformedLine line content start length)) :
    ∃ above raw below last, lines = above ++ raw :: below ∧ draft.Takes above last ∧
      last.effect raw = .fails := by
  induction lines generalizing number offset draft with
  | nil => cases herror
  | cons raw lines ih =>
      rw [readBody_by_effect] at herror
      split at herror
      next => cases herror
      next next hraw =>
        -- The reader goes on, so the line that fails is further down, and this one is above it.
        obtain ⟨above, failing, below, last, rfl, htakes, hfails⟩ := ih herror
        exact ⟨raw :: above, failing, below, last, rfl, .cons hraw htakes, hfails⟩
      next hfails => exact ⟨[], raw, lines, draft, rfl, .nil draft, hfails⟩

/-- Only a line that fails is reported as malformed, and the reader got through all lines above
it. -/
theorem exists_reaches_of_malformed {line start length : Nat} {content : String}
    (herror : readLines number offset lines =
      .error (.malformedLine line content start length)) :
    ∃ above raw below draft, lines = above ++ raw :: below ∧ Reaches above draft ∧
      draft.effect raw = .fails := by
  induction lines generalizing number offset with
  | nil => cases herror
  | cons raw lines ih =>
      cases hraw : isStart raw with
      | false =>
          rw [readLines_of_not_isStart hraw] at herror
          obtain ⟨above, failing, below, draft, rfl, hreaches, hfails⟩ := ih herror
          exact ⟨raw :: above, failing, below, draft, rfl, .skip hraw hreaches, hfails⟩
      | true =>
          rw [readLines_of_isStart hraw] at herror
          obtain ⟨above, failing, below, draft, rfl, htakes, hfails⟩ :=
            exists_takes_of_malformed herror
          exact ⟨raw :: above, failing, below, draft, rfl, .start hraw htakes, hfails⟩

end ImportRules.Diagram
