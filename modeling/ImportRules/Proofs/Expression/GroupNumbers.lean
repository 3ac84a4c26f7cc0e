import ImportRules.Expression.Reader
import ImportRules.Proofs.Expression.Groups
/-!
# Numbering groups

A reader of expressions counts the groups that it opens and numbers them by that count. So the
groups of an expression that was read have ascending numbers, and none of them occurs twice. Most
readers leave the count alone, and nothing else is said of them; what the reader of a group body
adds to the groups read before it are groups with numbers between the counts before and after.
-/

namespace ImportRules.Expression

open Std.Do
open Reading

set_option mvcgen.warning false

/-! ## Readers that open no group -/

/-- A reader that succeeds leaves the count of groups as it was. -/
abbrev OpensNone (count : Nat) {α : Type} (reading : Reading α) : Prop :=
  ⦃fun state => ⌜state.groups = count⌝⦄ reading ⦃⇓? _ state => ⌜state.groups = count⌝⦄

@[spec]
theorem failure_triple {α : Type} {post : PostCond α (.arg ReadState (.except PUnit .pure))} :
    ⦃fun _ => post.2.1 ⟨⟩⦄ (failure : Reading α) ⦃post⦄ := by
  intro state hpost
  exact hpost

section OpensNone

variable (count : Nat)

namespace Reading

@[spec]
theorem enclose_opensNone (depths : List Nat) : OpensNone count (enclose depths) := by
  mvcgen [enclose]

@[spec]
theorem flags_opensNone : OpensNone count flags := by
  mvcgen [flags]

@[spec]
theorem peek?_opensNone : OpensNone count peek? := by
  mvcgen [peek?]

@[spec]
theorem room_opensNone : OpensNone count room := by
  mvcgen [room]

@[spec]
theorem peekBehind?_opensNone : OpensNone count peekBehind? := by
  mvcgen [peekBehind?]

@[spec]
theorem advance_opensNone : OpensNone count advance := by
  mvcgen [advance]

@[spec]
theorem skipBlanks_opensNone : OpensNone count skipBlanks := by
  mvcgen [skipBlanks]
  grind

@[spec]
theorem advanceAndSkip_opensNone : OpensNone count advanceAndSkip := by
  mvcgen [advanceAndSkip]
  grind

@[spec]
theorem current_opensNone : OpensNone count current := by
  mvcgen [current]
  grind

@[spec]
theorem accept_opensNone (text : String) : OpensNone count (accept text) := by
  mvcgen [accept]

@[spec]
theorem expect_opensNone (c : Char) : OpensNone count (expect c) := by
  mvcgen [expect]
  grind

@[spec]
theorem collect_opensNone (wanted : Char → Bool) (fuel : Nat) :
    OpensNone count (collect wanted fuel) := by
  induction fuel with
  | zero => mvcgen [collect]
  | succ fuel ih => mvcgen [collect, ih] <;> grind

end Reading

/-! ### Escapes -/

@[spec]
theorem complementIf_opensNone (negated : Bool) (set : Text.CharSet) :
    OpensNone count (complementIf negated set) := by
  mvcgen [complementIf]
  grind

@[spec]
theorem charOfHex_opensNone (digits : List Char) : OpensNone count (charOfHex digits) := by
  mvcgen [charOfHex]

@[spec]
theorem hexDigits_opensNone (digits : Nat) : OpensNone count (hexDigits digits) := by
  induction digits with
  | zero => mvcgen [hexDigits]
  | succ digits ih =>
      mvcgen [hexDigits, ih]
      grind

@[spec]
theorem hexEscape_opensNone (digits : Nat) : OpensNone count (hexEscape digits) := by
  mvcgen [hexEscape] <;> grind

@[spec]
theorem propertyEscape_opensNone (negated : Bool) : OpensNone count (propertyEscape negated) := by
  mvcgen [propertyEscape] <;> grind

@[spec]
theorem namedEdge_opensNone : OpensNone count namedEdge := by
  mvcgen [namedEdge] <;> grind

@[spec]
theorem anchorEscape_opensNone (flags : Flags) (c : Char) :
    OpensNone count (anchorEscape flags c) := by
  mvcgen [anchorEscape]
  grind

@[spec]
theorem escape_opensNone : OpensNone count escape := by
  mvcgen [escape] <;> grind

/-! ### Classes -/

@[spec]
theorem asciiClass_opensNone : OpensNone count asciiClass := by
  mvcgen [asciiClass] <;> grind

@[spec]
theorem setOperator?_opensNone : OpensNone count setOperator? := by
  mvcgen [setOperator?] <;> grind

@[spec]
theorem classAtom_opensNone : OpensNone count classAtom := by
  mvcgen [classAtom] <;> grind

@[spec]
theorem classChar_opensNone (c : Char) : OpensNone count (classChar c) := by
  mvcgen [classChar]
  grind

@[spec]
theorem classRange_opensNone : OpensNone count classRange := by
  mvcgen [classRange] <;> grind

@[spec]
theorem leadingHyphens_opensNone (fuel : Nat) : OpensNone count (leadingHyphens fuel) := by
  induction fuel with
  | zero => mvcgen [leadingHyphens]
  | succ fuel ih => mvcgen [leadingHyphens, ih] <;> grind

@[spec]
theorem classUnion_opensNone (parts : List ClassPart) : OpensNone count (classUnion parts) := by
  mvcgen [classUnion]
  grind

@[spec]
theorem combine_opensNone (left : Option (ClassPart × SetOperation)) (right : ClassPart) :
    OpensNone count (combine left right) := by
  mvcgen [combine]
  grind

/-- Classes nest, so that both readers of them are followed together. -/
theorem classReaders_opensNone (fuel : Nat) :
    (∀ left parts, OpensNone count (classParts fuel left parts)) ∧
      OpensNone count (openClass fuel) := by
  induction fuel with
  | zero =>
      refine ⟨fun left parts => ?_, ?_⟩
      · mvcgen [classParts]
      · mvcgen [openClass]
  | succ fuel ih =>
      obtain ⟨hparts, hopen⟩ := ih
      refine ⟨fun left parts => ?_, ?_⟩
      · mvcgen [classParts, hparts, hopen] <;> grind
      · mvcgen [openClass, hparts] <;> grind

@[spec]
theorem charClass_opensNone : OpensNone count charClass := by
  have hopen := fun fuel => (classReaders_opensNone count fuel).2
  mvcgen [charClass, hopen]
  grind

/-! ### Switches, names and counts -/

@[spec]
theorem readFlags_opensNone (fuel : Nat) (flags : Flags) (value : Bool) (seen : List Char) :
    OpensNone count (readFlags fuel flags value seen) := by
  induction fuel generalizing flags value seen with
  | zero => mvcgen [readFlags]
  | succ fuel ih => mvcgen [readFlags, ih] <;> grind

@[spec]
theorem groupName_opensNone : OpensNone count groupName := by
  mvcgen [groupName]
  grind

@[spec]
theorem decimal_opensNone : OpensNone count decimal := by
  mvcgen [decimal]
  grind

@[spec]
theorem counts_opensNone : OpensNone count counts := by
  mvcgen [counts] <;> grind

end OpensNone

/-! ## Parts of a group -/

section Parts

variable (count : Nat)

@[spec]
theorem literalChar_triple (c : Char) (asByte : Bool) :
    ⦃fun state => ⌜state.groups = count⌝⦄ literalChar c asByte
    ⦃⇓? e state => ⌜state.groups = count ∧ e.groups = []⌝⦄ := by
  mvcgen [literalChar]
  grind [groups_ofSet]

@[spec]
theorem primitive_triple :
    ⦃fun state => ⌜state.groups = count⌝⦄ primitive
    ⦃⇓? e state => ⌜state.groups = count ∧ e.groups = []⌝⦄ := by
  mvcgen [primitive] <;> grind [groups_ofSet, groups]

/-- A group that is opened gets the next number. -/
@[spec]
theorem openGroup_triple (name : Option (List Char)) :
    ⦃fun state => ⌜state.groups = count⌝⦄ openGroup name
    ⦃⇓? index state => ⌜index = count + 1 ∧ state.groups = count + 1⌝⦄ := by
  mvcgen [openGroup] <;> grind

/-- The number of the group and the count behind its start, if it is one that captures. -/
def GroupHead.Numbers (before after : Nat) : GroupHead → Prop
  | .capture index => index = before + 1 ∧ after = before + 1
  | .directive _ | .plain _ => after = before

@[spec]
theorem groupHead_triple :
    ⦃fun state => ⌜state.groups = count⌝⦄ groupHead
    ⦃⇓? head state => ⌜head.Numbers count state.groups⌝⦄ := by
  mvcgen [groupHead] <;> grind [GroupHead.Numbers]

/-- The groups of the parts of a group that have been read, in the order of the text. -/
def opened (items : List Item) (done : List Piece) : List Nat :=
  groupsOf (done.reverse.map (·.expression)) ++ groupsOf (items.reverse.map (·.expression))

theorem opened_cons (item : Item) (items : List Item) (done : List Piece) :
    opened (item :: items) done = opened items done ++ item.expression.groups := by
  simp [opened]

/-- Ending an alternative keeps what has been read. -/
@[spec]
theorem inRow_triple (items : List Item) :
    ⦃fun state => ⌜state.groups = count⌝⦄ inRow items
    ⦃⇓? row state => ⌜state.groups = count ∧
      ∀ done, opened [] (row :: done) = opened items done⌝⦄ := by
  mvcgen [inRow] <;> simp_all [opened, groups, groups_sequence]

@[spec]
theorem firstOf_triple (pieces : List Piece) :
    ⦃fun state => ⌜state.groups = count⌝⦄ firstOf pieces
    ⦃⇓? piece state => ⌜state.groups = count ∧
      piece.expression.groups.Sublist (opened [] pieces)⌝⦄ := by
  mvcgen [firstOf] <;> simp_all [opened, groups_choice_sublist]

@[spec]
theorem repeatItem_triple (operator : Char) (item : Item) :
    ⦃fun state => ⌜state.groups = count⌝⦄ repeatItem operator item
    ⦃⇓? repeated state => ⌜state.groups = count ∧
      repeated.expression.groups.Sublist item.expression.groups⌝⦄ := by
  mvcgen [repeatItem] <;> grind [groups_repetition_sublist]

end Parts

/-! ## Numbers -/

/-- The numbers of the groups that are opened while their count goes from one number to another. -/
def numbers (before after : Nat) : List Nat :=
  List.range' (before + 1) (after - before)

theorem numbers_append {first second third : Nat} (hfirst : first ≤ second)
    (hsecond : second ≤ third) :
    numbers first second ++ numbers second third = numbers first third := by
  obtain ⟨some, rfl⟩ := Nat.exists_eq_add_of_le hfirst
  obtain ⟨more, rfl⟩ := Nat.exists_eq_add_of_le hsecond
  simp only [numbers, Nat.add_sub_cancel_left, Nat.add_assoc]
  rw [show first + (some + 1) = first + 1 + some by omega, List.range'_append_1]
  congr
  omega

theorem cons_numbers {before after : Nat} (hlt : before < after) :
    (before + 1) :: numbers (before + 1) after = numbers before after := by
  rw [← numbers_append (Nat.le_succ before) hlt]
  simp [numbers]

/-- An expression has some of the groups that have been read and, behind them, some of those that
are opened while their count goes from one number to another. Writing a choice or a repetition in
another way may lose groups, such as the one of `(a){0}`. -/
structure Continues (read : List Nat) (before after : Nat) (e : Expression) : Prop where
  le : before ≤ after
  groups : e.groups.Sublist (read ++ numbers before after)

namespace Continues

variable {before middle after : Nat} {e : Expression}

theorem of_sublist {read more : List Nat} (hcontinues : Continues more middle after e)
    (hle : before ≤ middle) (hmore : more.Sublist (read ++ numbers before middle)) :
    Continues read before after e := by
  refine ⟨Nat.le_trans hle hcontinues.le, hcontinues.groups.trans ?_⟩
  rw [← numbers_append hle hcontinues.le, ← List.append_assoc]
  exact hmore.append_right _

/-- Reading one more item only adds groups that it opens. -/
theorem of_item {item : Item} {items : List Item} {done : List Piece}
    (hcontinues : Continues (opened (item :: items) done) middle after e) (hle : before ≤ middle)
    (hitem : item.expression.groups.Sublist (numbers before middle)) :
    Continues (opened items done) before after e := by
  refine hcontinues.of_sublist hle ?_
  rw [opened_cons]
  exact hitem.append_left _

/-- The groups of what was read from the start of a group. -/
theorem groups_inner (hcontinues : Continues (opened [] []) before after e) :
    e.groups.Sublist (numbers before after) :=
  hcontinues.groups

end Continues

theorem groupBody_triple (count fuel : Nat) (items : List Item) (done : List Piece) :
    ⦃fun state => ⌜state.groups = count⌝⦄ groupBody fuel items done
    ⦃⇓? piece state => ⌜Continues (opened items done) count state.groups piece.expression⌝⦄ := by
  induction fuel generalizing items done count with
  | zero => mvcgen [groupBody]
  | succ fuel ih =>
    mvcgen [groupBody, ih]
    -- The group ends, before `)` or with the text.
    case vc1 | vc2 =>
      rename_i hrow _ _
      intro hcount hgroups
      rw [hrow.2] at hgroups
      exact ⟨by omega, hgroups.trans (List.sublist_append_left _ _)⟩
    -- An alternative ends.
    case vc3 row _ hrow _ _ =>
      intro hrest
      refine hrest.of_sublist (by omega) ?_
      rw [hrow.2]
      exact List.sublist_append_left _ _
    -- Flags are set for what follows.
    case vc4 =>
      rename_i hhead _ _ _
      intro hrest
      have hcount : _ = _ := hhead
      exact hrest.of_item (by grind) (List.nil_sublist _)
    -- A group that captures: its own number comes before those of the groups in it.
    case vc5 =>
      rename_i hhead inner _ hinner _ _ _ _ _ _ _ _ _
      intro hrest
      obtain ⟨rfl, hcount⟩ := hhead
      have hle := hinner.le
      have hgroups := hinner.groups_inner.cons_cons (count + 1)
      refine hrest.of_item (by grind) ?_
      grind [groups, cons_numbers]
    -- A group that does not capture.
    case vc6 =>
      rename_i hhead _ inner _ hinner _ _ _ _ _ _ _ _ _
      intro hrest
      have hcount : _ = _ := hhead
      have hle := hinner.le
      have hgroups := hinner.groups_inner
      exact hrest.of_item (by grind) (by grind)
    -- A class.
    case vc7 =>
      intro hrest
      refine hrest.of_item (by omega) ?_
      rw [groups_ofSet]
      exact List.nil_sublist _
    -- A repetition takes the place of the item that it repeats.
    case vc8 =>
      rename_i hitem _ _
      intro hrest
      refine hrest.of_sublist (by omega) ?_
      rw [opened_cons, opened_cons]
      exact (hitem.2.append_left _).trans (List.sublist_append_left _ _)
    -- Anything else opens no group.
    case vc10 =>
      rename_i hprimitive _ _
      intro hrest
      refine hrest.of_item (by omega) ?_
      rw [hprimitive.2]
      exact List.nil_sublist _

/-- The groups of an expression that was read have ascending numbers from one on. -/
theorem groups_sublist_of_ofText? {text : List Char} {e : Expression}
    (hread : ofText? text = some e) : ∃ count, e.groups.Sublist (numbers 0 count) := by
  simp only [ofText?, Option.bind_eq_bind, Option.bind_eq_some_iff, Prod.exists,
    Option.ite_none_right_eq_some, Option.some.injEq] at hread
  obtain ⟨piece, state, hrun, -, rfl⟩ := hread
  have hbody := Option.of_wp_eq hrun
    (fun
      | some (piece, state) => Continues (opened [] []) 0 state.groups piece.expression
      | none => True)
    (fun _ => groupBody_triple 0 (text.length + 1) [] [] { rest := text } rfl)
  exact ⟨state.groups, hbody.groups_inner⟩

/-- If the greatest group number is one, then there is one group. -/
theorem groups_of_groupCount_eq_one {text : List Char} {e : Expression}
    (hread : ofText? text = some e) (hone : e.groupCount = 1) : e.groups = [1] := by
  obtain ⟨count, hnumbers⟩ := groups_sublist_of_ofText? hread
  have hnodup : e.groups.Nodup := hnumbers.nodup List.nodup_range'
  have hall : ∀ index ∈ e.groups, index = 1 := by
    intro index hindex
    have hle := le_groupCount e index hindex
    have hge := List.mem_range'_1.mp (hnumbers.subset hindex)
    omega
  have hne : e.groups ≠ [] := by
    intro hnil
    rw [groupCount_eq_zero hnil] at hone
    cases hone
  rw [List.eq_replicate_of_mem hall] at hnodup hne ⊢
  have hle : e.groups.length ≤ 1 := List.nodup_replicate.mp hnodup
  have hpos : e.groups.length ≠ 0 := by simpa using hne
  rw [show e.groups.length = 1 by omega]
  rfl

end ImportRules.Expression
