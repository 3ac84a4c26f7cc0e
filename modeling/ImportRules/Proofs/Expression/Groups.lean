import ImportRules.Expression.Basic
import Mathlib.Data.List.Basic
import Mathlib.Data.List.Flatten
/-!
# The groups of an expression

The groups of an expression are listed by their numbers, in the order in which they open. Bringing
an expression into its normal form may lose groups, where a body is repeated no times or where
alternatives share their start, but it never doubles one and never changes their order.
-/

namespace ImportRules.Expression

/-- The numbers of the groups of an expression, in the order in which they open. -/
def groups : Expression → List Nat
  | .empty | .literal _ | .oneOf _ | .anchor _ => []
  | .group index body => index :: body.groups
  | .repeated body _ _ _ => body.groups
  | .seq first rest | .alt first rest => first.groups ++ rest.groups

/-- The groups of several expressions, one after the other. -/
def groupsOf (es : List Expression) : List Nat :=
  es.flatMap groups

@[simp]
theorem groupsOf_nil : groupsOf [] = [] := rfl

@[simp]
theorem groupsOf_cons (e : Expression) (es : List Expression) :
    groupsOf (e :: es) = e.groups ++ groupsOf es := rfl

@[simp]
theorem groupsOf_append (es fs : List Expression) :
    groupsOf (es ++ fs) = groupsOf es ++ groupsOf fs :=
  List.flatMap_append

/-- The group count is the greatest group number. -/
theorem le_groupCount (e : Expression) : ∀ index ∈ e.groups, index ≤ e.groupCount := by
  induction e with
  | empty | literal | oneOf | anchor => simp [groups]
  | group index body ih =>
      intro other hother
      rcases List.mem_cons.mp hother with rfl | hother
      · exact Nat.le_max_left ..
      · exact Nat.le_trans (ih other hother) (Nat.le_max_right ..)
  | repeated body least most greedy ih => exact ih
  | seq first rest ih ih' | alt first rest ih ih' =>
      intro other hother
      rcases List.mem_append.mp hother with hother | hother
      · exact Nat.le_trans (ih other hother) (Nat.le_max_left ..)
      · exact Nat.le_trans (ih' other hother) (Nat.le_max_right ..)

theorem groupCount_eq_zero {e : Expression} (hgroups : e.groups = []) : e.groupCount = 0 := by
  induction e with
  | empty | literal | oneOf | anchor => rfl
  | group index body ih => exact absurd hgroups (List.cons_ne_nil _ _)
  | repeated body least most greedy ih => exact ih hgroups
  | seq first rest ih ih' | alt first rest ih ih' =>
      obtain ⟨hfirst, hrest⟩ := List.append_eq_nil_iff.mp hgroups
      rw [groupCount, ih hfirst, ih' hrest]
      rfl

/-! ## Sequences -/

theorem groupsOf_parts (e : Expression) : groupsOf e.parts = e.groups := by
  induction e with
  | seq first rest ih ih' => rw [parts, groupsOf_cons, ih', groups]
  | empty => rfl
  | literal | oneOf | anchor | group | repeated | alt => simp [parts]

theorem groups_ofParts (es : List Expression) : (ofParts es).groups = groupsOf es := by
  fun_induction ofParts es with
  | case1 => rfl
  | case2 e => simp
  | case3 e es hne ih => rw [groups, ih, groupsOf_cons]

theorem groupsOf_attach (e : Expression) (es : List Expression) :
    groupsOf (attach e es) = e.groups ++ groupsOf es := by
  fun_cases attach e es with
  | case1 text more es => rfl
  | case2 e es hne => rfl

/-- A sequence has the groups of its parts. -/
theorem groups_sequence (es : List Expression) : (sequence es).groups = groupsOf es := by
  have hattach : ∀ fs : List Expression, groupsOf (fs.foldr attach []) = groupsOf fs := by
    intro fs
    induction fs with
    | nil => rfl
    | cons f fs ih => rw [List.foldr_cons, groupsOf_attach, ih, groupsOf_cons]
  rw [sequence, groups_ofParts, hattach]
  induction es with
  | nil => rfl
  | cons e es ih => rw [List.flatMap_cons, groupsOf_append, groupsOf_parts, ih, groupsOf_cons]

/-! ## Alternatives -/

theorem groups_ofSet (set : Text.CharSet) : (ofSet set).groups = [] := by
  rw [ofSet]
  split <;> rfl

theorem groupsOf_alternatives (e : Expression) : groupsOf e.alternatives = e.groups := by
  induction e with
  | alt first rest ih ih' => rw [alternatives, groupsOf_cons, ih', groups]
  | empty | literal | oneOf | anchor | group | repeated | seq => simp [alternatives]

theorem groups_ofAlternatives (es : List Expression) :
    (ofAlternatives es).groups = groupsOf es := by
  fun_induction ofAlternatives es with
  | case1 => rfl
  | case2 e => simp
  | case3 e es hne ih => rw [groups, ih, groupsOf_cons]

theorem groupsOf_flatMap_alternatives (es : List Expression) :
    groupsOf (es.flatMap alternatives) = groupsOf es := by
  induction es with
  | nil => rfl
  | cons e es ih =>
      rw [List.flatMap_cons, groupsOf_append, groupsOf_alternatives, ih, groupsOf_cons]

theorem commonStart_isPrefix (es fs : List Expression) :
    commonStart es fs <+: es ∧ commonStart es fs <+: fs := by
  fun_induction commonStart es fs with
  | case1 e es fs ih =>
      exact ⟨List.cons_prefix_cons.mpr ⟨rfl, ih.1⟩, List.cons_prefix_cons.mpr ⟨rfl, ih.2⟩⟩
  | case2 => simp
  | case3 => simp

theorem sharedStart_isPrefix {sequences : List (List Expression)} {parts : List Expression}
    (hparts : parts ∈ sequences) : sharedStart sequences <+: parts := by
  have hfold : ∀ (rest : List (List Expression)) (first : List Expression),
      rest.foldl commonStart first <+: first ∧
        ∀ parts ∈ rest, rest.foldl commonStart first <+: parts := by
    intro rest
    induction rest with
    | nil => simp
    | cons second rest ih =>
        intro first
        obtain ⟨hfirst, hsecond⟩ := commonStart_isPrefix first second
        obtain ⟨hcommon, hrest⟩ := ih (commonStart first second)
        exact ⟨hcommon.trans hfirst, List.forall_mem_cons.mpr ⟨hcommon.trans hsecond, hrest⟩⟩
  cases sequences with
  | nil => simp at hparts
  | cons first rest =>
      rcases List.mem_cons.mp hparts with rfl | hparts
      · exact (hfold rest parts).1
      · exact (hfold rest first).2 parts hparts

theorem groups_of_sequenceParts? {e : Expression} {parts : List Expression}
    (hparts : e.sequenceParts? = some parts) : groupsOf parts = e.groups := by
  cases e with
  | seq first rest =>
      cases hparts
      rw [groupsOf_cons, groupsOf_parts, groups]
  | _ => cases hparts

theorem groupsOf_of_mapM_sequenceParts? {es : List Expression} {sequences : List (List Expression)}
    (hparts : es.mapM sequenceParts? = some sequences) :
    sequences.flatMap groupsOf = groupsOf es := by
  induction es generalizing sequences with
  | nil =>
      cases hparts
      rfl
  | cons e es ih =>
      rw [List.mapM_cons] at hparts
      obtain ⟨parts, hfirst, hparts⟩ := Option.bind_eq_some_iff.mp hparts
      obtain ⟨rest, hrest, hsequences⟩ := Option.bind_eq_some_iff.mp hparts
      cases hsequences
      rw [List.flatMap_cons, groups_of_sequenceParts? hfirst, ih hrest, groupsOf_cons]

/-- Splitting a shared start off sequences keeps it once. -/
theorem groupsOf_sharedStart_sublist {sequences : List (List Expression)}
    (hne : sequences ≠ []) :
    (groupsOf (sharedStart sequences) ++ groupsOf (sequences.map fun parts =>
      sequence (parts.drop (sharedStart sequences).length))).Sublist
        (sequences.flatMap groupsOf) := by
  have hdrop : ∀ (count : Nat) (rest : List (List Expression)),
      (groupsOf (rest.map fun parts => sequence (parts.drop count))).Sublist
        (rest.flatMap groupsOf) := by
    intro count rest
    induction rest with
    | nil => exact List.Sublist.refl _
    | cons parts rest ih =>
        rw [List.map_cons, groupsOf_cons, groups_sequence, List.flatMap_cons]
        exact ((List.drop_sublist count parts).flatMap groups).append ih
  obtain ⟨first, rest, rfl⟩ := List.exists_cons_of_ne_nil hne
  have hfirst := sharedStart_isPrefix (List.mem_cons_self (a := first) (l := rest))
  generalize sharedStart (first :: rest) = start at hfirst ⊢
  obtain ⟨behind, rfl⟩ := hfirst
  rw [List.map_cons, groupsOf_cons, groups_sequence, List.drop_left, List.flatMap_cons,
    groupsOf_append, List.append_assoc]
  exact ((hdrop start.length rest).append_left _).append_left _

theorem groups_choiceWithin_sublist (depth : Nat) (es : List Expression) :
    (choiceWithin depth es).groups.Sublist (groupsOf es) := by
  fun_induction choiceWithin depth es with
  | case1 es => rw [groups_ofAlternatives]
  | case2 depth es halternatives => exact List.nil_sublist _
  | case3 depth es e halternatives =>
      rw [← groupsOf_flatMap_alternatives es, halternatives, groupsOf_cons, groupsOf_nil,
        List.append_nil]
  | case4 depth es chars => simp [groups_ofSet]
  | case5 depth es sets => simp [groups_ofSet]
  | case6 depth es => rw [groups_ofAlternatives, groupsOf_flatMap_alternatives]
  | case7 depth es sequences => rw [groups_ofAlternatives, groupsOf_flatMap_alternatives]
  | case8 depth es sequences _ _ hparts _ _ hshared rests ih =>
      have hne : sequences ≠ [] := by
        rintro rfl
        exact hshared rfl
      rw [groups_sequence, groupsOf_append, groupsOf_cons, groupsOf_nil, List.append_nil,
        ← groupsOf_flatMap_alternatives es, ← groupsOf_of_mapM_sequenceParts? hparts]
      exact (ih.append_left _).trans (groupsOf_sharedStart_sublist hne)

/-- A choice has no group that its alternatives have not, nor one of theirs more often. -/
theorem groups_choice_sublist (es : List Expression) :
    (choice es).groups.Sublist (groupsOf es) :=
  groups_choiceWithin_sublist _ es

/-! ## Repetitions -/

theorem groups_repetition_sublist (body : Expression) (least : Nat) (most : Option Nat)
    (greedy : Bool) : (repetition body least most greedy).groups.Sublist body.groups := by
  rw [repetition]
  split
  split
  · exact List.nil_sublist _
  · split
    · exact List.Sublist.refl _
    · exact List.Sublist.refl _

end ImportRules.Expression
