import ImportRules.Projection.Basic
import ImportRules.Proofs.Expression.GroupNumbers
import ImportRules.Proofs.SliceMeaning
/-!
# The group of a slice pattern

A slice pattern is only accepted if its greatest group number is one, and the label of a unit is
what the first group reads. That there is one group and no more follows from how groups are
numbered: a glob has one group for each capture in it, and the groups of a regular expression have
different numbers.
-/

namespace ImportRules

namespace Regex

/-- The numbers of the groups, from left to right. -/
def groups : Regex → List Nat
  | .empty | .one _ | .anchor _ => []
  | .seq r s | .alt r s => r.groups ++ s.groups
  | .group index body => index :: body.groups
  | .repeated body _ _ _ => body.groups

end Regex

namespace SliceGlob

theorem Token.groups_regex (last : Bool) (token : Token) :
    (token.regex last).groups = if token.isCapture then [1] else [] := by
  cases token <;> rfl

theorem groups_partsRegex (parts : List Token) :
    (partsRegex parts).groups = List.replicate (captures parts) 1 := by
  induction parts with
  | nil => rfl
  | cons token rest ih =>
      rw [partsRegex, Regex.groups, Token.groups_regex, ih, captures_cons]
      cases token.isCapture with
      | true => rfl
      | false => simp

end SliceGlob

/-- The search has one group, which is the first. -/
def SliceSearch.HasOneGroup : SliceSearch → Prop
  | .glob parsed => parsed.groups = [1]
  | .regex parsed automaton => parsed.groups = [1] ∧ automaton = parsed.automaton

namespace SlicePattern

theorem hasOneGroup_of_ofGlob {text : String} {pattern : SlicePattern}
    (hpattern : ofGlob text = .ok pattern) : pattern.search.HasOneGroup := by
  obtain ⟨parts, -, hone, -, rfl⟩ := ofGlob_eq_ok_iff.mp hpattern
  have hgroups := SliceGlob.groups_partsRegex parts
  rw [hone] at hgroups
  exact hgroups

theorem hasOneGroup_of_ofRegex {text : String} {pattern : SlicePattern}
    (hpattern : ofRegex text = .ok pattern) : pattern.search.HasOneGroup := by
  unfold ofRegex at hpattern
  split at hpattern
  · cases hpattern
  · split at hpattern
    next => cases hpattern
    next parsed hread =>
      simp only at hpattern
      split at hpattern
      next hone =>
        obtain rfl := Except.ok.inj hpattern
        exact ⟨Expression.groups_of_groupCount_eq_one hread hone, rfl⟩
      next => cases hpattern

end SlicePattern

end ImportRules
