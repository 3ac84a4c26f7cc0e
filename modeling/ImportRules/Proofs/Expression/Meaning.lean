import ImportRules.Proofs.Expression.Groups
import ImportRules.Proofs.Regex.Words
import Mathlib.Logic.Relation
/-!
# What a written expression can read

`Expression.Reads` says between which places of a text a written expression can read, and what its
groups mark on the way. Bringing a sequence into its normal form, with the parts of its parts side
by side and neighbouring literals joined, changes nothing of that. Expressions that are built alike
read alike, whether they are written or not.
-/

namespace ImportRules.Expression

open Regex (Place Rounds)
open Text (CharSet)

/-- The expression can read from the first place to the second one. -/
def Reads : Expression → Place → Place → Prop
  | .empty => (· = ·)
  | .literal text => fun p q => text <+: p.after ∧ q = p.past text
  | .oneOf set => fun p q => ∃ c, set.contains c = true ∧ [c] <+: p.after ∧ q = p.past [c]
  | .anchor condition => fun p q => condition.holds p.before p.after.head? = true ∧ q = p
  | .group index body => fun p q => ∃ stop, body.Reads p stop ∧ q = stop.marked index p.index
  | .repeated body least most _ => fun p q =>
      ∃ count, least ≤ count ∧ (∀ bound ∈ most, count ≤ max least bound) ∧
        Rounds body.Reads count p q
  | .seq first rest => Relation.Comp first.Reads rest.Reads
  | .alt first rest => fun p q => first.Reads p q ∨ rest.Reads p q

theorem reads_seq (first rest : Expression) :
    (seq first rest).Reads = Relation.Comp first.Reads rest.Reads := rfl

/-- Several expressions can read from the first place to the second one, one after the other. -/
def ReadsAll (es : List Expression) : Place → Place → Prop :=
  es.foldr (fun e rest => Relation.Comp e.Reads rest) (· = ·)

theorem readsAll_cons (e : Expression) (es : List Expression) :
    ReadsAll (e :: es) = Relation.Comp e.Reads (ReadsAll es) := rfl

theorem readsAll_singleton (e : Expression) : ReadsAll [e] = e.Reads :=
  Relation.comp_eq

theorem readsAll_append (es fs : List Expression) :
    ReadsAll (es ++ fs) = Relation.Comp (ReadsAll es) (ReadsAll fs) := by
  induction es with
  | nil => exact Relation.eq_comp.symm
  | cons e es ih => rw [List.cons_append, readsAll_cons, ih, readsAll_cons, Relation.comp_assoc]

theorem reads_literal_append (text more : List Char) :
    (literal (text ++ more)).Reads = Relation.Comp (literal text).Reads (literal more).Reads := by
  funext p q
  apply propext
  constructor
  · rintro ⟨hahead, rfl⟩
    obtain ⟨htext, hmore⟩ := Regex.append_isPrefix_iff.mp hahead
    exact ⟨p.past text, ⟨htext, rfl⟩, hmore, Place.past_append p text more⟩
  · rintro ⟨_, ⟨htext, rfl⟩, hmore, rfl⟩
    exact ⟨Regex.append_isPrefix_iff.mpr ⟨htext, hmore⟩, (Place.past_append p text more).symm⟩

theorem readsAll_parts (e : Expression) : ReadsAll e.parts = e.Reads := by
  induction e with
  | seq first rest ih ih' => rw [parts, readsAll_cons, ih', reads_seq]
  | empty => rfl
  | literal | oneOf | anchor | group | repeated | alt => exact readsAll_singleton _

theorem reads_ofParts (es : List Expression) : (ofParts es).Reads = ReadsAll es := by
  fun_induction ofParts es with
  | case1 => rfl
  | case2 e => exact (readsAll_singleton e).symm
  | case3 e es hne ih => rw [reads_seq, ih, readsAll_cons]

theorem readsAll_attach (e : Expression) (es : List Expression) :
    ReadsAll (attach e es) = Relation.Comp e.Reads (ReadsAll es) := by
  fun_cases attach e es with
  | case1 text more es =>
      rw [readsAll_cons, reads_literal_append, readsAll_cons, Relation.comp_assoc]
  | case2 e es hne => rfl

/-- A sequence reads what its parts read in turn. -/
theorem reads_sequence (es : List Expression) : (sequence es).Reads = ReadsAll es := by
  have hattach : ∀ fs : List Expression, ReadsAll (fs.foldr attach []) = ReadsAll fs := by
    intro fs
    induction fs with
    | nil => rfl
    | cons f fs ih => rw [List.foldr_cons, readsAll_attach, ih, readsAll_cons]
  rw [sequence, reads_ofParts, hattach]
  induction es with
  | nil => rfl
  | cons e es ih => rw [List.flatMap_cons, readsAll_append, readsAll_parts, ih, readsAll_cons]

/-! ## Sets of all characters but one -/

theorem reads_oneOf_alike {set : CharSet} {accepts : Char → Bool} (h : set.contains = accepts) :
    (oneOf set).Reads = (Regex.one accepts).Reads := by
  subst h
  rfl

section Complement

variable {c : Char} (hlow : 0 < c.toNat) (hhigh : c.toNat < 0xD7FF)
include hlow hhigh

theorem ranges_compl_single :
    (CharSet.single c).compl.ranges = [(0, c.toNat - 1), (c.toNat + 1, CharSet.maxPoint)] := by
  have hnext : CharSet.next c.toNat = c.toNat + 1 := if_neg (by omega)
  have hprevious : CharSet.previous c.toNat = c.toNat - 1 := if_neg (by omega)
  have hbelow : c.toNat + 1 ≤ CharSet.maxPoint := by
    simp only [CharSet.maxPoint]
    omega
  have hgaps : (CharSet.single c).compl.ranges = CharSet.gapsFrom 0 [(c.toNat, c.toNat)] := by
    obtain ⟨point, hpoint⟩ := Nat.exists_eq_succ_of_ne_zero hlow.ne'
    simp only [CharSet.compl, CharSet.single, CharSet.range, hpoint]
  rw [hgaps, CharSet.gapsFrom, CharSet.gapsFrom, hnext, hprevious, if_pos hbelow, Nat.zero_min,
    Nat.zero_max]

theorem contains_compl_single (x : Char) :
    (CharSet.single c).compl.contains x = !(x == c) := by
  have hx : x.toNat ≤ CharSet.maxPoint := by
    have hvalid : x.toNat.isValidChar := x.valid
    simp only [Nat.isValidChar] at hvalid
    simp only [CharSet.maxPoint]
    omega
  rw [CharSet.contains, ranges_compl_single hlow hhigh, Bool.eq_iff_iff]
  simp only [CharSet.holds, Bool.or_false, Bool.or_eq_true, Bool.and_eq_true, decide_eq_true_eq,
    Bool.not_eq_true', beq_eq_false_iff_ne, ne_eq, ← Char.toNat_inj]
  omega

theorem reads_oneOf_compl :
    (oneOf (CharSet.single c).compl).Reads = (Regex.noneOf [c]).Reads := by
  have haccepts : (CharSet.single c).compl.contains = (!List.contains [c] ·) := by
    funext x
    rw [contains_compl_single hlow hhigh, List.contains_cons, List.contains_nil, Bool.or_false]
  exact reads_oneOf_alike haccepts

end Complement

/-! ## Expressions that are built alike -/

section Alike

variable {e f : Expression} {r s : Regex}

theorem reads_literal_char (c : Char) : (literal [c]).Reads = (Regex.char c).Reads := by
  funext p q
  apply propext
  constructor
  · rintro ⟨hahead, hstop⟩
    exact ⟨c, beq_self_eq_true c, hahead, hstop⟩
  · rintro ⟨d, hd, hahead, hstop⟩
    obtain rfl := eq_of_beq hd
    exact ⟨hahead, hstop⟩

theorem reads_repeated_alike (hbody : e.Reads = r.Reads) (least : Nat) (most : Option Nat)
    (greedy : Bool) :
    (repeated e least most greedy).Reads = (Regex.repeated r least most greedy).Reads := by
  funext p q
  exact congrArg (fun reads => ∃ count, least ≤ count ∧
    (∀ bound ∈ most, count ≤ max least bound) ∧ Rounds reads count p q) hbody

theorem reads_seq_alike (hfirst : e.Reads = r.Reads) (hrest : f.Reads = s.Reads) :
    (seq e f).Reads = (Regex.seq r s).Reads := by
  rw [reads_seq, hfirst, hrest]
  rfl

theorem reads_group_alike (hbody : e.Reads = r.Reads) (index : Nat) :
    (group index e).Reads = (Regex.group index r).Reads := by
  funext p q
  exact congrArg (fun reads => ∃ stop, reads p stop ∧ q = stop.marked index p.index) hbody

end Alike

end ImportRules.Expression
