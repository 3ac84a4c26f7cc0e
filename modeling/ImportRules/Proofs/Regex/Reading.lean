import ImportRules.Proofs.LabelOrder
import ImportRules.Regex.Matching
/-!
# What a regular expression can read

`Regex.Reads` says between which places an expression can read, whichever alternatives are chosen
and however many rounds are made, and what the groups mark on the way. Every place that `Regex.ends`
lists is the end of such a reading.
-/

namespace ImportRules.Regex

namespace Place

/-- The place behind a text that is read from a place on. -/
def past (place : Place) (word : List Char) : Place :=
  { place with
    index := place.index + word.length
    before := word.getLast?.or place.before
    after := place.after.drop word.length }

/-- A place without what the groups have read on the way to it. -/
def unmarked (place : Place) : Place :=
  { place with marks := [] }

variable {p q r : Place} {word : List Char}

@[simp]
theorem past_nil (p : Place) : p.past [] = p := rfl

@[simp]
theorem index_past (p : Place) (word : List Char) : (p.past word).index = p.index + word.length :=
  rfl

@[simp]
theorem after_past (p : Place) (word : List Char) :
    (p.past word).after = p.after.drop word.length := rfl

@[simp]
theorem marks_past (p : Place) (word : List Char) : (p.past word).marks = p.marks := rfl

theorem past_append (p : Place) (first second : List Char) :
    p.past (first ++ second) = (p.past first).past second := by
  simp [past, List.getLast?_append, Option.or_assoc, Nat.add_assoc, List.drop_drop]

theorem next?_of_cons {c : Char} {rest : List Char} (hafter : p.after = c :: rest) :
    p.next? = some (c, p.past [c]) := by
  simp [next?, hafter, past]

theorem next?_of_nil (hafter : p.after = []) : p.next? = none := by
  simp [next?, hafter]

theorem index_eq_of_unmarked (hsame : p.unmarked = q.unmarked) : p.index = q.index :=
  congrArg (·.index) hsame

theorem before_eq_of_unmarked (hsame : p.unmarked = q.unmarked) : p.before = q.before :=
  congrArg (·.before) hsame

theorem after_eq_of_unmarked (hsame : p.unmarked = q.unmarked) : p.after = q.after :=
  congrArg (·.after) hsame

theorem eq_of_unmarked (hsame : p.unmarked = q.unmarked) (hmarks : p.marks = q.marks) : p = q := by
  obtain ⟨index, before, after, marks⟩ := p
  obtain ⟨index', before', after', marks'⟩ := q
  cases hsame
  cases hmarks
  rfl

theorem unmarked_past_congr (hsame : p.unmarked = q.unmarked) (word : List Char) :
    (p.past word).unmarked = (q.past word).unmarked :=
  congrArg (·.past word) hsame

/-- The second place lies in the same text at or behind the first one. -/
def LeadsTo (p q : Place) : Prop :=
  ∃ word, word <+: p.after ∧ q.unmarked = (p.past word).unmarked

namespace LeadsTo

theorem refl (p : Place) : p.LeadsTo p :=
  ⟨[], List.nil_prefix, rfl⟩

theorem past (hword : word <+: p.after) : p.LeadsTo (p.past word) :=
  ⟨word, hword, rfl⟩

theorem marked (hleads : p.LeadsTo q) (group first : Nat) : p.LeadsTo (q.marked group first) :=
  hleads

theorem trans (hfirst : p.LeadsTo q) (hsecond : q.LeadsTo r) : p.LeadsTo r := by
  obtain ⟨first, hpre, hq⟩ := hfirst
  obtain ⟨second, hnext, hr⟩ := hsecond
  refine ⟨first ++ second, ?_, by rw [hr, past_append, unmarked_past_congr hq]⟩
  have hafter : q.after = p.after.drop first.length := after_eq_of_unmarked hq
  obtain ⟨rest, hrest⟩ := hpre
  rw [hafter, ← hrest, List.drop_left] at hnext
  rw [← hrest]
  exact (List.prefix_append_right_inj first).mpr hnext

/-- A place behind another one is given by its index. -/
theorem unmarked_eq (hq : p.LeadsTo q) (hr : p.LeadsTo r) (hindex : q.index = r.index) :
    q.unmarked = r.unmarked := by
  obtain ⟨first, hfirst, hq⟩ := hq
  obtain ⟨second, hsecond, hr⟩ := hr
  have hlength : first.length = second.length := by
    have hqindex := index_eq_of_unmarked hq
    have hrindex := index_eq_of_unmarked hr
    simp only [index_past] at hqindex hrindex
    omega
  have hword : first = second :=
    (List.prefix_of_prefix_length_le hfirst hsecond hlength.le).eq_of_length hlength
  rw [hq, hr, hword]

theorem index_bounds (hleads : p.LeadsTo q) :
    p.index ≤ q.index ∧ q.index ≤ p.index + p.after.length := by
  obtain ⟨word, hword, hq⟩ := hleads
  have hindex : q.index = p.index + word.length := index_eq_of_unmarked hq
  have hlength := hword.length_le
  omega

end LeadsTo

/-- A place at which one of the listed places lies. -/
def Among (places : List Place) (q : Place) : Prop :=
  ∃ place ∈ places, place.unmarked = q.unmarked

theorem Among.congr {places : List Place} (hq : Among places q)
    (hsame : q.unmarked = r.unmarked) : Among places r := by
  obtain ⟨place, hplace, hq⟩ := hq
  exact ⟨place, hplace, hq.trans hsame⟩

theorem mem_of_mem_distinct {places : List Place} (hq : q ∈ distinct places) : q ∈ places :=
  (eraseDupsBy_sublist _ _).mem hq

/-- Dropping repetitions keeps a place at every index. -/
theorem exists_mem_distinct {places : List Place} (hq : q ∈ places) :
    ∃ kept ∈ distinct places, kept.index = q.index := by
  have hsome : (places.find? fun other => other.index == q.index).isSome :=
    List.find?_isSome.mpr ⟨q, hq, beq_self_eq_true _⟩
  obtain ⟨kept, hkept⟩ := Option.isSome_iff_exists.mp hsome
  have hindex : kept.index = q.index := by simpa using List.find?_some hkept
  refine ⟨kept, (mem_eraseDupsBy_key index kept places).mpr ?_, hindex⟩
  rw [hindex]
  exact hkept

theorem Among.distinct {places : List Place} (hq : Among places q)
    (hleads : ∀ place ∈ places, p.LeadsTo place) : Among (distinct places) q := by
  obtain ⟨place, hplace, hsame⟩ := hq
  obtain ⟨kept, hkept, hindex⟩ := exists_mem_distinct hplace
  refine ⟨kept, hkept, Eq.trans ?_ hsame⟩
  exact (hleads kept (mem_of_mem_distinct hkept)).unmarked_eq (hleads place hplace) hindex

end Place

/-! ## Readings -/

/-- A number of steps, one after the other. -/
inductive Rounds (step : Place → Place → Prop) : Nat → Place → Place → Prop
  | none (p : Place) : Rounds step 0 p p
  | more {count : Nat} {p q r : Place} (hstep : step p q) (hrest : Rounds step count q r) :
      Rounds step (count + 1) p r

/-- The expression can read from the first place to the second one. -/
def Reads : Regex → Place → Place → Prop
  | .empty, p, q => q = p
  | .one accepts, p, q => ∃ c, accepts c = true ∧ [c] <+: p.after ∧ q = p.past [c]
  | .anchor condition, p, q => condition.holds p.before p.after.head? = true ∧ q = p
  | .seq first second, p, q => ∃ middle, first.Reads p middle ∧ second.Reads middle q
  | .alt preferred other, p, q => preferred.Reads p q ∨ other.Reads p q
  | .group index body, p, q => ∃ stop, body.Reads p stop ∧ q = stop.marked index p.index
  | .repeated body least most _, p, q =>
      ∃ count, least ≤ count ∧ (∀ bound ∈ most, count ≤ max least bound) ∧
        Rounds body.Reads count p q

namespace Rounds

variable {step step' : Place → Place → Prop} {count : Nat} {p q r : Place}

theorem mono (himp : ∀ p q, step p q → step' p q) (hrounds : Rounds step count p q) :
    Rounds step' count p q := by
  induction hrounds with
  | none p => exact .none p
  | more hstep _ ih => exact .more (himp _ _ hstep) ih

theorem trans {more : Nat} (hfirst : Rounds step count p q) (hsecond : Rounds step more q r) :
    Rounds step (count + more) p r := by
  induction hfirst with
  | none p => simpa using hsecond
  | more hstep _ ih =>
      rw [Nat.add_right_comm]
      exact .more hstep (ih hsecond)

theorem split {more : Nat} (hrounds : Rounds step (count + more) p r) :
    ∃ q, Rounds step count p q ∧ Rounds step more q r := by
  induction count generalizing p with
  | zero => exact ⟨p, .none p, by simpa using hrounds⟩
  | succ count ih =>
      rw [Nat.add_right_comm] at hrounds
      cases hrounds with
      | more hstep hrest =>
          obtain ⟨q, hfirst, hsecond⟩ := ih hrest
          exact ⟨q, .more hstep hfirst, hsecond⟩

theorem leadsTo (hstep : ∀ p q, step p q → p.LeadsTo q) (hrounds : Rounds step count p q) :
    p.LeadsTo q := by
  induction hrounds with
  | none p => exact .refl p
  | more hfirst _ ih => exact (hstep _ _ hfirst).trans ih

/-- Steps that can be made from a place can be made from wherever the same place is reached with
other marks. -/
theorem congr (hcongr : ∀ p q p', step p q → p.unmarked = p'.unmarked →
      ∃ q', step' p' q' ∧ q.unmarked = q'.unmarked)
    (hrounds : Rounds step count p q) {p' : Place} (hsame : p.unmarked = p'.unmarked) :
    ∃ q', Rounds step' count p' q' ∧ q.unmarked = q'.unmarked := by
  induction hrounds generalizing p' with
  | none p => exact ⟨p', .none p', hsame⟩
  | more hstep _ ih =>
      obtain ⟨middle, hmiddle, hsame⟩ := hcongr _ _ _ hstep hsame
      obtain ⟨stop, hstop, hsame⟩ := ih hsame
      exact ⟨stop, .more hmiddle hstop, hsame⟩

end Rounds

namespace Reads

variable {r : Regex} {p q : Place}

/-- A reading stays in the text and goes forward. -/
theorem leadsTo (hreads : r.Reads p q) : p.LeadsTo q := by
  induction r generalizing p q with
  | empty => exact hreads ▸ .refl p
  | one accepts =>
      obtain ⟨c, -, hahead, rfl⟩ := hreads
      exact .past hahead
  | anchor condition => exact hreads.2 ▸ .refl p
  | seq first second ihfirst ihsecond =>
      obtain ⟨middle, hfirst, hsecond⟩ := hreads
      exact (ihfirst hfirst).trans (ihsecond hsecond)
  | alt preferred other ihpreferred ihother => exact hreads.elim ihpreferred ihother
  | group index body ih =>
      obtain ⟨stop, hbody, rfl⟩ := hreads
      exact (ih hbody).marked _ _
  | repeated body least most greedy ih =>
      obtain ⟨count, -, -, hrounds⟩ := hreads
      exact hrounds.leadsTo fun _ _ => ih

/-- What can be read does not depend on what has been marked. -/
theorem congr (hreads : r.Reads p q) {p' : Place} (hsame : p.unmarked = p'.unmarked) :
    ∃ q', r.Reads p' q' ∧ q.unmarked = q'.unmarked := by
  induction r generalizing p q p' with
  | empty => exact ⟨p', rfl, hreads ▸ hsame⟩
  | one accepts =>
      obtain ⟨c, haccepts, hahead, rfl⟩ := hreads
      rw [Place.after_eq_of_unmarked hsame] at hahead
      exact ⟨p'.past [c], ⟨c, haccepts, hahead, rfl⟩, Place.unmarked_past_congr hsame _⟩
  | anchor condition =>
      obtain ⟨hholds, rfl⟩ := hreads
      rw [Place.before_eq_of_unmarked hsame, Place.after_eq_of_unmarked hsame] at hholds
      exact ⟨p', ⟨hholds, rfl⟩, hsame⟩
  | seq first second ihfirst ihsecond =>
      obtain ⟨middle, hfirst, hsecond⟩ := hreads
      obtain ⟨middle', hfirst', hmiddle⟩ := ihfirst hfirst hsame
      obtain ⟨q', hsecond', hq⟩ := ihsecond hsecond hmiddle
      exact ⟨q', ⟨middle', hfirst', hsecond'⟩, hq⟩
  | alt preferred other ihpreferred ihother =>
      rcases hreads with hreads | hreads
      · obtain ⟨q', hreads', hq⟩ := ihpreferred hreads hsame
        exact ⟨q', .inl hreads', hq⟩
      · obtain ⟨q', hreads', hq⟩ := ihother hreads hsame
        exact ⟨q', .inr hreads', hq⟩
  | group index body ih =>
      obtain ⟨stop, hbody, rfl⟩ := hreads
      obtain ⟨stop', hbody', hstop⟩ := ih hbody hsame
      exact ⟨stop'.marked index p'.index, ⟨stop', hbody', rfl⟩, hstop⟩
  | repeated body least most greedy ih =>
      obtain ⟨count, hleast, hmost, hrounds⟩ := hreads
      obtain ⟨q', hrounds', hq⟩ := hrounds.congr (fun _ _ _ hstep => ih hstep) hsame
      exact ⟨q', ⟨count, hleast, hmost, hrounds'⟩, hq⟩

end Reads

/-! ## Every end is the end of a reading -/

def LoopStep.place : LoopStep → Place
  | .roundEnd place | .leave place => place

/-- Stopping comes after going on or before it. -/
theorem mem_arranged {α : Type} {greedy : Bool} {more : List α} {stop a : α} :
    a ∈ (if greedy then more ++ [stop] else stop :: more) ↔ a ∈ more ∨ a = stop := by
  cases greedy <;> simp [or_comm]

section Sound

variable {body : Place → List Place} {greedy : Bool} {count : Nat} {p q : Place}

/-- A loop reaches nothing but what its body leads to from the pending places. -/
theorem mem_runLoop {good : Place → Prop} (hbody : ∀ p, good p → ∀ q ∈ body p, good q)
    {turns : Nat} {begun ended : List Nat} {pending : List LoopStep}
    (hpending : ∀ step ∈ pending, good step.place)
    (hq : q ∈ runLoop body greedy turns begun ended pending) : good q := by
  fun_induction runLoop body greedy turns begun ended pending with
  | case1 => simp at hq
  | case2 turns begun ended place pending ih =>
      rcases List.mem_cons.mp hq with rfl | hq
      · exact hpending _ List.mem_cons_self
      · exact ih (fun step hstep => hpending step (List.mem_cons_of_mem _ hstep)) hq
  | case3 begun ended place pending ih =>
      exact ih (fun step hstep => hpending step (List.mem_cons_of_mem _ hstep)) hq
  | case4 turns begun ended place pending hended ih =>
      exact ih (fun step hstep => hpending step (List.mem_cons_of_mem _ hstep)) hq
  | case5 turns begun ended place pending hended again pending' ih =>
      have hplace : good place := hpending _ List.mem_cons_self
      have hagain : ∀ step ∈ again, good step.place := by
        intro step hstep
        simp only [again] at hstep
        split at hstep
        · simp at hstep
        · obtain ⟨next, hnext, rfl⟩ := List.mem_map.mp hstep
          exact hbody place hplace next hnext
      refine ih ?_ hq
      intro step hstep
      have hcases : step ∈ again ∨ step = .leave place ∨ step ∈ pending := by
        simp only [pending'] at hstep
        split at hstep <;> simp at hstep <;> tauto
      rcases hcases with hstep | rfl | hstep
      · exact hagain step hstep
      · exact hplace
      · exact hpending step (List.mem_cons_of_mem _ hstep)

theorem rounds_of_mem_exactly (hq : q ∈ exactly body count p) :
    Rounds (fun p q => q ∈ body p) count p q := by
  induction count generalizing p with
  | zero =>
      obtain rfl := List.mem_singleton.mp hq
      exact .none q
  | succ count ih =>
      obtain ⟨next, hnext, hq⟩ := List.mem_flatMap.mp (Place.mem_of_mem_distinct hq)
      exact .more hnext (ih hq)

theorem rounds_of_mem_atMost (hq : q ∈ atMost body greedy count p) :
    ∃ made ≤ count, Rounds (fun p q => q ∈ body p) made p q := by
  induction count generalizing p with
  | zero =>
      obtain rfl := List.mem_singleton.mp hq
      exact ⟨0, le_refl 0, .none q⟩
  | succ count ih =>
      rcases mem_arranged.mp (Place.mem_of_mem_distinct hq) with hmore | rfl
      · obtain ⟨next, hnext, hq⟩ := List.mem_flatMap.mp hmore
        obtain ⟨made, hmade, hrounds⟩ := ih hq
        exact ⟨made + 1, by omega, .more hnext hrounds⟩
      · exact ⟨0, Nat.zero_le _, .none q⟩

/-- One more round at the end. -/
theorem exists_rounds_succ {least : Nat} {start : Place}
    (hrounds : ∃ made, least ≤ made ∧ Rounds (fun p q => q ∈ body p) made start p)
    (hq : q ∈ body p) : ∃ made, least ≤ made ∧ Rounds (fun p q => q ∈ body p) made start q := by
  obtain ⟨made, hleast, hrounds⟩ := hrounds
  exact ⟨made + 1, by omega, hrounds.trans (.more hq (.none q))⟩

theorem rounds_of_mem_oneOrMore (hq : q ∈ oneOrMore body greedy p) :
    ∃ made, 1 ≤ made ∧ Rounds (fun p q => q ∈ body p) made p q := by
  refine mem_runLoop (fun _ hgood _ => exists_rounds_succ hgood) ?_ (Place.mem_of_mem_distinct hq)
  intro step hstep
  obtain ⟨next, hnext, rfl⟩ := List.mem_map.mp hstep
  exact ⟨1, le_refl 1, .more hnext (.none next)⟩

theorem rounds_of_mem_zeroOrMore (hq : q ∈ zeroOrMore body greedy p) :
    ∃ made, 0 ≤ made ∧ Rounds (fun p q => q ∈ body p) made p q := by
  refine mem_runLoop (fun _ hgood _ => exists_rounds_succ hgood) ?_ (Place.mem_of_mem_distinct hq)
  intro step hstep
  rcases mem_arranged.mp hstep with hstep | rfl
  · obtain ⟨next, hnext, rfl⟩ := List.mem_map.mp hstep
    exact ⟨1, Nat.zero_le 1, .more hnext (.none next)⟩
  · exact ⟨0, le_refl 0, .none p⟩

/-- A repetition lists only ends of numbers of rounds that it allows. -/
theorem rounds_of_mem_repeated {body : Regex} {least : Nat} {most : Option Nat} {greedy : Bool}
    (hq : q ∈ (Regex.repeated body least most greedy).ends p) :
    ∃ count, least ≤ count ∧ (∀ bound ∈ most, count ≤ max least bound) ∧
      Rounds (fun p q => q ∈ body.ends p) count p q := by
  cases most with
  | some most =>
      obtain ⟨middle, hmiddle, hq⟩ := List.mem_flatMap.mp (Place.mem_of_mem_distinct hq)
      obtain ⟨made, hmade, hrounds⟩ := rounds_of_mem_atMost hq
      refine ⟨least + made, by omega, ?_, (rounds_of_mem_exactly hmiddle).trans hrounds⟩
      rintro _ ⟨⟩
      omega
  | none =>
      cases least with
      | zero =>
          obtain ⟨made, hmade, hrounds⟩ := rounds_of_mem_zeroOrMore hq
          exact ⟨made, hmade, by simp, hrounds⟩
      | succ least =>
          obtain ⟨middle, hmiddle, hq⟩ := List.mem_flatMap.mp (Place.mem_of_mem_distinct hq)
          obtain ⟨made, hmade, hrounds⟩ := rounds_of_mem_oneOrMore hq
          exact ⟨least + made, by omega, by simp,
            (rounds_of_mem_exactly hmiddle).trans hrounds⟩

/-- Every place that an expression lists is the end of one of its readings. -/
theorem reads_of_mem_ends {r : Regex} (hq : q ∈ r.ends p) : r.Reads p q := by
  induction r generalizing p q with
  | empty => exact List.mem_singleton.mp hq
  | one accepts =>
      cases hafter : p.after with
      | nil => simp [ends, Place.next?_of_nil hafter] at hq
      | cons c rest =>
          simp only [ends, Place.next?_of_cons hafter] at hq
          split at hq
          next haccepts => exact ⟨c, haccepts, by simp [hafter], List.mem_singleton.mp hq⟩
          next => simp at hq
  | anchor condition =>
      simp only [ends] at hq
      split at hq
      next hholds => exact ⟨hholds, List.mem_singleton.mp hq⟩
      next => simp at hq
  | seq first second ihfirst ihsecond =>
      obtain ⟨middle, hmiddle, hq⟩ := List.mem_flatMap.mp (Place.mem_of_mem_distinct hq)
      exact ⟨middle, ihfirst hmiddle, ihsecond hq⟩
  | alt preferred other ihpreferred ihother =>
      exact (List.mem_append.mp (Place.mem_of_mem_distinct hq)).imp ihpreferred ihother
  | group index body ih =>
      obtain ⟨stop, hstop, rfl⟩ := List.mem_map.mp hq
      exact ⟨stop, ih hstop, rfl⟩
  | repeated body least most greedy ih =>
      obtain ⟨count, hleast, hmost, hrounds⟩ := rounds_of_mem_repeated hq
      exact ⟨count, hleast, hmost, hrounds.mono fun _ _ => ih⟩

end Sound

end ImportRules.Regex
