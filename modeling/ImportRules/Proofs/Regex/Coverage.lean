import ImportRules.Proofs.Regex.Reading
import Mathlib.Data.Finset.Card
import Mathlib.Data.List.Nodup
import Mathlib.Order.Interval.Finset.Nat
/-!
# No place at which a reading can stop is missing

`Regex.ends` drops all but the first way to reach a place, and its loops neither begin nor end a
round twice at the same index. Nothing is lost by that: wherever a reading can stop, a place is
listed. Loops are followed step by step, with the invariant that where a round that was begun can
end, one has ended or is pending.
-/

namespace ImportRules.Regex

/-- A body that goes forward in the text and does not look at what has been marked. -/
structure Steady (body : Place → List Place) : Prop where
  leadsTo : ∀ p, ∀ q ∈ body p, p.LeadsTo q
  congr : ∀ p q p', q ∈ body p → p.unmarked = p'.unmarked →
    ∃ q' ∈ body p', q.unmarked = q'.unmarked

/-- What holds while the pending steps of a loop are worked off. -/
structure LoopState (body : Place → List Place) (start : Place) (turns : Nat)
    (begun ended : List Nat) (pending : List LoopStep) : Prop where
  inText : ∀ step ∈ pending, start.LeadsTo step.place
  once : ended.Nodup
  within : ∀ index ∈ ended, start.index ≤ index ∧ index ≤ start.index + start.after.length
  room : ended.length + turns = start.after.length + 1
  begins : ended ⊆ begun
  /-- Where a round that was begun can end, one has ended or is about to. -/
  closed : ∀ p, start.LeadsTo p → p.index ∈ begun → ∀ q ∈ body p,
    q.index ∈ ended ∨ ∃ next, .roundEnd next ∈ pending ∧ next.index = q.index

/-- What holds of the places that a loop lists in the end: `final` are the indices at which rounds
have ended by then, and these are closed under further rounds. -/
structure LoopOutcome (body : Place → List Place) (start : Place) (ended : List Nat)
    (pending : List LoopStep) (final : List Nat) (listed : List Place) : Prop where
  kept : ended ⊆ final
  worked : ∀ q, .roundEnd q ∈ pending → q.index ∈ final
  closed : ∀ p, start.LeadsTo p → p.index ∈ final → ∀ q ∈ body p, q.index ∈ final
  found : ∀ index ∈ final, index ∈ ended ∨ ∃ q ∈ listed, q.index = index
  left : ∀ q, .leave q ∈ pending → q ∈ listed

section Complete

variable {body : Place → List Place} {start place : Place} {turns : Nat} {begun ended : List Nat}
  {pending : List LoopStep} {greedy : Bool} {count : Nat} {p q : Place}

/-- As many rounds as there are indices cannot end without ending at all of them. -/
theorem LoopState.mem_ended (hstate : LoopState body start 0 begun ended pending)
    (hleads : start.LeadsTo place) : place.index ∈ ended := by
  have hsubset : ended.toFinset ⊆
      Finset.Icc start.index (start.index + start.after.length) := by
    intro index hindex
    rw [List.mem_toFinset] at hindex
    exact Finset.mem_Icc.mpr (hstate.within index hindex)
  have hcard : (Finset.Icc start.index (start.index + start.after.length)).card ≤
      ended.toFinset.card := by
    have hroom := hstate.room
    rw [List.toFinset_card_of_nodup hstate.once, Nat.card_Icc]
    omega
  rw [← List.mem_toFinset, Finset.eq_of_subset_of_card_le hsubset hcard]
  exact Finset.mem_Icc.mpr hleads.index_bounds

/-- Leaving the loop changes nothing for what is still pending. -/
theorem LoopState.leave
    (hstate : LoopState body start turns begun ended (.leave place :: pending)) :
    LoopState body start turns begun ended pending where
  inText step hstep := hstate.inText step (List.mem_cons_of_mem _ hstep)
  once := hstate.once
  within := hstate.within
  room := hstate.room
  begins := hstate.begins
  closed p hleads hbegun q hq := by
    have hclosed := hstate.closed p hleads hbegun q hq
    simpa using hclosed

/-- Nor does the end of a round at an index where one ended before. -/
theorem LoopState.skip
    (hstate : LoopState body start turns begun ended (.roundEnd place :: pending))
    (hended : place.index ∈ ended) : LoopState body start turns begun ended pending where
  inText step hstep := hstate.inText step (List.mem_cons_of_mem _ hstep)
  once := hstate.once
  within := hstate.within
  room := hstate.room
  begins := hstate.begins
  closed p hleads hbegun q hq := by
    rcases hstate.closed p hleads hbegun q hq with hq | ⟨next, hnext, hindex⟩
    · exact .inl hq
    · rcases List.mem_cons.mp hnext with hnext | hnext
      · cases hnext
        exact .inl (hindex ▸ hended)
      · exact .inr ⟨next, hnext, hindex⟩

/-- The end of a round at a new index makes the next rounds pending, unless one was begun there. -/
theorem LoopState.turn (hbody : Steady body)
    (hstate : LoopState body start (turns + 1) begun ended (.roundEnd place :: pending))
    (hended : place.index ∉ ended) {pending' : List LoopStep}
    (hpending : ∀ step, step ∈ pending' ↔
      (place.index ∉ begun ∧ step ∈ (body place).map LoopStep.roundEnd) ∨
        step = .leave place ∨ step ∈ pending) :
    LoopState body start turns (place.index :: begun) (place.index :: ended) pending' := by
  have hplace : start.LeadsTo place := hstate.inText _ List.mem_cons_self
  refine ⟨?_, ?_, ?_, ?_, ?_, ?_⟩
  · intro step hstep
    rcases (hpending step).mp hstep with ⟨-, hstep⟩ | rfl | hstep
    · obtain ⟨next, hnext, rfl⟩ := List.mem_map.mp hstep
      exact hplace.trans (hbody.leadsTo place next hnext)
    · exact hplace
    · exact hstate.inText step (List.mem_cons_of_mem _ hstep)
  · exact List.nodup_cons.mpr ⟨hended, hstate.once⟩
  · exact List.forall_mem_cons.mpr ⟨hplace.index_bounds, hstate.within⟩
  · have hroom := hstate.room
    simp only [List.length_cons]
    omega
  · exact List.cons_subset_cons _ hstate.begins
  · intro p hleads hbegun q hq
    -- Rounds that began before are followed by what was pending, with this place now ended.
    have hold : p.index ∈ begun →
        q.index ∈ place.index :: ended ∨ ∃ next, .roundEnd next ∈ pending' ∧
          next.index = q.index := by
      intro hbegun
      rcases hstate.closed p hleads hbegun q hq with hq | ⟨next, hnext, hindex⟩
      · exact .inl (List.mem_cons_of_mem _ hq)
      · rcases List.mem_cons.mp hnext with hnext | hnext
        · cases hnext
          exact .inl (hindex ▸ List.mem_cons_self)
        · exact .inr ⟨next, (hpending _).mpr (.inr (.inr hnext)), hindex⟩
    by_cases hseen : p.index ∈ begun
    · exact hold hseen
    · have hindex : p.index = place.index := by simpa [hseen] using hbegun
      have hsame : p.unmarked = place.unmarked := hleads.unmarked_eq hplace hindex
      obtain ⟨next, hnext, hq⟩ := hbody.congr p q place hq hsame
      refine .inr ⟨next, (hpending _).mpr (.inl ⟨hindex ▸ hseen, List.mem_map_of_mem hnext⟩), ?_⟩
      exact (Place.index_eq_of_unmarked hq).symm

theorem LoopOutcome.skip {final : List Nat} {listed : List Place}
    (houtcome : LoopOutcome body start ended pending final listed) (hended : place.index ∈ ended) :
    LoopOutcome body start ended (.roundEnd place :: pending) final listed where
  kept := houtcome.kept
  worked q hq := by
    rcases List.mem_cons.mp hq with hq | hq
    · cases hq
      exact houtcome.kept hended
    · exact houtcome.worked q hq
  closed := houtcome.closed
  found := houtcome.found
  left q hq := houtcome.left q (by simpa using hq)

theorem LoopOutcome.turn {final : List Nat} {listed : List Place} {pending' : List LoopStep}
    (houtcome : LoopOutcome body start (place.index :: ended) pending' final listed)
    (hpending : ∀ step, step ∈ pending' ↔
      (place.index ∉ begun ∧ step ∈ (body place).map LoopStep.roundEnd) ∨
        step = .leave place ∨ step ∈ pending) :
    LoopOutcome body start ended (.roundEnd place :: pending) final listed where
  kept := (List.cons_subset.mp houtcome.kept).2
  worked q hq := by
    rcases List.mem_cons.mp hq with hq | hq
    · cases hq
      exact houtcome.kept List.mem_cons_self
    · exact houtcome.worked q ((hpending _).mpr (.inr (.inr hq)))
  closed := houtcome.closed
  found index hindex := by
    rcases houtcome.found index hindex with hended | hlisted
    · rcases List.mem_cons.mp hended with rfl | hended
      · exact .inr ⟨place, houtcome.left place ((hpending _).mpr (.inr (.inl rfl))), rfl⟩
      · exact .inl hended
    · exact .inr hlisted
  left q hq := houtcome.left q ((hpending _).mpr (.inr (.inr (by simpa using hq))))

/-- A loop works off everything that its rounds lead to. -/
theorem LoopState.outcome (greedy : Bool) (hbody : Steady body)
    (hstate : LoopState body start turns begun ended pending) :
    ∃ final, LoopOutcome body start ended pending final
      (runLoop body greedy turns begun ended pending) := by
  fun_induction runLoop body greedy turns begun ended pending with
  | case1 turns begun ended =>
      refine ⟨ended, List.Subset.refl _, by simp, ?_, fun index hindex => .inl hindex, by simp⟩
      intro p hleads hended q hq
      have hclosed := hstate.closed p hleads (hstate.begins hended) q hq
      simpa using hclosed
  | case2 turns begun ended place pending ih =>
      obtain ⟨final, hfinal⟩ := ih hstate.leave
      refine ⟨final, hfinal.kept, ?_, hfinal.closed, ?_, ?_⟩
      · intro q hq
        exact hfinal.worked q (by simpa using hq)
      · intro index hindex
        refine (hfinal.found index hindex).imp_right ?_
        rintro ⟨q, hq, hindex⟩
        exact ⟨q, List.mem_cons_of_mem _ hq, hindex⟩
      · intro q hq
        rcases List.mem_cons.mp hq with hq | hq
        · cases hq
          exact List.mem_cons_self
        · exact List.mem_cons_of_mem _ (hfinal.left q hq)
  | case3 begun ended place pending ih =>
      have hended := hstate.mem_ended (hstate.inText _ List.mem_cons_self)
      obtain ⟨final, hfinal⟩ := ih (hstate.skip hended)
      exact ⟨final, hfinal.skip hended⟩
  | case4 turns begun ended place pending hended ih =>
      have hended : place.index ∈ ended := by simpa using hended
      obtain ⟨final, hfinal⟩ := ih (hstate.skip hended)
      exact ⟨final, hfinal.skip hended⟩
  | case5 turns begun ended place pending hended again pending' ih =>
      have hended : place.index ∉ ended := by simpa using hended
      have hpending : ∀ step, step ∈ pending' ↔
          (place.index ∉ begun ∧ step ∈ (body place).map LoopStep.roundEnd) ∨
            step = .leave place ∨ step ∈ pending := by
        intro step
        have hagain : step ∈ again ↔
            place.index ∉ begun ∧ step ∈ (body place).map LoopStep.roundEnd := by
          by_cases hbegun : place.index ∈ begun <;> simp [again, hbegun]
        rw [← hagain]
        cases greedy <;> simp [pending', or_left_comm]
      obtain ⟨final, hfinal⟩ := ih (hstate.turn hbody hended hpending)
      exact ⟨final, hfinal.turn hpending⟩

theorem LoopState.initial (hbody : Steady body)
    (hpending : ∀ step, step ∈ pending → step ∈ (body p).map LoopStep.roundEnd ∨ step = .leave p)
    (hrounds : (body p).map LoopStep.roundEnd ⊆ pending) :
    LoopState body p (p.after.length + 1) [p.index] [] pending where
  inText step hstep := by
    rcases hpending step hstep with hstep | rfl
    · obtain ⟨next, hnext, rfl⟩ := List.mem_map.mp hstep
      exact hbody.leadsTo p next hnext
    · exact .refl p
  once := List.nodup_nil
  within := by simp
  room := by simp
  begins := by simp
  closed a hleads hbegun q hq := by
    have hsame : a.unmarked = p.unmarked :=
      hleads.unmarked_eq (.refl p) (by simpa using hbegun)
    obtain ⟨next, hnext, hq⟩ := hbody.congr a q p hq hsame
    exact .inr ⟨next, hrounds (List.mem_map_of_mem hnext), (Place.index_eq_of_unmarked hq).symm⟩

/-- However many rounds are made, where they end is closed under further rounds. -/
theorem LoopOutcome.index_mem {final : List Nat} {listed : List Place} (hbody : Steady body)
    (houtcome : LoopOutcome body start ended pending final listed) (hleads : start.LeadsTo p)
    (hfinal : p.index ∈ final) (hrounds : Rounds (fun p q => q ∈ body p) count p q) :
    q.index ∈ final := by
  induction hrounds with
  | none p => exact hfinal
  | more hstep _ ih =>
      exact ih (hleads.trans (hbody.leadsTo _ _ hstep)) (houtcome.closed _ hleads hfinal _ hstep)

theorem Rounds.leadsTo_of_steady (hbody : Steady body)
    (hrounds : Rounds (fun p q => q ∈ body p) count p q) : p.LeadsTo q :=
  hrounds.leadsTo hbody.leadsTo

/-- A loop that starts with the rounds from a place lists the end of every number of rounds. -/
theorem exists_mem_runLoop (greedy : Bool) (hbody : Steady body)
    (hpending : ∀ step, step ∈ pending → step ∈ (body p).map LoopStep.roundEnd ∨ step = .leave p)
    (hfirst : (body p).map LoopStep.roundEnd ⊆ pending)
    (hrounds : Rounds (fun p q => q ∈ body p) (count + 1) p q) :
    ∃ stop ∈ runLoop body greedy (p.after.length + 1) [p.index] [] pending,
      stop.index = q.index := by
  obtain ⟨final, houtcome⟩ :=
    (LoopState.initial hbody hpending hfirst).outcome greedy hbody
  cases hrounds with
  | more hstep hrest =>
      have hnext := houtcome.worked _ (hfirst (List.mem_map_of_mem hstep))
      have hlast := houtcome.index_mem hbody (hbody.leadsTo _ _ hstep) hnext hrest
      simpa using houtcome.found _ hlast

theorem among_oneOrMore (hbody : Steady body)
    (hrounds : Rounds (fun p q => q ∈ body p) (count + 1) p q) :
    Place.Among (oneOrMore body greedy p) q := by
  obtain ⟨stop, hstop, hindex⟩ := exists_mem_runLoop greedy hbody
    (fun step => Or.inl) (List.Subset.refl _) hrounds
  obtain ⟨kept, hkept, hsame⟩ := Place.exists_mem_distinct hstop
  refine ⟨kept, hkept, ?_⟩
  obtain ⟨made, -, hmade⟩ := rounds_of_mem_oneOrMore hkept
  exact (hmade.leadsTo_of_steady hbody).unmarked_eq (hrounds.leadsTo_of_steady hbody)
    (hsame.trans hindex)

theorem among_zeroOrMore (hbody : Steady body)
    (hrounds : Rounds (fun p q => q ∈ body p) count p q) :
    Place.Among (zeroOrMore body greedy p) q := by
  have hlisted : ∃ stop ∈ runLoop body greedy (p.after.length + 1) [p.index] []
      (if greedy then (body p).map LoopStep.roundEnd ++ [.leave p]
        else .leave p :: (body p).map LoopStep.roundEnd), stop.index = q.index := by
    have hpending : ∀ step, step ∈ (if greedy then (body p).map LoopStep.roundEnd ++ [.leave p]
        else .leave p :: (body p).map LoopStep.roundEnd) ↔
          step ∈ (body p).map LoopStep.roundEnd ∨ step = .leave p := fun _ => mem_arranged
    have hfirst := fun step hstep => (hpending step).mpr (.inl hstep)
    cases count with
    | zero =>
        -- Without a round the loop is left where it starts.
        cases hrounds
        obtain ⟨final, houtcome⟩ := (LoopState.initial hbody
          (fun step => (hpending step).mp) hfirst).outcome greedy hbody
        exact ⟨p, houtcome.left p ((hpending _).mpr (.inr rfl)), rfl⟩
    | succ count =>
        exact exists_mem_runLoop greedy hbody (fun step => (hpending step).mp) hfirst hrounds
  obtain ⟨stop, hstop, hindex⟩ := hlisted
  obtain ⟨kept, hkept, hsame⟩ := Place.exists_mem_distinct hstop
  refine ⟨kept, hkept, ?_⟩
  obtain ⟨made, -, hmade⟩ := rounds_of_mem_zeroOrMore hkept
  exact (hmade.leadsTo_of_steady hbody).unmarked_eq (hrounds.leadsTo_of_steady hbody)
    (hsame.trans hindex)

theorem among_exactly (hbody : Steady body)
    (hrounds : Rounds (fun p q => q ∈ body p) count p q) :
    Place.Among (exactly body count p) q := by
  induction count generalizing p with
  | zero =>
      cases hrounds
      exact ⟨q, List.mem_singleton_self q, rfl⟩
  | succ count ih =>
      cases hrounds with
      | more hstep hrest =>
          obtain ⟨stop, hstop, hsame⟩ := ih hrest
          refine Place.Among.distinct (p := p)
            ⟨stop, List.mem_flatMap.mpr ⟨_, hstep, hstop⟩, hsame⟩ ?_
          intro other hother
          obtain ⟨next, hnext, hother⟩ := List.mem_flatMap.mp hother
          exact (hbody.leadsTo p next hnext).trans
            ((rounds_of_mem_exactly hother).leadsTo_of_steady hbody)

theorem among_atMost (hbody : Steady body) {made : Nat} (hmade : made ≤ count)
    (hrounds : Rounds (fun p q => q ∈ body p) made p q) :
    Place.Among (atMost body greedy count p) q := by
  induction count generalizing p made with
  | zero =>
      obtain rfl : made = 0 := Nat.le_zero.mp hmade
      cases hrounds
      exact ⟨q, List.mem_singleton_self q, rfl⟩
  | succ count ih =>
      refine Place.Among.distinct (p := p) ?_ ?_
      · cases hrounds with
        | none => exact ⟨q, mem_arranged.mpr (.inr rfl), rfl⟩
        | more hstep hrest =>
            obtain ⟨stop, hstop, hsame⟩ := ih (by omega) hrest
            exact ⟨stop, mem_arranged.mpr (.inl (List.mem_flatMap.mpr ⟨_, hstep, hstop⟩)), hsame⟩
      · intro other hother
        rcases mem_arranged.mp hother with hother | rfl
        · obtain ⟨next, hnext, hother⟩ := List.mem_flatMap.mp hother
          obtain ⟨_, -, hrest⟩ := rounds_of_mem_atMost hother
          exact (hbody.leadsTo p next hnext).trans (hrest.leadsTo_of_steady hbody)
        · exact .refl other

/-- Rounds up to a place and then on from there, where the second list starts wherever the first
one stops. -/
theorem among_flatMap {more : Nat} {first second : Place → List Place} (hbody : Steady body)
    (hfirst : ∀ q, Rounds (fun p q => q ∈ body p) count p q → Place.Among (first p) q)
    (hsecond : ∀ p q, Rounds (fun p q => q ∈ body p) more p q → Place.Among (second p) q)
    (hleads : ∀ stop ∈ (first p).flatMap second, p.LeadsTo stop)
    (hrounds : Rounds (fun p q => q ∈ body p) (count + more) p q) :
    Place.Among (Place.distinct ((first p).flatMap second)) q := by
  obtain ⟨middle, hmiddle, hrest⟩ := hrounds.split
  obtain ⟨middle', hmiddle', hsame⟩ := hfirst middle hmiddle
  obtain ⟨q', hrest', hq⟩ := hrest.congr hbody.congr hsame.symm
  obtain ⟨stop, hstop, hsame⟩ := hsecond middle' q' hrest'
  refine Place.Among.distinct (p := p) ?_ hleads
  exact ⟨stop, List.mem_flatMap.mpr ⟨middle', hmiddle', hstop⟩, hsame.trans hq.symm⟩

/-- A repetition lists the end of every number of rounds that it allows. -/
theorem among_repeated {body : Regex} {least count : Nat} {most : Option Nat} {greedy : Bool}
    (hbody : Steady body.ends) (hleast : least ≤ count)
    (hmost : ∀ bound ∈ most, count ≤ max least bound)
    (hrounds : Rounds (fun p q => q ∈ body.ends p) count p q) :
    Place.Among ((Regex.repeated body least most greedy).ends p) q := by
  cases most with
  | some most =>
      obtain ⟨made, rfl⟩ := Nat.exists_eq_add_of_le hleast
      have hmade : made ≤ most - least := by
        have hbound := hmost most rfl
        omega
      refine among_flatMap hbody (fun q => among_exactly hbody)
        (fun p q => among_atMost hbody hmade) ?_ hrounds
      intro stop hstop
      obtain ⟨middle, hmiddle, hstop⟩ := List.mem_flatMap.mp hstop
      obtain ⟨_, -, hrest⟩ := rounds_of_mem_atMost hstop
      exact ((rounds_of_mem_exactly hmiddle).trans hrest).leadsTo_of_steady hbody
  | none =>
      cases least with
      | zero => exact among_zeroOrMore hbody hrounds
      | succ least =>
          obtain ⟨made, rfl⟩ := Nat.exists_eq_add_of_le hleast
          rw [Nat.add_assoc, Nat.add_comm 1] at hrounds
          refine among_flatMap hbody (fun q => among_exactly hbody)
            (fun p q => among_oneOrMore hbody) ?_ hrounds
          intro stop hstop
          obtain ⟨middle, hmiddle, hstop⟩ := List.mem_flatMap.mp hstop
          obtain ⟨_, -, hrest⟩ := rounds_of_mem_oneOrMore hstop
          exact ((rounds_of_mem_exactly hmiddle).trans hrest).leadsTo_of_steady hbody

/-- Wherever a reading can stop, the expression lists a place. -/
theorem among_ends {r : Regex} (hreads : r.Reads p q) : Place.Among (r.ends p) q := by
  induction r generalizing p q with
  | empty => exact ⟨p, List.mem_singleton_self p, hreads ▸ rfl⟩
  | one accepts =>
      obtain ⟨c, haccepts, ⟨rest, hafter⟩, rfl⟩ := hreads
      refine ⟨p.past [c], ?_, rfl⟩
      simp [ends, Place.next?_of_cons hafter.symm, haccepts]
  | anchor condition =>
      obtain ⟨hholds, rfl⟩ := hreads
      exact ⟨q, by simp [ends, hholds], rfl⟩
  | seq first second ihfirst ihsecond =>
      obtain ⟨middle, hfirst, hsecond⟩ := hreads
      obtain ⟨middle', hmiddle', hsame⟩ := ihfirst hfirst
      obtain ⟨q', hsecond', hq⟩ := hsecond.congr hsame.symm
      obtain ⟨stop, hstop, hsame⟩ := ihsecond hsecond'
      refine Place.Among.distinct (p := p)
        ⟨stop, List.mem_flatMap.mpr ⟨middle', hmiddle', hstop⟩, hsame.trans hq.symm⟩ ?_
      intro other hother
      obtain ⟨middle, hmiddle, hother⟩ := List.mem_flatMap.mp hother
      exact (reads_of_mem_ends hmiddle).leadsTo.trans (reads_of_mem_ends hother).leadsTo
  | alt preferred other ihpreferred ihother =>
      have hlisted : Place.Among (preferred.ends p ++ other.ends p) q := by
        rcases hreads with hreads | hreads
        · obtain ⟨stop, hstop, hsame⟩ := ihpreferred hreads
          exact ⟨stop, List.mem_append_left _ hstop, hsame⟩
        · obtain ⟨stop, hstop, hsame⟩ := ihother hreads
          exact ⟨stop, List.mem_append_right _ hstop, hsame⟩
      refine hlisted.distinct (p := p) ?_
      intro stop hstop
      exact (List.mem_append.mp hstop).elim (fun hstop => (reads_of_mem_ends hstop).leadsTo)
        fun hstop => (reads_of_mem_ends hstop).leadsTo
  | group index body ih =>
      obtain ⟨stop, hbody, rfl⟩ := hreads
      obtain ⟨stop', hstop', hsame⟩ := ih hbody
      exact ⟨stop'.marked index p.index, List.mem_map_of_mem hstop', hsame⟩
  | repeated body least most greedy ih =>
      have hstep : ∀ p q p', body.Reads p q → p.unmarked = p'.unmarked →
          ∃ q' ∈ body.ends p', q.unmarked = q'.unmarked := by
        intro p q p' hreads hsame
        obtain ⟨q', hreads', hq⟩ := hreads.congr hsame
        obtain ⟨stop, hstop, hsame⟩ := ih hreads'
        exact ⟨stop, hstop, hq.trans hsame.symm⟩
      have hbody : Steady body.ends :=
        ⟨fun p q hq => (reads_of_mem_ends hq).leadsTo,
          fun p q p' hq => hstep p q p' (reads_of_mem_ends hq)⟩
      obtain ⟨count, hleast, hmost, hrounds⟩ := hreads
      obtain ⟨q', hrounds, hq⟩ := hrounds.congr hstep (rfl : p.unmarked = p.unmarked)
      refine Place.Among.congr ?_ hq.symm
      exact among_repeated hbody hleast hmost hrounds

end Complete

end ImportRules.Regex
