import ImportRules.Glob
import Mathlib.Data.List.Infix
/-!
# What single wildcards describe

Without a wildcard for whole segments, the tokens of a glob describe a text by taking it up from
left to right: a run takes any number of characters within a segment, every other token takes one
character. The matcher tries the runs from the shortest on and gives up as soon as the rest of the
glob has run out of text. This is right since whatever runs out of text runs out of it again further
on: the matcher accepts exactly the texts that the tokens describe. No token but the slash itself
takes a slash, so a glob is cut at its slashes where the text is cut at its own.
-/

namespace ImportRules.Glob

variable {verdict : List Char → Outcome} {property : List Char → Prop} {token : Token}
  {tokens front back : List Token} {text : List Char}

/-! ## Early verdicts -/

/-- A matcher accepts the texts that have a property, and where it rejects a text, nothing that the
text ends in has the property either. -/
structure Decides (verdict : List Char → Outcome) (property : List Char → Prop) : Prop where
  accept_iff : ∀ text, verdict text = .accept ↔ property text
  reject : ∀ text, verdict text = .reject → ∀ later, later <:+ text → ¬property later

/-- The texts that begin with a run of characters within a segment and go on as asked. -/
def RunThen (property : List Char → Prop) (text : List Char) : Prop :=
  ∃ run later, text = run ++ later ∧ '/' ∉ run ∧ property later

theorem runThen_nil : RunThen property [] ↔ property [] := by
  simp [RunThen]

theorem runThen_cons {c : Char} :
    RunThen property (c :: text) ↔ property (c :: text) ∨ c ≠ '/' ∧ RunThen property text := by
  constructor
  · rintro ⟨run, later, htext, hrun, hlater⟩
    cases run with
    | nil => exact .inl (htext ▸ hlater)
    | cons d run =>
        obtain ⟨rfl, rfl⟩ := List.cons.inj htext
        obtain ⟨hc, hrun⟩ := not_or.mp (mt List.mem_cons.mpr hrun)
        exact .inr ⟨Ne.symm hc, run, later, rfl, hrun, hlater⟩
  · rintro (htext | ⟨hc, run, later, rfl, hrun, hlater⟩)
    · exact ⟨[], c :: text, rfl, List.not_mem_nil, htext⟩
    · exact ⟨c :: run, later, rfl, by simp [hrun, Ne.symm hc], hlater⟩

theorem RunThen.exists_suffix (hrun : RunThen property text) :
    ∃ later, later <:+ text ∧ property later := by
  obtain ⟨run, later, rfl, -, hlater⟩ := hrun
  exact ⟨later, List.suffix_append run later, hlater⟩

/-- Once the rest of a glob is rejected, no run helps, here or further on. -/
theorem Decides.not_runThen (hdecides : Decides verdict property) {later : List Char}
    (hreject : verdict text = .reject) (hlater : later <:+ text) : ¬RunThen property later := by
  intro hrun
  obtain ⟨last, hlast, hproperty⟩ := hrun.exists_suffix
  exact hdecides.reject text hreject last (hlast.trans hlater) hproperty

@[simp]
theorem Outcome.orElse_accept (other : Outcome) : Outcome.accept.orElse other = .accept :=
  rfl

@[simp]
theorem Outcome.orElse_retry (other : Outcome) : Outcome.retry.orElse other = other :=
  rfl

@[simp]
theorem Outcome.orElse_reject (other : Outcome) : Outcome.reject.orElse other = .reject :=
  rfl

theorem Decides.growRun_accept_iff (hdecides : Decides verdict property) (text : List Char) :
    growRun verdict text = .accept ↔ RunThen property text := by
  induction text with
  | nil => rw [growRun, hdecides.accept_iff, runThen_nil]
  | cons c text ih =>
      rw [growRun, runThen_cons, ← hdecides.accept_iff, ← ih]
      cases hverdict : verdict (c :: text) with
      | accept => simp
      | retry => by_cases hc : c = '/' <;> simp [hc]
      | reject =>
          have hnone := hdecides.not_runThen hverdict (List.suffix_cons c text)
          simp [ih, hnone]

theorem Decides.growRun (hdecides : Decides verdict property) :
    Decides (growRun verdict) (RunThen property) where
  accept_iff := hdecides.growRun_accept_iff
  reject := by
    intro text hreject later hlater
    induction text with
    | nil => exact hdecides.not_runThen hreject hlater
    | cons c text ih =>
        -- The text itself is settled by what is accepted, anything shorter by the next place.
        rcases List.suffix_cons_iff.mp hlater with rfl | hlater'
        · rw [← hdecides.growRun_accept_iff, hreject]
          simp
        · rw [Glob.growRun] at hreject
          cases hverdict : verdict (c :: text) with
          | accept =>
              rw [hverdict, Outcome.orElse_accept] at hreject
              cases hreject
          | retry =>
              rw [hverdict, Outcome.orElse_retry] at hreject
              split at hreject
              · cases hreject
              · exact ih hreject hlater'
          | reject => exact hdecides.not_runThen hverdict hlater

/-! ## Tokens -/

/-- The tokens, none of which stands for whole segments, describe the text. -/
def Describes : List Token → List Char → Prop
  | [], text => text = []
  | .anyRun :: tokens, text => RunThen (Describes tokens) text
  | token :: tokens, text =>
      ∃ c later, text = c :: later ∧ token.accepts c = true ∧ Describes tokens later

/-- A token for one character takes the first character of what it describes. -/
theorem describes_cons_iff (hrun : token ≠ .anyRun) :
    Describes (token :: tokens) text ↔
      ∃ c later, text = c :: later ∧ token.accepts c = true ∧ Describes tokens later := by
  cases token with
  | anyRun => exact absurd rfl hrun
  | _ => exact Iff.rfl

theorem describes_anyRun_iff :
    Describes (.anyRun :: tokens) text ↔ RunThen (Describes tokens) text :=
  Iff.rfl

/-- A token for one character, and then what the rest of the glob decides. -/
theorem Decides.one (hdecides : Decides (matchTokens tokens) property) (hrun : token ≠ .anyRun)
    (hpath : token ≠ .anyPath) :
    Decides (matchTokens (token :: tokens))
      fun text => ∃ c later, text = c :: later ∧ token.accepts c = true ∧ property later := by
  obtain ⟨hnil, hcons⟩ : matchTokens (token :: tokens) [] = .reject ∧
      ∀ c text, matchTokens (token :: tokens) (c :: text) =
        if token.accepts c then matchTokens tokens text else .retry := by
    cases token with
    | anyRun => exact absurd rfl hrun
    | anyPath => exact absurd rfl hpath
    | _ => exact ⟨rfl, fun _ _ => rfl⟩
  constructor
  · intro text
    cases text with
    | nil => simp [hnil]
    | cons c text =>
        rw [hcons]
        by_cases hc : token.accepts c = true <;> simp [hc, hdecides.accept_iff]
  · rintro text hreject _ hlater ⟨c, later, rfl, hc, hproperty⟩
    cases text with
    | nil => simp at hlater
    | cons d text =>
        rw [hcons] at hreject
        by_cases hd : token.accepts d = true
        · rw [if_pos hd] at hreject
          have hsuffix : later <:+ text := by
            rcases List.suffix_cons_iff.mp hlater with heq | hlater
            · exact (List.cons.inj heq).2 ▸ List.suffix_refl later
            · exact (List.suffix_cons c later).trans hlater
          exact hdecides.reject text hreject later hsuffix hproperty
        · simp [hd] at hreject

/-- The matcher accepts what the tokens describe. -/
theorem decides_matchTokens (htokens : .anyPath ∉ tokens) :
    Decides (matchTokens tokens) (Describes tokens) := by
  induction tokens with
  | nil =>
      constructor
      · intro text
        cases text <;> simp [matchTokens, Describes]
      · intro text hreject
        cases text <;> simp [matchTokens] at hreject
  | cons token tokens ih =>
      obtain ⟨htoken, hrest⟩ := not_or.mp (mt List.mem_cons.mpr htokens)
      by_cases hrun : token = .anyRun
      · subst hrun
        have hgrow := (ih hrest).growRun
        refine ⟨fun text => ?_, fun text hreject => ?_⟩
        · rw [matchTokens, describes_anyRun_iff, hgrow.accept_iff]
        · rw [matchTokens] at hreject
          exact hgrow.reject text hreject
      · have hone := (ih hrest).one hrun (Ne.symm htoken)
        refine ⟨fun text => ?_, fun text hreject later hlater => ?_⟩
        · rw [describes_cons_iff hrun, hone.accept_iff]
        · rw [describes_cons_iff hrun]
          exact hone.reject text hreject later hlater

/-! ## Segments -/

theorem describes_append :
    Describes (front ++ back) text ↔
      ∃ before behind,
        text = before ++ behind ∧ Describes front before ∧ Describes back behind := by
  induction front generalizing text with
  | nil => simp [Describes]
  | cons token front ih =>
      rw [List.cons_append]
      by_cases hrun : token = .anyRun
      · subst hrun
        simp only [describes_anyRun_iff, RunThen, ih]
        constructor
        · rintro ⟨run, _, rfl, hrun, before, behind, rfl, hbefore, hbehind⟩
          exact ⟨run ++ before, behind, (List.append_assoc ..).symm,
            ⟨run, before, rfl, hrun, hbefore⟩, hbehind⟩
        · rintro ⟨_, behind, rfl, ⟨run, before, rfl, hrun, hbefore⟩, hbehind⟩
          exact ⟨run, before ++ behind, List.append_assoc .., hrun, before, behind, rfl, hbefore,
            hbehind⟩
      · simp only [describes_cons_iff hrun, ih]
        constructor
        · rintro ⟨c, _, rfl, hc, before, behind, rfl, hbefore, hbehind⟩
          exact ⟨c :: before, behind, rfl, ⟨c, before, rfl, hc, hbefore⟩, hbehind⟩
        · rintro ⟨_, behind, rfl, ⟨c, before, rfl, hc, hbefore⟩, hbehind⟩
          exact ⟨c, before ++ behind, rfl, hc, before, behind, rfl, hbefore, hbehind⟩

/-- Only a slash accepts a slash. -/
theorem accepts_slash : token.accepts '/' = true ↔ token = .char '/' := by
  cases token with
  | char c => rw [Token.accepts, beq_iff_eq, Token.char.injEq, eq_comm]
  | _ => simp [Token.accepts]

/-- Tokens without a slash describe texts without one. -/
theorem slash_notMem_of_describes (htokens : .char '/' ∉ tokens) (htext : Describes tokens text) :
    '/' ∉ text := by
  induction tokens generalizing text with
  | nil =>
      rw [show text = [] from htext]
      exact List.not_mem_nil
  | cons token tokens ih =>
      obtain ⟨htoken, hrest⟩ := not_or.mp (mt List.mem_cons.mpr htokens)
      by_cases hrun : token = .anyRun
      · subst hrun
        obtain ⟨run, later, rfl, hrun, hlater⟩ := htext
        rw [List.mem_append, not_or]
        exact ⟨hrun, ih hrest hlater⟩
      · obtain ⟨c, later, rfl, hc, hlater⟩ := (describes_cons_iff hrun).mp htext
        rw [List.mem_cons, not_or]
        refine ⟨?_, ih hrest hlater⟩
        rintro rfl
        exact htoken (accepts_slash.mp hc).symm

/-- Behind a slash of the glob the text goes on behind its own first slash. -/
theorem describes_append_slash (hfront : .char '/' ∉ front) :
    Describes (front ++ .char '/' :: back) text ↔
      ∃ before behind, text = before ++ '/' :: behind ∧ '/' ∉ before ∧ Describes front before ∧
        Describes back behind := by
  rw [describes_append]
  constructor
  · rintro ⟨before, _, rfl, hbefore, c, behind, rfl, hc, hbehind⟩
    obtain rfl : c = '/' := by simpa [Token.accepts] using hc
    exact ⟨before, behind, rfl, slash_notMem_of_describes hfront hbefore, hbefore, hbehind⟩
  · rintro ⟨before, behind, rfl, -, hbefore, hbehind⟩
    exact ⟨before, '/' :: behind, rfl, hbefore, '/', behind, rfl, by simp [Token.accepts], hbehind⟩

end ImportRules.Glob
