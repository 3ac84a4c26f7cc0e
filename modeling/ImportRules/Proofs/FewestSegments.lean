import ImportRules.Proofs.Regex.Searching
import ImportRules.Proofs.SliceMeaning
import Mathlib.Data.List.TakeWhile
/-!
# As few segments as the rest allows

Before further text, `(**)` takes one or more whole segments, as few as let the rest of the glob
match. Its expression lists places inside of segments as well, but the rest begins with `/` and
cannot be read from there. At the ends of segments the listed places stand in the order of the text,
as a loop that prefers few rounds leaves before it goes on to the next segment. So the first place
from which the rest can be read is the one behind the fewest segments.
-/

namespace ImportRules

namespace SliceGlob

open Regex (Place LoopStep)

variable {p q : Place}

/-! ## The ends of segments -/

/-- The segment does not go on here. -/
def AtSegmentEnd (p : Place) : Prop :=
  ∀ c ∈ p.after.head?, c = '/'

/-- Whatever is listed before the end of a segment lies before it in the text. -/
def Ascending (places : List Place) : Prop :=
  places.Pairwise fun earlier later => AtSegmentEnd later → earlier.index < later.index

theorem ascending_of_inside {places : List Place}
    (hinside : ∀ place ∈ places, ¬AtSegmentEnd place) (first : Place) :
    Ascending (first :: places) := by
  refine List.pairwise_cons.mpr ⟨fun place hplace hend => absurd hend (hinside place hplace), ?_⟩
  apply List.pairwise_of_forall_mem_list
  intro earlier _ later hlater hend
  exact absurd hend (hinside later hlater)

theorem Ascending.distinct {places : List Place} (hplaces : Ascending places) :
    Ascending (Place.distinct places) :=
  hplaces.sublist (eraseDupsBy_sublist _ _)

/-- A `/` and a segment behind it. -/
def furtherSegment : Regex :=
  .seq (.char '/') segment

theorem ends_segment_of_end (hend : AtSegmentEnd p) : segment.ends p = [] := by
  refine Regex.ends_eq_nil_of_head rfl ?_
  intro c hc
  rw [hend c hc]
  rfl

theorem takeWhile_of_atSegmentEnd {word : List Char} (hword : '/' ∉ word)
    (hahead : word <+: p.after) (hend : AtSegmentEnd (p.past word)) :
    p.after.takeWhile (· != '/') = word := by
  obtain ⟨rest, hrest⟩ := hahead
  have hafter : (p.past word).after = rest := Place.after_past_of_append hrest.symm
  have hall : ∀ c ∈ word, (c != '/') = true := by
    intro c hc
    simpa using fun heq : c = '/' => hword (heq ▸ hc)
  have hstop : rest.takeWhile (· != '/') = [] := by
    cases rest with
    | nil => rfl
    | cons c tail =>
        have hc : c = '/' := hend c (by rw [hafter]; rfl)
        simp [hc]
  rw [← hrest, List.takeWhile_append_of_pos hall, hstop, List.append_nil]

/-- From inside a segment, its end is listed first, and no other end of a segment is listed. -/
theorem ends_segment_of_inside (hinside : ¬AtSegmentEnd p) :
    ∃ stop inner, segment.ends p = stop :: inner ∧ AtSegmentEnd stop ∧
      ∀ q ∈ inner, ¬AtSegmentEnd q := by
  let word := p.after.takeWhile (· != '/')
  let rest := p.after.dropWhile (· != '/')
  have hafter : p.after = word ++ rest := List.takeWhile_append_dropWhile.symm
  have hword : '/' ∉ word := by
    intro hmem
    simpa using List.mem_takeWhile_imp hmem
  have hrest : ∀ c ∈ rest.head?, c = '/' := by
    intro c hc
    have hstop := List.head?_dropWhile_not (· != '/') p.after
    rw [show (p.after.dropWhile (· != '/')).head? = some c from hc] at hstop
    simpa using hstop
  have hne : word ≠ [] := by
    intro hnil
    apply hinside
    rw [AtSegmentEnd, hafter, hnil]
    exact hrest
  have hprefers : segment.Prefers p (p.past word) :=
    Regex.prefers_many1_one hafter hne (Regex.forall_mem_noneOf.mpr hword) fun c hc => by
      rw [hrest c hc]
      rfl
  obtain ⟨inner, hinner⟩ := List.head?_eq_some_iff.mp hprefers
  have hdistinct := Place.pairwise_distinct
    ((Regex.exactly (Regex.noneOf ['/']).ends 0 p).flatMap
      (Regex.oneOrMore (Regex.noneOf ['/']).ends true))
  change (segment.ends p).Pairwise _ at hdistinct
  rw [hinner] at hdistinct
  refine ⟨p.past word, inner, hinner, ?_, ?_⟩
  · rw [AtSegmentEnd, Place.after_past_of_append hafter]
    exact hrest
  · intro q hq hend
    have hmem : q ∈ segment.ends p := hinner ▸ List.mem_cons_of_mem _ hq
    obtain ⟨other, hother, hahead, rfl⟩ := (Regex.mem_ends_iff rfl).mp hmem
    have hsame : word = other :=
      takeWhile_of_atSegmentEnd (mem_words_segment.mp hother).2 hahead hend
    exact List.rel_of_pairwise_cons hdistinct hq (hsame ▸ rfl)

/-- What begins with `/` cannot be read from inside a segment. -/
theorem ends_slash_of_inside (hinside : ¬AtSegmentEnd p) (r : Regex) :
    (Regex.seq (.char '/') r).ends p = [] := by
  refine Regex.ends_eq_nil_of_head rfl ?_
  intro c hc
  have hne : c ≠ '/' := by
    rintro rfl
    apply hinside
    intro d hd
    exact Option.some.inj (hd.symm.trans hc)
  simpa [Regex.startsWith, Regex.char, Regex.isNullable] using hne

theorem ends_furtherSegment (p : Place) :
    furtherSegment.ends p = [] ∨
      ∃ stop inner, furtherSegment.ends p = stop :: inner ∧ AtSegmentEnd stop ∧
        ∀ q ∈ inner, ¬AtSegmentEnd q := by
  by_cases hslash : ∃ rest, p.after = '/' :: rest
  · obtain ⟨rest, hafter⟩ := hslash
    have hsegment : furtherSegment.ends p = Place.distinct (segment.ends (p.past ['/'])) := by
      have hchar : (Regex.char '/').ends p = [p.past ['/']] :=
        Regex.ends_one_of_accepts hafter (beq_self_eq_true '/')
      rw [furtherSegment, Regex.ends, hchar, List.flatMap_singleton]
    have hdistinct : Place.distinct (segment.ends (p.past ['/'])) = segment.ends (p.past ['/']) :=
      Place.distinct_of_pairwise (Place.pairwise_distinct _)
    rw [hsegment, hdistinct]
    by_cases hend : AtSegmentEnd (p.past ['/'])
    · exact .inl (ends_segment_of_end hend)
    · exact .inr (ends_segment_of_inside hend)
  · left
    refine Regex.ends_eq_nil ?_
    rintro word hword ⟨rest, hrest⟩
    obtain ⟨separator, hseparator, name, -, rfl⟩ := Regex.mem_words_seq.mp hword
    obtain rfl := Regex.mem_words_char.mp hseparator
    exact hslash ⟨name ++ rest, hrest.symm⟩

/-! ## Loops over segments -/

theorem inside_runLoop {turns : Nat} {begun ended : List Nat} {pending : List LoopStep}
    (hpending : ∀ step ∈ pending, ¬AtSegmentEnd step.place) :
    ∀ place ∈ Regex.runLoop furtherSegment.ends false turns begun ended pending,
      ¬AtSegmentEnd place := by
  have hbody : ∀ place, ¬AtSegmentEnd place → ∀ q ∈ furtherSegment.ends place,
      ¬AtSegmentEnd q := by
    intro place hinside
    simp [furtherSegment, ends_slash_of_inside hinside]
  intro place hplace
  exact Regex.mem_runLoop hbody hpending hplace

/-- From the end of a segment on, a lazy loop over further segments comes to their ends one after
the other, whatever else is pending inside of segments. -/
theorem ascending_runLoop {turns : Nat} {begun ended : List Nat} {pending : List LoopStep}
    (hpending : ∀ step ∈ pending, ¬AtSegmentEnd step.place) (hturns : q.after.length ≤ turns)
    (hbegun : ∀ index ∈ begun, index ≤ q.index) (hended : ∀ index ∈ ended, index ≤ q.index) :
    Ascending (q :: Regex.runLoop furtherSegment.ends false turns begun ended
      ((furtherSegment.ends q).map LoopStep.roundEnd ++ pending)) := by
  induction turns generalizing q begun ended pending with
  | zero =>
      have hnone : furtherSegment.ends q = [] :=
        Regex.ends_eq_nil_of_end rfl (List.length_eq_zero_iff.mp (Nat.le_zero.mp hturns))
      rw [hnone]
      exact ascending_of_inside (inside_runLoop hpending) q
  | succ turns ih =>
      rcases ends_furtherSegment q with hnone | ⟨stop, inner, hends, hstop, hinner⟩
      · rw [hnone]
        exact ascending_of_inside (inside_runLoop hpending) q
      · obtain ⟨hindex, hlength⟩ :=
          Regex.advances_of_mem_ends (r := furtherSegment) rfl (hends ▸ List.mem_cons_self)
        have hnew : ∀ {seen : List Nat}, (∀ index ∈ seen, index ≤ q.index) →
            stop.index ∉ seen :=
          fun hseen hmem => absurd (hseen _ hmem) (Nat.not_le.mpr hindex)
        have hpassed : ∀ {seen : List Nat}, (∀ index ∈ seen, index ≤ q.index) →
            ∀ index ∈ stop.index :: seen, index ≤ stop.index :=
          fun hseen => List.forall_mem_cons.mpr
            ⟨le_rfl, fun index hmem => (hseen index hmem).trans hindex.le⟩
        have hpending' : ∀ step ∈ inner.map LoopStep.roundEnd ++ pending,
            ¬AtSegmentEnd step.place := by
          refine List.forall_mem_append.mpr ⟨?_, hpending⟩
          intro step hstep
          obtain ⟨place, hplace, rfl⟩ := List.mem_map.mp hstep
          exact hinner place hplace
        have hlater := ih hpending' (by omega) (hpassed hbegun) (hpassed hended)
        rw [hends, List.map_cons, List.cons_append,
          Regex.runLoop_roundEnd_lazy (hnew hbegun) (hnew hended)]
        refine List.pairwise_cons.mpr ⟨?_, hlater⟩
        refine List.forall_mem_cons.mpr ⟨fun _ => hindex, fun place hplace hend => ?_⟩
        exact hindex.trans (List.rel_of_pairwise_cons hlater hplace hend)

theorem ascending_zeroOrMore (q : Place) :
    Ascending (Regex.zeroOrMore furtherSegment.ends false q) := by
  have hloop : Ascending (q :: Regex.runLoop furtherSegment.ends false (q.after.length + 1)
      [q.index] [] ((furtherSegment.ends q).map LoopStep.roundEnd ++ [])) :=
    ascending_runLoop (by simp) (by omega) (by simp) (by simp)
  apply Ascending.distinct
  simpa [Regex.runLoop] using hloop

theorem zeroOrMore_of_inside (hinside : ¬AtSegmentEnd q) :
    Regex.zeroOrMore furtherSegment.ends false q = [q] := by
  simp [Regex.zeroOrMore, furtherSegment, ends_slash_of_inside hinside, Regex.runLoop,
    Place.distinct_of_pairwise]

theorem ascending_segmentPath (p : Place) : Ascending ((segmentPath false).ends p) := by
  apply Ascending.distinct
  change Ascending ((segment.ends p).flatMap (Regex.zeroOrMore furtherSegment.ends false))
  by_cases hend : AtSegmentEnd p
  · rw [ends_segment_of_end hend]
    exact List.Pairwise.nil
  · obtain ⟨stop, inner, hends, hstop, hinner⟩ := ends_segment_of_inside hend
    have hrest : inner.flatMap (Regex.zeroOrMore furtherSegment.ends false) = inner := by
      rw [List.flatMap_congr fun q hq => zeroOrMore_of_inside (hinner q hq)]
      exact List.flatMap_singleton' inner
    rw [hends, List.flatMap_cons, hrest]
    refine List.pairwise_append.mpr ⟨ascending_zeroOrMore stop,
      (ascending_of_inside hinner stop).of_cons, ?_⟩
    intro earlier _ later hlater hend
    exact absurd hend (hinner later hlater)

/-- Of the ends of segments from which the rest can be read, the first one in the text is taken. -/
theorem exists_first_of_prefers {back : Regex} {stop : Place}
    (hslash : ∀ place, ¬AtSegmentEnd place → back.ends place = [])
    (hprefers : (Regex.seq (.group 1 (segmentPath false)) back).Prefers p stop) :
    ∃ q ∈ (segmentPath false).ends p, stop ∈ back.ends (q.marked 1 p.index) ∧
      ∀ other ∈ (segmentPath false).ends p, back.ends (other.marked 1 p.index) ≠ [] →
        q.index ≤ other.index := by
  rw [Regex.Prefers, Regex.ends, Place.head?_distinct, Regex.ends, List.flatMap_map,
    List.head?_flatMap, List.findSome?_eq_some_iff] at hprefers
  obtain ⟨before, q, behind, hends, hstop, hbefore⟩ := hprefers
  refine ⟨q, by simp [hends], List.mem_of_mem_head? hstop, ?_⟩
  intro other hother hreads
  have hascending := ascending_segmentPath p
  rw [hends] at hother hascending
  rcases List.mem_append.mp hother with hother | hother
  · exact absurd (List.head?_eq_none_iff.mp (hbefore other hother)) hreads
  · rcases List.mem_cons.mp hother with rfl | hother
    · exact le_rfl
    · have hend : AtSegmentEnd other := by
        by_contra hinside
        exact hreads (hslash _ hinside)
      exact (List.rel_of_pairwise_cons (List.pairwise_append.mp hascending).2.1 hother hend).le

/-! ## Globs with a literal front -/

/-- Characters that stand for themselves in a slice glob. -/
def Literal (front : List Char) : Prop :=
  ∀ c ∈ front, c ∉ ['*', '?', '(', ')']

theorem tokens_cons_of_literal {c : Char} (hc : c ∉ ['*', '?', '(', ')']) (rest : List Char) :
    tokens (c :: rest) = (tokens rest).map (.char c :: ·) := by
  simp only [List.mem_cons, List.not_mem_nil, or_false, not_or] at hc
  obtain ⟨hstar, hmark, hopen, hclose⟩ := hc
  rw [tokens]
  · simp [hopen, hclose]
  all_goals simp_all

theorem tokens_append_of_literal {front : List Char} (hfront : Literal front) (rest : List Char) :
    tokens (front ++ rest) = (tokens rest).map (front.map .char ++ ·) := by
  induction front with
  | nil => cases hrest : tokens rest <;> simp [hrest, Except.map]
  | cons c front ih =>
      obtain ⟨hc, hfront⟩ := List.forall_mem_cons.mp hfront
      rw [List.cons_append, tokens_cons_of_literal hc, ih hfront]
      cases tokens rest <;> rfl

/-- The parts of a glob that starts with a literal front and a capture of segments. -/
theorem exists_parts_of_literal {front back : List Char} {parts : List Token}
    (hfront : Literal front)
    (hparts : tokens (front ++ Capture.path.written ++ '/' :: back) = .ok parts)
    (hone : captures parts = 1) :
    ∃ more, parts = front.map .char ++ .capturePath :: .char '/' :: more ∧
      Renders (.char '/' :: more) ('/' :: back) := by
  have htokens : tokens (Capture.path.written ++ '/' :: back) =
      (tokens ('/' :: back)).map (.capturePath :: ·) := rfl
  rw [List.append_assoc, tokens_append_of_literal hfront, htokens] at hparts
  cases hback : tokens ('/' :: back) with
  | error c =>
      rw [hback] at hparts
      cases hparts
  | ok behind =>
      rw [hback] at hparts
      obtain rfl := Except.ok.inj hparts
      obtain ⟨more, -, rfl⟩ := exists_tokens_of_map
        ((tokens_cons_of_literal (by decide) back).symm.trans hback)
      refine ⟨more, rfl, renders_of_tokens hback ?_⟩
      have hnone : captures (front.map .char) = 0 := by simp [captures, Token.isCapture]
      rw [captures, List.countP_append] at hone
      change captures (front.map .char) + captures (.capturePath :: .char '/' :: more) = 1 at hone
      rw [hnone, captures_cons] at hone
      simpa [Token.isCapture] using hone

theorem prefers_literal_parts_iff {front : List Char} {parts : List Token} {stop : Place} :
    (partsRegex (front.map .char ++ parts)).Prefers p stop ↔
      ∃ rest, p.after = front ++ rest ∧ (partsRegex parts).Prefers (p.past front) stop := by
  induction front generalizing p with
  | nil => simp
  | cons c front ih =>
      rw [List.map_cons, List.cons_append, partsRegex, Token.regex, Regex.prefers_seq_char_iff]
      constructor
      · rintro ⟨rest, hafter, hstop⟩
        obtain ⟨tail, htail, hstop⟩ := ih.mp hstop
        have hrest : (p.past [c]).after = rest := Place.after_past_of_append hafter
        refine ⟨tail, by rw [hafter, ← hrest, htail, List.cons_append], ?_⟩
        rwa [Place.past_cons]
      · rintro ⟨tail, hafter, hstop⟩
        refine ⟨front ++ tail, hafter, ih.mpr ⟨tail, Place.after_past_of_append hafter, ?_⟩⟩
        rwa [← Place.past_cons]

/-- The unit starts with the front, the segments follow with `/` between them, and then a text that
the back stands for. -/
def Reaches (front back unit : List Char) (segments : List (List Char)) : Prop :=
  segments ≠ [] ∧ (∀ part ∈ segments, part ≠ [] ∧ '/' ∉ part) ∧
    ∃ behind rest, unit = front ++ ['/'].intercalate segments ++ behind ++ rest ∧ Fits back behind

theorem count_intercalate {segments : List (List Char)} (hne : segments ≠ [])
    (hsegments : ∀ part ∈ segments, part ≠ [] ∧ '/' ∉ part) :
    (['/'].intercalate segments).count '/' + 1 = segments.length := by
  induction segments with
  | nil => exact absurd rfl hne
  | cons first segments ih =>
      obtain ⟨hfirst, hsegments⟩ := List.forall_mem_cons.mp hsegments
      have hnone : first.count '/' = 0 := List.count_eq_zero.mpr hfirst.2
      cases segments with
      | nil => simp [hnone]
      | cons second segments =>
          have hrest := ih (List.cons_ne_nil _ _) hsegments
          rw [List.intercalate_cons_cons, List.count_append, List.count_append, hnone,
            List.length_cons, ← hrest]
          simp [Nat.add_comm]

section Reaching

variable {front back unit : List Char} {segments : List (List Char)} {parts : List Token}

theorem Reaches.listed (hback : Renders parts back) (hreaches : Reaches front back unit segments)
    (hp : p = (Place.start unit).past front) :
    p.past (['/'].intercalate segments) ∈ (segmentPath false).ends p ∧
      (partsRegex parts).ends ((p.past (['/'].intercalate segments)).marked 1 p.index) ≠ [] := by
  obtain ⟨hne, hsegments, behind, rest, hunit, hfits⟩ := hreaches
  have hafter : p.after = ['/'].intercalate segments ++ (behind ++ rest) := by
    rw [hp]
    apply Place.after_past_of_append
    simpa [Place.start] using hunit
  have hbehind : (p.past (['/'].intercalate segments)).after = behind ++ rest :=
    Place.after_past_of_append hafter
  constructor
  · apply (Regex.mem_ends_iff rfl).mpr
    exact ⟨_, mem_words_segmentPath.mpr ⟨segments, hne, hsegments, rfl⟩,
      ⟨_, hafter.symm⟩, rfl⟩
  · apply List.ne_nil_of_mem
    exact (Regex.mem_ends_iff hback.2.1).mpr
      ⟨behind, (hback.2.2 behind).mpr hfits, ⟨rest, hbehind.symm⟩, rfl⟩

theorem exists_reaches_of_listed {stop : Place} {tail : List Char} (hback : Renders parts back)
    (hunit : unit = front ++ tail) (hp : p = (Place.start unit).past front)
    (hq : q ∈ (segmentPath false).ends p)
    (hstop : stop ∈ (partsRegex parts).ends (q.marked 1 p.index)) :
    ∃ segments, Reaches front back unit segments ∧ q = p.past (['/'].intercalate segments) := by
  obtain ⟨label, hlabel, ⟨more, hmore⟩, rfl⟩ := (Regex.mem_ends_iff rfl).mp hq
  obtain ⟨segments, hne, hsegments, rfl⟩ := mem_words_segmentPath.mp hlabel
  obtain ⟨behind, hbehind, ⟨rest, hrest⟩, -⟩ := (Regex.mem_ends_iff hback.2.1).mp hstop
  have hafter : p.after = tail := by
    rw [hp]
    exact Place.after_past_of_append hunit
  have hmore' : behind ++ rest = more :=
    hrest.trans (Place.after_past_of_append hmore.symm)
  refine ⟨segments, ⟨hne, hsegments, behind, rest, ?_, (hback.2.2 behind).mp hbehind⟩, rfl⟩
  rw [hunit, ← hafter, ← hmore, ← hmore']
  simp

theorem exists_prefers_of_reaches {more : List Token}
    (hback : Renders (.char '/' :: more) ('/' :: back))
    (hreaches : Reaches front ('/' :: back) unit segments) :
    ∃ stop, (partsRegex (front.map .char ++ .capturePath :: .char '/' :: more)).Prefers
      (Place.start unit) stop := by
  obtain ⟨hmem, hne⟩ := hreaches.listed hback rfl
  obtain ⟨stop, hstop⟩ := List.exists_mem_of_ne_nil _ hne
  obtain ⟨-, -, behind, rest, hunit, -⟩ := hreaches
  have hreads : (partsRegex (.capturePath :: .char '/' :: more)).Reads
      ((Place.start unit).past front) stop :=
    ⟨_, ⟨_, Regex.reads_of_mem_ends hmem, rfl⟩, Regex.reads_of_mem_ends hstop⟩
  obtain ⟨place, hplace⟩ := Regex.exists_prefers_of_reads hreads
  rw [List.append_assoc, List.append_assoc] at hunit
  exact ⟨place, prefers_literal_parts_iff.mpr ⟨_, hunit, hplace⟩⟩

/-- What is captured when a whole glob is read is made of the fewest segments that the rest of it
allows. -/
theorem exists_fewest_of_prefers {more : List Token} {stop : Place}
    (hback : Renders (.char '/' :: more) ('/' :: back))
    (hstop : (partsRegex (front.map .char ++ .capturePath :: .char '/' :: more)).Prefers
      (Place.start unit) stop) :
    ∃ segments, Reaches front ('/' :: back) unit segments ∧
      Regex.Match.group? ⟨0, stop.index, stop.marks⟩ unit 1 = some (['/'].intercalate segments) ∧
      ∀ others, Reaches front ('/' :: back) unit others → segments.length ≤ others.length := by
  obtain ⟨tail, hunit, hstop⟩ := prefers_literal_parts_iff.mp hstop
  have hunit : unit = front ++ tail := hunit
  obtain ⟨q, hq, hstop, hfirst⟩ :=
    exists_first_of_prefers (fun place hinside => ends_slash_of_inside hinside _) hstop
  obtain ⟨segments, hreaches, rfl⟩ := exists_reaches_of_listed hback hunit rfl hq hstop
  refine ⟨segments, hreaches, ?_, ?_⟩
  · obtain ⟨-, -, behind, rest, hcut, -⟩ := hreaches
    have hmarks := (Regex.reads_of_mem_ends hstop).marks_eq hback.2.1
    refine Regex.group?_of_find? front (behind ++ rest) (by simpa using hcut) ?_
    simp [hmarks, Place.start]
  · intro others hothers
    have hindex := hfirst _ (hothers.listed hback rfl).1 (hothers.listed hback rfl).2
    obtain ⟨hne, hsegments, behind, rest, hcut, -⟩ := hreaches
    obtain ⟨hne', hsegments', behind', rest', hcut', -⟩ := hothers
    rw [hunit, List.append_assoc, List.append_assoc] at hcut hcut'
    have hahead : ['/'].intercalate segments <+: tail := ⟨_, (List.append_cancel_left hcut).symm⟩
    have hahead' : ['/'].intercalate others <+: tail := ⟨_, (List.append_cancel_left hcut').symm⟩
    -- Both texts start where the front ends, so the shorter one starts the longer one.
    have hstarts : ['/'].intercalate segments <+: ['/'].intercalate others :=
      List.prefix_of_prefix_length_le hahead hahead' (by simpa using hindex)
    have hcount := hstarts.sublist.count_le '/'
    rw [← count_intercalate hne hsegments, ← count_intercalate hne' hsegments']
    omega

end Reaching

end SliceGlob

namespace SlicePattern

open SliceGlob

/-- A unit has a label if some whole segments behind the front are followed by what the rest of the
glob stands for, and the label is made of the fewest such segments. -/
theorem label?_fewest_segments {text : String} {pattern : SlicePattern} {front back : List Char}
    (hpattern : ofGlob text = .ok pattern)
    (htext : text.toList = front ++ Capture.path.written ++ '/' :: back) (hfront : Literal front)
    (unit : String) :
    ((pattern.label? unit).isSome ↔
        ∃ segments, Reaches front ('/' :: back) unit.toList segments) ∧
      ∀ label, pattern.label? unit = some label →
        ∃ segments, Reaches front ('/' :: back) unit.toList segments ∧
          label.toList = ['/'].intercalate segments ∧
          ∀ others, Reaches front ('/' :: back) unit.toList others →
            segments.length ≤ others.length := by
  obtain ⟨parts, hparts, hone, -, rfl⟩ := ofGlob_eq_ok_iff.mp hpattern
  obtain ⟨more, rfl, hback⟩ := exists_parts_of_literal hfront (htext ▸ hparts) hone
  cases hends : ((partsRegex (front.map .char ++ .capturePath :: .char '/' :: more)).ends
      (Regex.Place.start unit.toList)).head? with
  | none =>
      have hnone : label? ⟨text, .glob (SliceGlob.regex
          (front.map .char ++ .capturePath :: .char '/' :: more))⟩ unit = none := by
        simp [label?_glob, hends]
      rw [hnone]
      refine ⟨iff_of_false (by simp) ?_, by simp⟩
      rintro ⟨segments, hreaches⟩
      obtain ⟨stop, hstop⟩ := exists_prefers_of_reaches hback hreaches
      rw [Regex.Prefers, hends] at hstop
      cases hstop
  | some stop =>
      obtain ⟨segments, hreaches, hgroup, hfewest⟩ := exists_fewest_of_prefers hback hends
      have htakes : Capture.path.Takes (['/'].intercalate segments) :=
        ⟨segments, hreaches.1, hreaches.2.1, rfl⟩
      have hne : ['/'].intercalate segments ≠ [] := htakes.ne_nil
      have hsome : label? ⟨text, .glob (SliceGlob.regex
          (front.map .char ++ .capturePath :: .char '/' :: more))⟩ unit =
            some (String.ofList (['/'].intercalate segments)) := by
        simp [label?_glob, hends, hgroup, hne]
      rw [hsome]
      refine ⟨iff_of_true rfl ⟨segments, hreaches⟩, ?_⟩
      intro label hlabel
      obtain rfl := Option.some.inj hlabel
      exact ⟨segments, hreaches, String.toList_ofList, hfewest⟩

/-- Two ways to go on with the rest of the glob, of which the one with fewer segments is taken. -/
theorem label?_fewest_segments_twice :
    ∃ pattern, ofGlob "src/(**)/api" = .ok pattern ∧
      "src/(**)/api".toList = "src/".toList ++ Capture.path.written ++ '/' :: "api".toList ∧
      Literal "src/".toList ∧
      pattern.label? "src/shop/cart/api/v1/api/index.ts" = some "shop/cart" ∧
      ∃ segments, Reaches "src/".toList "/api".toList "src/shop/cart/api/v1/api/index.ts".toList
          segments ∧
        "shop/cart".toList = ['/'].intercalate segments ∧
        ∀ others, Reaches "src/".toList "/api".toList
            "src/shop/cart/api/v1/api/index.ts".toList others →
          segments.length ≤ others.length := by
  have hpattern : ofGlob "src/(**)/api" = .ok ⟨"src/(**)/api", .glob (SliceGlob.regex
      [.char 's', .char 'r', .char 'c', .char '/', .capturePath, .char '/', .char 'a', .char 'p',
        .char 'i'])⟩ :=
    ofGlob_eq_ok_iff.mpr ⟨_, by decide +kernel, rfl, by decide +kernel, rfl⟩
  have htext : "src/(**)/api".toList =
      "src/".toList ++ Capture.path.written ++ '/' :: "api".toList := by
    decide
  have hfront : Literal "src/".toList := by simp [Literal]
  have hlabel : label? ⟨"src/(**)/api", .glob (SliceGlob.regex
      [.char 's', .char 'r', .char 'c', .char '/', .capturePath, .char '/', .char 'a', .char 'p',
        .char 'i'])⟩ "src/shop/cart/api/v1/api/index.ts" = some "shop/cart" := by
    rw [label?_glob]
    cbv
  exact ⟨_, hpattern, htext, hfront, hlabel,
    (label?_fewest_segments hpattern htext hfront "src/shop/cart/api/v1/api/index.ts").2 _ hlabel⟩

end SlicePattern

end ImportRules
