import ImportRules.Proofs.Regex.Preference
import Mathlib.Data.List.Infix
/-!
# Searching a text from left to right

A search passes over text in which no match can start, and takes the preferred match where one can.
A loop that prefers few rounds lists all ends of its run from the shortest on, so that it stops at
the first one from which the rest of the expression can go on.
-/

namespace ImportRules.Regex

variable {r first second body : Regex} {p q stop : Place} {accepts : Char → Bool} {c : Char}
  {word rest lead tail : List Char} {free : Nat} {previous : Option Nat}

/-! ## Loops that prefer few rounds -/

theorem Place.pairwise_distinct (places : List Place) :
    (distinct places).Pairwise fun place other => place.index ≠ other.index := by
  refine (eraseDupsBy_pairwise _ places).imp ?_
  intro place other hother
  exact (beq_eq_false_iff_ne.mp hother).symm

theorem Place.distinct_of_pairwise {places : List Place}
    (hplaces : places.Pairwise fun place other => place.index ≠ other.index) :
    distinct places = places := by
  induction places with
  | nil => rfl
  | cons place places ih =>
      obtain ⟨hplace, hplaces⟩ := List.pairwise_cons.mp hplaces
      have hkept : places.filter (fun other => decide ((other.index == place.index) = false)) =
          places :=
        List.filter_eq_self.mpr fun other hother => by simpa using (hplace other hother).symm
      have hrest := ih hplaces
      rw [distinct] at hrest ⊢
      rw [List.eraseDupsBy_cons, hkept, hrest]

theorem Place.pairwise_index_inits (p : Place) (word : List Char) :
    (word.inits.map p.past).Pairwise fun place other => place.index ≠ other.index := by
  induction word generalizing p with
  | nil => simp
  | cons c word ih =>
      rw [map_past_inits_cons]
      refine List.pairwise_cons.mpr ⟨?_, ih (p.past [c])⟩
      intro other hother
      obtain ⟨front, -, rfl⟩ := List.mem_map.mp hother
      simp only [index_past, List.length_singleton]
      omega

/-- Where no round has ended yet, a lazy loop leaves before it tries another one. -/
theorem runLoop_roundEnd_lazy {body : Place → List Place} {turns : Nat} {begun ended : List Nat}
    {pending : List LoopStep} (hbegun : q.index ∉ begun) (hended : q.index ∉ ended) :
    runLoop body false (turns + 1) begun ended (.roundEnd q :: pending) =
      q :: runLoop body false turns (q.index :: begun) (q.index :: ended)
        ((body q).map LoopStep.roundEnd ++ pending) := by
  simp [runLoop, hbegun, hended]

/-- A lazy loop over single characters leaves after every round. -/
theorem runLoop_lazy_one {turns : Nat} {begun ended : List Nat} (hafter : q.after = word ++ rest)
    (hword : ∀ c ∈ word, accepts c = true) (hrest : ∀ c ∈ rest.head?, accepts c = false)
    (hturns : q.after.length < turns) (hbegun : ∀ index ∈ begun, index < q.index)
    (hended : ∀ index ∈ ended, index < q.index) :
    runLoop (Regex.one accepts).ends false turns begun ended [.roundEnd q] =
      word.inits.map q.past := by
  induction word generalizing q turns begun ended with
  | nil =>
      have hbody : (Regex.one accepts).ends q = [] :=
        ends_eq_nil_of_head rfl (by simpa [hafter, startsWith] using hrest)
      obtain ⟨turns, rfl⟩ : ∃ fewer, turns = fewer + 1 := ⟨turns - 1, by omega⟩
      have hfresh : q.index ∉ ended := fun hmem => lt_irrefl _ (hended _ hmem)
      simp [runLoop, hfresh, hbody]
  | cons c word ih =>
      obtain ⟨hc, hword⟩ := List.forall_mem_cons.mp hword
      have hnext : (q.past [c]).after = word ++ rest := Place.after_past_of_append hafter
      have hlength : q.after.length = (q.past [c]).after.length + 1 := by simp [hafter]
      have hpassed : ∀ {seen : List Nat}, (∀ index ∈ seen, index < q.index) →
          ∀ index ∈ q.index :: seen, index < (q.past [c]).index :=
        fun hseen => List.forall_mem_cons.mpr
          ⟨Nat.lt_succ_self _, fun index hindex => Nat.lt_succ_of_lt (hseen index hindex)⟩
      obtain ⟨turns, rfl⟩ : ∃ fewer, turns = fewer + 1 := ⟨turns - 1, by omega⟩
      have hfresh : q.index ∉ ended := fun hmem => lt_irrefl _ (hended _ hmem)
      have hopen : q.index ∉ begun := fun hmem => lt_irrefl _ (hbegun _ hmem)
      have hlater := ih hnext hword (by omega : _ < turns) (hpassed hbegun) (hpassed hended)
      rw [runLoop_roundEnd_lazy hopen hfresh, ends_one_of_accepts hafter hc,
        Place.map_past_inits_cons, ← hlater]
      rfl

theorem ends_manyLazy_one (hafter : p.after = word ++ rest) (hword : ∀ c ∈ word, accepts c = true)
    (hrest : ∀ c ∈ rest.head?, accepts c = false) :
    (manyLazy (.one accepts)).ends p = word.inits.map p.past := by
  rw [manyLazy, ends, zeroOrMore, ← Place.distinct_of_pairwise (p.pairwise_index_inits word)]
  congr 1
  cases word with
  | nil =>
      have hbody : (Regex.one accepts).ends p = [] :=
        ends_eq_nil_of_head rfl (by simpa [hafter, startsWith] using hrest)
      simp [runLoop, hbody]
  | cons c word =>
      obtain ⟨hc, hword⟩ := List.forall_mem_cons.mp hword
      have hnext : (p.past [c]).after = word ++ rest := Place.after_past_of_append hafter
      have hturns : (p.past [c]).after.length < p.after.length + 1 := by
        rw [hnext, hafter, List.cons_append, List.length_cons]
        omega
      have hloop : runLoop (Regex.one accepts).ends false (p.after.length + 1) [p.index] []
          [.roundEnd (p.past [c])] = word.inits.map (p.past [c]).past :=
        runLoop_lazy_one hnext hword hrest hturns (by simp) (by simp)
      rw [Place.map_past_inits_cons, ← hloop]
      simp [runLoop, ends_one_of_accepts hafter hc]

/-- Of the places where the first part can stop, the first one is taken from which the second part
can go on. -/
theorem Prefers.seq_of_ends {before behind : List Place}
    (hfirst : first.ends p = before ++ q :: behind)
    (hbefore : ∀ place ∈ before, second.ends place = []) (hsecond : second.Prefers q stop) :
    (Regex.seq first second).Prefers p stop := by
  obtain ⟨more, hmore⟩ := List.head?_eq_some_iff.mp hsecond
  have hnone : before.flatMap second.ends = [] := List.flatMap_eq_nil_iff.mpr hbefore
  rw [Prefers, ends, Place.head?_distinct, hfirst, List.flatMap_append, hnone, List.nil_append,
    List.flatMap_cons, hmore]
  rfl

/-- Without another way to the index of a place, the place itself is kept. -/
theorem Place.mem_distinct_of_index {places : List Place} (hp : p ∈ places)
    (hplaces : ∀ other ∈ places, other.index = p.index → other = p) : p ∈ distinct places := by
  obtain ⟨other, hother, hindex⟩ := exists_mem_distinct hp
  exact hplaces other (mem_of_mem_distinct hother) hindex ▸ hother

/-- An optional part is left out if nothing can be read behind it. -/
theorem Prefers.optionalThen_none (hmoves : ∀ q ∈ body.ends p, q.index ≠ p.index)
    (hnone : ∀ q ∈ body.ends p, second.ends q = []) (hsecond : second.Prefers p stop) :
    (Regex.seq (.optional body) second).Prefers p stop := by
  have hends : (Regex.optional body).ends p =
      Place.distinct (Place.distinct (body.ends p ++ [p])) := by
    simp [Regex.optional, ends, exactly, atMost]
  have hcases : ∀ {q}, q ∈ Place.distinct (body.ends p ++ [p]) → q ∈ body.ends p ∨ q = p :=
    fun hq => by simpa using Place.mem_of_mem_distinct hq
  have hmem : p ∈ Place.distinct (Place.distinct (body.ends p ++ [p])) := by
    refine Place.mem_distinct_of_index (Place.mem_distinct_of_index (by simp) ?_) ?_
    · intro other hother hindex
      rcases List.mem_append.mp hother with hother | hother
      · exact absurd hindex (hmoves other hother)
      · exact List.mem_singleton.mp hother
    · intro other hother hindex
      exact (hcases hother).resolve_left fun hbody => hmoves other hbody hindex
  obtain ⟨before, behind, hsplit, hbefore⟩ := List.eq_append_cons_of_mem hmem
  refine Prefers.seq_of_ends (hends.trans hsplit) ?_ hsecond
  intro q hq
  have hlisted : q ∈ Place.distinct (body.ends p ++ [p]) :=
    Place.mem_of_mem_distinct (hsplit ▸ List.mem_append_left _ hq)
  refine hnone q ((hcases hlisted).resolve_right ?_)
  rintro rfl
  exact hbefore hq

theorem exists_inits_append (word more : List Char) :
    ∃ before behind, (word ++ more).inits = before ++ word :: behind ∧
      ∀ front ∈ before, ∃ c inner, word = front ++ c :: inner := by
  induction word with
  | nil =>
      have hinits : ([] ++ more).inits = [] ++ [] :: more.inits.tail := by cases more <;> rfl
      exact ⟨[], more.inits.tail, hinits, by simp⟩
  | cons c word ih =>
      obtain ⟨before, behind, hinits, hbefore⟩ := ih
      refine ⟨[] :: before.map (c :: ·), behind.map (c :: ·), by simp [hinits], ?_⟩
      rintro front (_ | ⟨_, hfront⟩)
      · exact ⟨c, word, rfl⟩
      · obtain ⟨shorter, hshorter, rfl⟩ := List.mem_map.mp hfront
        obtain ⟨d, inner, hinner⟩ := hbefore shorter hshorter
        exact ⟨d, inner, by rw [hinner]; rfl⟩

/-- A group that prefers to be short ends where the rest of the expression can go on for the first
time. -/
theorem Prefers.lazyGroupThen {other : Char → Bool} {more : List Char} {index : Nat}
    (hafter : p.after = c :: word ++ (more ++ rest)) (hc : accepts c = true)
    (hword : ∀ d ∈ word ++ more, other d = true) (hrest : ∀ d ∈ rest.head?, other d = false)
    (hearly : ∀ front behind, word = front ++ behind → behind ≠ [] →
      second.ends ((p.past (c :: front)).marked index p.index) = [])
    (hsecond : second.Prefers ((p.past (c :: word)).marked index p.index) stop) :
    (Regex.seq (.group index (.seq (.one accepts) (manyLazy (.one other)))) second).Prefers p
      stop := by
  have hnext : (p.past [c]).after = (word ++ more) ++ rest := by
    rw [List.append_assoc]
    exact Place.after_past_of_append hafter
  obtain ⟨before, behind, hinits, hbefore⟩ := exists_inits_append word more
  have hbody : (Regex.seq (.one accepts) (manyLazy (.one other))).ends p =
      (before ++ word :: behind).map (p.past [c]).past := by
    rw [ends, ends_one_of_accepts hafter hc, List.flatMap_singleton,
      ends_manyLazy_one hnext hword hrest,
      Place.distinct_of_pairwise (Place.pairwise_index_inits _ _), hinits]
  have hgroup : (Regex.group index (.seq (.one accepts) (manyLazy (.one other)))).ends p =
      (before ++ word :: behind).map fun front =>
        (p.past (c :: front)).marked index p.index := by
    rw [ends, hbody, List.map_map]
    apply List.map_congr_left
    intro front _
    rw [Place.past_cons p c front]
    rfl
  rw [List.map_append, List.map_cons] at hgroup
  refine seq_of_ends hgroup ?_ hsecond
  intro place hplace
  obtain ⟨front, hfront, rfl⟩ := List.mem_map.mp hplace
  obtain ⟨d, inner, hinner⟩ := hbefore front hfront
  exact hearly front (d :: inner) hinner (List.cons_ne_nil d inner)

/-! ## Loops that prefer many rounds -/

theorem Place.pairwise_index_reverse (p : Place) (word : List Char) :
    (word.inits.map p.past).reverse.Pairwise fun place other => place.index ≠ other.index :=
  List.pairwise_reverse.mpr ((p.pairwise_index_inits word).imp Ne.symm)

theorem ends_many_one (hafter : p.after = word ++ rest) (hword : ∀ c ∈ word, accepts c = true)
    (hrest : ∀ c ∈ rest.head?, accepts c = false) :
    (many (.one accepts)).ends p = (word.inits.map p.past).reverse := by
  rw [many, ends, zeroOrMore, if_pos rfl,
    ← Place.distinct_of_pairwise (p.pairwise_index_reverse word)]
  congr 1
  cases word with
  | nil =>
      have hbody : (Regex.one accepts).ends p = [] :=
        ends_eq_nil_of_head rfl (by simpa [hafter, startsWith] using hrest)
      simp [runLoop, hbody]
  | cons c word =>
      rw [Place.map_past_inits_cons, List.reverse_cons]
      exact runLoop_map_one [p] hafter hword hrest

/-! ## All matches of a text -/

theorem Place.eq_of_marks_nil (hmarks : p.marks = []) (hafter : p.after = rest) :
    p = ⟨p.index, p.before, rest, []⟩ := by
  obtain ⟨index, before, after, marks⟩ := p
  cases hmarks
  cases hafter
  rfl

/-- No match starts inside a word. -/
def Silent (r : Regex) (p : Place) (word : List Char) : Prop :=
  ∀ front behind, word = front ++ behind → behind ≠ [] → r.ends (p.past front) = []

theorem Silent.append (hlead : r.Silent p lead) (htail : r.Silent (p.past lead) tail) :
    r.Silent p (lead ++ tail) := by
  intro front behind heq hbehind
  rcases List.append_eq_append_iff.mp heq with ⟨inner, rfl, rfl⟩ | ⟨inner, rfl, rfl⟩
  · rw [Place.past_append]
    exact htail inner behind rfl hbehind
  · cases inner with
    | nil =>
        rw [List.append_nil] at htail
        simpa using htail [] tail rfl (by simpa using hbehind)
    | cons c inner => exact hlead front (c :: inner) rfl (List.cons_ne_nil c inner)

theorem matchAt?_eq_none (hnone : r.ends p = []) : r.matchAt? p = none := by
  rw [matchAt?, hnone]
  rfl

theorem searchAllFrom_of_silent (hmarks : p.marks = []) (hafter : p.after = word ++ rest)
    (hsilent : r.Silent p word) :
    searchAllFrom r p.index p.before free previous (word ++ rest) =
      searchAllFrom r (p.past word).index (p.past word).before free previous rest := by
  induction word generalizing p with
  | nil => rfl
  | cons c word ih =>
      have hnone := matchAt?_eq_none (hsilent [] (c :: word) rfl (List.cons_ne_nil c word))
      rw [Place.past_nil, Place.eq_of_marks_nil hmarks hafter, List.cons_append] at hnone
      have hnext : (p.past [c]).after = word ++ rest := Place.after_past_of_append hafter
      have hlater := ih (p := p.past [c]) hmarks hnext fun front behind heq hbehind => by
        rw [← Place.past_cons]
        exact hsilent (c :: front) behind (by rw [heq]; rfl) hbehind
      rw [Place.past_cons, ← hlater, List.cons_append, searchAllFrom]
      simp only [hnone, ite_self]
      rfl

theorem searchAllFrom_of_prefers (hmarks : p.marks = []) (hafter : p.after = c :: rest)
    (hfree : free ≤ p.index) (hr : r.Prefers p stop) (hstop : p.index < stop.index) :
    searchAllFrom r p.index p.before free previous (c :: rest) =
      ⟨p.index, stop.index, stop.marks⟩ ::
        searchAllFrom r (p.past [c]).index (p.past [c]).before stop.index (some stop.index)
          rest := by
  have hfound : r.matchAt? p = some ⟨p.index, stop.index, stop.marks⟩ := by
    rw [matchAt?, hr]
    rfl
  rw [Place.eq_of_marks_nil hmarks hafter] at hfound
  have hne : (stop.index == p.index) = false := by simpa using hstop.ne'
  rw [searchAllFrom, if_neg (by omega)]
  simp only [hfound, hne, Bool.false_and]
  rfl

/-- A search over a part of the text in which one match starts, and none but that one. -/
theorem searchAllFrom_hit (hmarks : p.marks = []) (hafter : p.after = lead ++ (c :: tail) ++ rest)
    (hfree : free ≤ p.index) (hlead : r.Silent p lead) (hr : r.Prefers (p.past lead) stop)
    (hstop : (p.past lead).index < stop.index) (htail : r.Silent (p.past (lead ++ [c])) tail) :
    searchAllFrom r p.index p.before free previous (lead ++ (c :: tail) ++ rest) =
      ⟨(p.past lead).index, stop.index, stop.marks⟩ ::
        searchAllFrom r (p.past (lead ++ c :: tail)).index (p.past (lead ++ c :: tail)).before
          stop.index (some stop.index) rest := by
  rw [List.append_assoc] at hafter ⊢
  have hmatch : (p.past lead).after = c :: (tail ++ rest) := Place.after_past_of_append hafter
  have hbehind : ((p.past lead).past [c]).after = tail ++ rest := Place.after_past_of_append hmatch
  have hplace : p.past (lead ++ c :: tail) = ((p.past lead).past [c]).past tail := by
    rw [Place.past_append, Place.past_cons]
  rw [Place.past_append] at htail
  rw [searchAllFrom_of_silent hmarks hafter hlead, List.cons_append,
    searchAllFrom_of_prefers (p := p.past lead) hmarks hmatch (by simp; omega) hr hstop,
    searchAllFrom_of_silent (p := (p.past lead).past [c]) hmarks hbehind htail, hplace]

theorem searchAllFrom_nil (hmarks : p.marks = []) (hafter : p.after = [])
    (hnullable : r.isNullable = false) :
    searchAllFrom r p.index p.before free previous [] = [] := by
  have hnone := matchAt?_eq_none (ends_eq_nil_of_end hnullable hafter)
  rw [Place.eq_of_marks_nil hmarks hafter] at hnone
  simp [searchAllFrom, hnone]

/-- An index, at a place or behind it, at which the expression can be read. -/
def ReadsAt (r : Regex) (p : Place) (index : Nat) : Prop :=
  ∃ front behind, p.after = front ++ behind ∧ index = p.index + front.length ∧
    r.ends (p.past front) ≠ []

theorem readsAt_of_matchAt? {found : Match} (hfound : r.matchAt? p = some found) :
    r.ReadsAt p found.first := by
  obtain ⟨stop, hstop, rfl⟩ := Option.map_eq_some_iff.mp hfound
  refine ⟨[], p.after, rfl, rfl, ?_⟩
  rw [Place.past_nil]
  exact List.ne_nil_of_mem (List.mem_of_mem_head? hstop)

theorem ReadsAt.of_past {index : Nat} (hafter : p.after = c :: rest)
    (hindex : r.ReadsAt (p.past [c]) index) : r.ReadsAt p index := by
  obtain ⟨front, behind, hsplit, rfl, hends⟩ := hindex
  rw [Place.after_past_of_append hafter] at hsplit
  refine ⟨c :: front, behind, by rw [hafter, hsplit]; rfl, ?_, by rwa [Place.past_cons]⟩
  rw [Place.index_past, List.length_singleton, List.length_cons]
  omega

/-- A search finds matches only where the expression can be read. -/
theorem readsAt_of_mem_searchAllFrom {index : Nat} {before : Option Char} {text : List Char}
    {found : Match} (hfound : found ∈ searchAllFrom r index before free previous text) :
    r.ReadsAt ⟨index, before, text, []⟩ found.first := by
  induction text generalizing index before free previous with
  | nil =>
      rw [searchAllFrom] at hfound
      split at hfound
      · cases hfound
      · split at hfound
        next other hother =>
          split at hfound
          · cases hfound
          · exact List.mem_singleton.mp hfound ▸ readsAt_of_matchAt? hother
        next => cases hfound
  | cons c text ih =>
      have hlater : ∀ {free previous},
          found ∈ searchAllFrom r (index + 1) (some c) free previous text →
            r.ReadsAt ⟨index, before, c :: text, []⟩ found.first :=
        fun hmem => ReadsAt.of_past rfl (ih hmem)
      rw [searchAllFrom] at hfound
      split at hfound
      · exact hlater hfound
      · split at hfound
        next other hother =>
          split at hfound
          · exact hlater hfound
          · rcases List.mem_cons.mp hfound with rfl | hfound
            · exact readsAt_of_matchAt? hother
            · exact hlater hfound
        next => exact hlater hfound

/-- Where nothing can be read at the start of a text, all matches start behind it. -/
theorem first_pos_of_mem_searchAll {text : List Char} {found : Match}
    (hnone : r.ends (Place.start text) = []) (hfound : found ∈ r.searchAll text) :
    0 < found.first := by
  obtain ⟨front, behind, -, hfirst, hends⟩ := readsAt_of_mem_searchAllFrom hfound
  have hfront : front ≠ [] := fun hnil => hends (by rw [hnil]; exact hnone)
  rw [hfirst]
  exact Nat.add_pos_right 0 (List.length_pos_iff.mpr hfront)

/-- A match at the start of a text comes first, and all others start behind it. -/
theorem exists_searchAll_eq_cons {text : List Char} (hr : r.Prefers (Place.start text) stop)
    (hstop : 0 < stop.index) :
    ∃ more, r.searchAll text = ⟨0, stop.index, stop.marks⟩ :: more ∧
      ∀ found ∈ more, 0 < found.first := by
  cases text with
  | nil =>
      have hmatch : r.matchAt? (Place.start []) = some ⟨0, stop.index, stop.marks⟩ := by
        rw [matchAt?, hr]
        rfl
      rw [Place.start] at hmatch
      exact ⟨[], by simp [searchAll, searchAllFrom, hmatch], by simp⟩
  | cons c text =>
      refine ⟨_, searchAllFrom_of_prefers rfl rfl le_rfl hr hstop, ?_⟩
      intro found hfound
      obtain ⟨front, behind, -, hfirst, -⟩ := readsAt_of_mem_searchAllFrom hfound
      rw [hfirst]
      exact Nat.add_pos_left (Nat.succ_pos _) front.length

end ImportRules.Regex
