import ImportRules.Proofs.Regex.Words
/-!
# What a regular expression prefers to read

Where an expression prefers to stop is the first of the places that it lists. If the parts of an
expression can each go where they prefer, so does the whole: no part has to be taken back. A run of
characters prefers to be as long as it can be. Where the text goes on with a character that no word
of the expression starts with, there is nothing to prefer.
-/

namespace ImportRules.Regex

/-- The expression prefers to read from the first place to the second one. -/
def Prefers (r : Regex) (p q : Place) : Prop :=
  (r.ends p).head? = some q

/-- The expression has the empty word. -/
def isNullable : Regex → Bool
  | .empty | .anchor _ => true
  | .one _ => false
  | .seq first second => first.isNullable && second.isNullable
  | .alt preferred other => preferred.isNullable || other.isNullable
  | .group _ body => body.isNullable
  | .repeated body least _ _ => least == 0 || body.isNullable

/-- Whether a word of the expression can start with a character. -/
def startsWith (c : Char) : Regex → Bool
  | .empty | .anchor _ => false
  | .one accepts => accepts c
  | .seq first second => first.startsWith c || (first.isNullable && second.startsWith c)
  | .alt preferred other => preferred.startsWith c || other.startsWith c
  | .group _ body => body.startsWith c
  | .repeated body _ _ _ => body.startsWith c

variable {p q stop : Place} {r first second body : Regex} {accepts : Char → Bool} {c : Char}
  {word rest : List Char}

theorem Place.after_past_of_append (hafter : p.after = word ++ rest) :
    (p.past word).after = rest := by
  rw [after_past, hafter, List.drop_left]

theorem Place.past_cons (p : Place) (c : Char) (word : List Char) :
    p.past (c :: word) = (p.past [c]).past word :=
  past_append p [c] word

@[simp]
theorem Place.index_marked (p : Place) (group first : Nat) :
    (p.marked group first).index = p.index := rfl

@[simp]
theorem Place.marks_marked (p : Place) (group first : Nat) :
    (p.marked group first).marks = ⟨group, first, p.index⟩ :: p.marks := rfl

/-! ## Nothing to read -/

/-- A word starts the way that the words of the expression can. -/
def Starts (r : Regex) : List Char → Prop
  | [] => r.isNullable = true
  | c :: _ => r.startsWith c = true

theorem Starts.append (hfirst : first.Starts word) (hsecond : second.Starts rest) :
    (Regex.seq first second).Starts (word ++ rest) := by
  cases word with
  | nil =>
      cases rest with
      | nil => exact Bool.and_eq_true_iff.mpr ⟨hfirst, hsecond⟩
      | cons c tail =>
          exact Bool.or_eq_true_iff.mpr (.inr (Bool.and_eq_true_iff.mpr ⟨hfirst, hsecond⟩))
  | cons c tail => exact Bool.or_eq_true_iff.mpr (.inl hfirst)

/-- The words of several rounds start like those of one round, and without a round there is only
the empty word. -/
theorem starts_of_mem_pow (hbody : ∀ word ∈ body.words, body.Starts word) {count : Nat}
    (hword : word ∈ body.words ^ count) : word = [] ∧ count = 0 ∨ body.Starts word := by
  induction count generalizing word with
  | zero => exact .inl ⟨hword, rfl⟩
  | succ count ih =>
      rw [pow_succ'] at hword
      obtain ⟨round, hround, rest, hrest, rfl⟩ := Language.mem_mul.mp hword
      right
      -- Rounds that read nothing leave the start to the rounds behind them.
      cases round with
      | nil =>
          obtain ⟨rfl, -⟩ | hstarts := ih hrest
          · exact hbody [] hround
          · exact hstarts
      | cons c tail => exact hbody (c :: tail) hround

theorem starts_of_mem_words (hword : word ∈ r.words) : r.Starts word := by
  induction r generalizing word with
  | empty | anchor _ =>
      obtain rfl := (Language.mem_one word).mp hword
      rfl
  | one accepts =>
      obtain ⟨c, hc, rfl⟩ := hword
      exact hc
  | seq first second ihfirst ihsecond =>
      obtain ⟨start, hstart, rest, hrest, rfl⟩ := mem_words_seq.mp hword
      exact (ihfirst hstart).append (ihsecond hrest)
  | alt preferred other ihpreferred ihother =>
      rcases mem_words_alt.mp hword with hword | hword
      · have hstarts := ihpreferred hword
        cases word <;> exact Bool.or_eq_true_iff.mpr (.inl hstarts)
      · have hstarts := ihother hword
        cases word <;> exact Bool.or_eq_true_iff.mpr (.inr hstarts)
  | group index body ih => exact ih hword
  | repeated body least most greedy ih =>
      obtain ⟨count, hleast, -, hword⟩ := hword
      obtain ⟨rfl, rfl⟩ | hstarts := starts_of_mem_pow (fun _ => ih) hword
      · simp [Starts, isNullable, Nat.le_zero.mp hleast]
      · cases word with
        | nil => exact Bool.or_eq_true_iff.mpr (.inr hstarts)
        | cons c tail => exact hstarts

/-- Where the text does not go on with a word of the expression, the expression lists no place. -/
theorem ends_eq_nil (hnone : ∀ word ∈ r.words, ¬word <+: p.after) : r.ends p = [] := by
  refine List.eq_nil_iff_forall_not_mem.mpr ?_
  intro q hq
  obtain ⟨word, hword, hahead, -⟩ := (reads_of_mem_ends hq).exists_word
  exact hnone word hword hahead

theorem ends_eq_nil_of_head (hnullable : r.isNullable = false)
    (hhead : ∀ c ∈ p.after.head?, r.startsWith c = false) : r.ends p = [] := by
  refine ends_eq_nil ?_
  rintro (_ | ⟨c, tail⟩) hword ⟨rest, hrest⟩
  · exact Bool.false_ne_true (hnullable.symm.trans (starts_of_mem_words hword))
  · have hc : r.startsWith c = false := hhead c (by rw [← hrest]; rfl)
    exact Bool.false_ne_true (hc.symm.trans (starts_of_mem_words hword))

theorem ends_eq_nil_of_end (hnullable : r.isNullable = false) (hafter : p.after = []) :
    r.ends p = [] :=
  ends_eq_nil_of_head hnullable (by rw [hafter]; simp)

/-- An expression without the empty word moves on in the text. -/
theorem advances_of_mem_ends (hnullable : r.isNullable = false) (hq : q ∈ r.ends p) :
    p.index < q.index ∧ q.after.length < p.after.length := by
  obtain ⟨word, hword, hahead, hsame⟩ := (reads_of_mem_ends hq).exists_word
  have hne : word ≠ [] := by
    rintro rfl
    exact Bool.false_ne_true (hnullable.symm.trans (starts_of_mem_words hword))
  have hindex : q.index = p.index + word.length := Place.index_eq_of_unmarked hsame
  have hafter : q.after = p.after.drop word.length := Place.after_eq_of_unmarked hsame
  have hlength := hahead.length_le
  have hpos := List.length_pos_of_ne_nil hne
  rw [hafter, List.length_drop]
  omega

/-! ## Preference of composed expressions -/

theorem exists_prefers_of_reads (hreads : r.Reads p q) : ∃ stop, r.Prefers p stop := by
  obtain ⟨place, hplace, -⟩ := among_ends hreads
  obtain ⟨stop, rest, hends⟩ := List.exists_cons_of_ne_nil (List.ne_nil_of_mem hplace)
  exact ⟨stop, by rw [Prefers, hends, List.head?_cons]⟩


theorem Prefers.seq (hfirst : first.Prefers p q) (hsecond : second.Prefers q stop) :
    (Regex.seq first second).Prefers p stop := by
  obtain ⟨more, hmore⟩ := List.head?_eq_some_iff.mp hfirst
  obtain ⟨further, hfurther⟩ := List.head?_eq_some_iff.mp hsecond
  rw [Prefers, ends, Place.head?_distinct, hmore, List.flatMap_cons, hfurther]
  rfl

/-- After a word has been read, the text goes on with what stands behind the word. -/
theorem Prefers.andThen (hfirst : first.Prefers p (p.past word)) (hafter : p.after = word ++ rest)
    (hsecond : (p.past word).after = rest → second.Prefers (p.past word) stop) :
    (Regex.seq first second).Prefers p stop :=
  hfirst.seq (hsecond (Place.after_past_of_append hafter))

theorem Prefers.alt_left (hfirst : first.Prefers p q) : (Regex.alt first second).Prefers p q := by
  obtain ⟨more, hmore⟩ := List.head?_eq_some_iff.mp hfirst
  rw [Prefers, ends, Place.head?_distinct, hmore]
  rfl

theorem Prefers.alt_right (hsecond : second.Prefers p q) (hfirst : first.ends p = []) :
    (Regex.alt first second).Prefers p q := by
  rw [Prefers, ends, Place.head?_distinct, hfirst, List.nil_append]
  exact hsecond

/-- The first of several expressions that can read anything is the one that is preferred. -/
theorem Prefers.choice (hr : r.Prefers p q) (before behind : List Regex)
    (hbefore : ∀ other ∈ before, other.ends p = []) :
    (Regex.choice (before ++ r :: behind)).Prefers p q := by
  induction before with
  | nil =>
      cases behind with
      | nil => exact hr
      | cons s behind => exact hr.alt_left
  | cons other before ih =>
      obtain ⟨hother, hbefore⟩ := List.forall_mem_cons.mp hbefore
      obtain ⟨s, rest, hrest⟩ : ∃ s rest, before ++ r :: behind = s :: rest :=
        List.exists_cons_of_ne_nil (by simp)
      have hlater := ih hbefore
      rw [List.cons_append, hrest]
      rw [hrest] at hlater
      exact hlater.alt_right hother

theorem Prefers.group (hbody : body.Prefers p q) (index : Nat) :
    (Regex.group index body).Prefers p (q.marked index p.index) := by
  rw [Prefers, ends, List.head?_map, hbody]
  rfl

theorem Prefers.groupThen (hbody : body.Prefers p (p.past word)) (index : Nat)
    (hafter : p.after = word ++ rest)
    (hsecond : ((p.past word).marked index p.index).after = rest →
      second.Prefers ((p.past word).marked index p.index) stop) :
    (Regex.seq (.group index body) second).Prefers p stop :=
  (hbody.group index).seq (hsecond (Place.after_past_of_append hafter))

theorem Prefers.optional (hbody : body.Prefers p q) : (Regex.optional body).Prefers p q := by
  obtain ⟨more, hmore⟩ := List.head?_eq_some_iff.mp hbody
  simp [Prefers, Regex.optional, ends, exactly, atMost, Place.head?_distinct, hmore]

theorem prefers_optional_none (hbody : body.ends p = []) : (Regex.optional body).Prefers p p := by
  simp [Prefers, Regex.optional, ends, exactly, atMost, Place.head?_distinct, hbody]

theorem prefers_textEnd (hafter : p.after = []) : (Regex.anchor .textEnd).Prefers p p := by
  simp [Prefers, ends, Anchor.holds, hafter]

/-! ## Preference of characters and runs of them -/

theorem ends_one_of_accepts (hafter : p.after = c :: rest) (hc : accepts c = true) :
    (Regex.one accepts).ends p = [p.past [c]] := by
  simp [ends, Place.next?_of_cons hafter, hc]

theorem prefers_one (hafter : p.after = c :: rest) (hc : accepts c = true) :
    (Regex.one accepts).Prefers p (p.past [c]) := by
  rw [Prefers, ends_one_of_accepts hafter hc]
  rfl

theorem prefers_char (hafter : p.after = c :: rest) : (char c).Prefers p (p.past [c]) :=
  prefers_one hafter (beq_self_eq_true c)

theorem prefers_seq_char_iff {c : Char} {stop : Place} :
    (Regex.seq (.char c) r).Prefers p stop ↔
      ∃ rest, p.after = c :: rest ∧ r.Prefers (p.past [c]) stop := by
  rw [Prefers, ends, Place.head?_distinct]
  constructor
  · intro hstop
    have hlisted : (char c).ends p ≠ [] := by
      intro hnone
      rw [hnone] at hstop
      cases hstop
    obtain ⟨place, hplace⟩ := List.exists_mem_of_ne_nil _ hlisted
    obtain ⟨word, hword, ⟨rest, hrest⟩, -⟩ := (mem_ends_iff rfl).mp hplace
    rw [mem_words_char.mp hword] at hrest
    have hchar : (char c).ends p = [p.past [c]] :=
      ends_one_of_accepts hrest.symm (beq_self_eq_true c)
    rw [hchar, List.flatMap_singleton] at hstop
    exact ⟨rest, hrest.symm, hstop⟩
  · rintro ⟨rest, hafter, hstop⟩
    have hchar : (char c).ends p = [p.past [c]] := ends_one_of_accepts hafter (beq_self_eq_true c)
    rw [hchar, List.flatMap_singleton]
    exact hstop

theorem prefers_literal {text : String} (hafter : p.after = text.toList ++ rest) :
    (literal text).Prefers p (p.past text.toList) := by
  rw [literal]
  generalize text.toList = word at hafter
  induction word generalizing p with
  | nil => rfl
  | cons c word ih =>
      have hc : (char c).Prefers p (p.past [c]) := prefers_char hafter
      cases word with
      | nil => exact hc
      | cons d word =>
          have hnext : (p.past [c]).after = d :: word ++ rest := Place.after_past_of_append hafter
          rw [Place.past_cons]
          exact hc.seq (ih hnext)

theorem mem_words_literal {text : String} : word ∈ (literal text).words ↔ word = text.toList := by
  rw [literal]
  generalize text.toList = letters
  induction letters generalizing word with
  | nil => exact Language.mem_one word
  | cons c letters ih =>
      cases letters with
      | nil => exact mem_words_char
      | cons d letters =>
          simp only [List.map_cons, sequence, mem_words_seq, mem_words_char, exists_eq_left]
          simp only [List.map_cons] at ih
          simp [ih, eq_comm]

/-- Where no round has ended yet, a greedy loop first tries another one. -/
theorem runLoop_roundEnd {body : Place → List Place} {turns : Nat} {begun ended : List Nat}
    {pending : List LoopStep} (hbegun : q.index ∉ begun) (hended : q.index ∉ ended) :
    runLoop body true (turns + 1) begun ended (.roundEnd q :: pending) =
      runLoop body true turns (q.index :: begun) (q.index :: ended)
        ((body q).map LoopStep.roundEnd ++ .leave q :: pending) := by
  simp [runLoop, hbegun, hended]

theorem Place.map_past_inits_cons (p : Place) (c : Char) (word : List Char) :
    (c :: word).inits.map p.past = p :: word.inits.map (p.past [c]).past := by
  simp only [List.inits, List.map_cons, List.map_map, past_nil]
  congr 2
  funext front
  exact past_cons p c front

theorem runLoop_leaves {body : Place → List Place} {turns : Nat} {begun ended : List Nat}
    (places : List Place) : runLoop body true turns begun ended (places.map .leave) = places := by
  induction places with
  | nil => simp [runLoop]
  | cons place places ih => rw [List.map_cons, runLoop, ih]

/-- A greedy loop over single characters leaves after the last round first. -/
theorem runLoop_greedy_one {turns : Nat} {begun ended : List Nat} (places : List Place)
    (hafter : q.after = word ++ rest) (hword : ∀ c ∈ word, accepts c = true)
    (hrest : ∀ c ∈ rest.head?, accepts c = false) (hturns : q.after.length < turns)
    (hbegun : ∀ index ∈ begun, index < q.index) (hended : ∀ index ∈ ended, index < q.index) :
    runLoop (Regex.one accepts).ends true turns begun ended (.roundEnd q :: places.map .leave) =
      (word.inits.map q.past).reverse ++ places := by
  induction word generalizing q turns begun ended places with
  | nil =>
      have hbody : (Regex.one accepts).ends q = [] :=
        ends_eq_nil_of_head rfl (by simpa [hafter, startsWith] using hrest)
      obtain ⟨turns, rfl⟩ : ∃ fewer, turns = fewer + 1 := ⟨turns - 1, by omega⟩
      rw [runLoop_roundEnd (fun hmem => lt_irrefl _ (hbegun _ hmem))
        (fun hmem => lt_irrefl _ (hended _ hmem)), hbody, List.map_nil, List.nil_append,
        ← List.map_cons, runLoop_leaves]
      simp
  | cons c word ih =>
      obtain ⟨hc, hword⟩ := List.forall_mem_cons.mp hword
      have hnext : (q.past [c]).after = word ++ rest := Place.after_past_of_append hafter
      have hlength : q.after.length = (q.past [c]).after.length + 1 := by simp [hafter]
      have hpassed : ∀ {seen : List Nat}, (∀ index ∈ seen, index < q.index) →
          ∀ index ∈ q.index :: seen, index < (q.past [c]).index :=
        fun hseen => List.forall_mem_cons.mpr
          ⟨Nat.lt_succ_self _, fun index hindex => Nat.lt_succ_of_lt (hseen index hindex)⟩
      obtain ⟨turns, rfl⟩ : ∃ fewer, turns = fewer + 1 := ⟨turns - 1, by omega⟩
      have hlater := ih (q :: places) hnext hword (by omega : _ < turns) (hpassed hbegun)
        (hpassed hended)
      rw [runLoop_roundEnd (fun hmem => lt_irrefl _ (hbegun _ hmem))
        (fun hmem => lt_irrefl _ (hended _ hmem)), ends_one_of_accepts hafter hc,
        Place.map_past_inits_cons, List.reverse_cons, List.append_assoc]
      exact hlater

/-- The loop over a run of characters, entered at the start of the run. -/
theorem runLoop_map_one (places : List Place) (hafter : p.after = c :: word ++ rest)
    (hword : ∀ d ∈ c :: word, accepts d = true) (hrest : ∀ d ∈ rest.head?, accepts d = false) :
    runLoop (Regex.one accepts).ends true (p.after.length + 1) [p.index] []
      (((Regex.one accepts).ends p).map LoopStep.roundEnd ++ places.map LoopStep.leave) =
        (word.inits.map (p.past [c]).past).reverse ++ places := by
  obtain ⟨hc, hword⟩ := List.forall_mem_cons.mp hword
  have hnext : (p.past [c]).after = word ++ rest := Place.after_past_of_append hafter
  rw [ends_one_of_accepts hafter hc]
  refine runLoop_greedy_one places hnext hword hrest ?_ ?_ ?_
  · rw [Place.after_past, List.length_drop]
    omega
  · simp
  · simp

theorem Place.head?_reverse_inits (p : Place) (word : List Char) (places : List Place) :
    ((word.inits.map p.past).reverse ++ places).head? = some (p.past word) := by
  induction word generalizing p places with
  | nil => simp
  | cons c word ih =>
      rw [map_past_inits_cons, List.reverse_cons, List.append_assoc, past_cons p c word]
      exact ih (p.past [c]) (p :: places)

theorem head?_runLoop_map_one (places : List Place) (hafter : p.after = c :: word ++ rest)
    (hword : ∀ d ∈ c :: word, accepts d = true) (hrest : ∀ d ∈ rest.head?, accepts d = false) :
    (runLoop (Regex.one accepts).ends true (p.after.length + 1) [p.index] []
      (((Regex.one accepts).ends p).map LoopStep.roundEnd ++ places.map LoopStep.leave)).head? =
        some (p.past (c :: word)) := by
  rw [runLoop_map_one places hafter hword hrest, Place.head?_reverse_inits, ← Place.past_cons]

/-- A run of characters is read as far as it goes. -/
theorem prefers_many_one (hafter : p.after = word ++ rest) (hword : ∀ c ∈ word, accepts c = true)
    (hrest : ∀ c ∈ rest.head?, accepts c = false) :
    (many (.one accepts)).Prefers p (p.past word) := by
  rw [Prefers, many, ends, zeroOrMore, Place.head?_distinct, if_pos rfl]
  cases word with
  | nil =>
      have hbody : (Regex.one accepts).ends p = [] :=
        ends_eq_nil_of_head rfl (by simpa [hafter, startsWith] using hrest)
      rw [hbody, List.map_nil, List.nil_append, runLoop]
      rfl
  | cons c word => exact head?_runLoop_map_one [p] hafter hword hrest

theorem prefers_many_one_none (hafter : ∀ c ∈ p.after.head?, accepts c = false) :
    (many (.one accepts)).Prefers p p :=
  prefers_many_one (List.nil_append p.after).symm (by simp) hafter

theorem prefers_many1_one (hafter : p.after = word ++ rest) (hne : word ≠ [])
    (hword : ∀ c ∈ word, accepts c = true) (hrest : ∀ c ∈ rest.head?, accepts c = false) :
    (many1 (.one accepts)).Prefers p (p.past word) := by
  obtain ⟨c, word, rfl⟩ := List.exists_cons_of_ne_nil hne
  rw [Prefers, many1, ends, Place.head?_distinct, exactly, List.flatMap_singleton, oneOrMore,
    Place.head?_distinct, ← List.append_nil (List.map _ _)]
  exact head?_runLoop_map_one [] hafter hword hrest

theorem prefers_space (hafter : p.after = ' ' :: rest)
    (hrest : ∀ c ∈ rest.head?, Text.isBlank c = false) :
    (many .blank).Prefers p (p.past [' ']) :=
  prefers_many_one hafter (List.forall_mem_singleton.mpr (by decide)) hrest

theorem prefers_space1 (hafter : p.after = ' ' :: rest)
    (hrest : ∀ c ∈ rest.head?, Text.isBlank c = false) :
    (many1 .blank).Prefers p (p.past [' ']) :=
  prefers_many1_one hafter (by simp) (List.forall_mem_singleton.mpr (by decide)) hrest

/-! ## Searching -/

theorem Prefers.search? {text : List Char} (hr : r.Prefers (Place.start text) stop) :
    (Regex.seq (.anchor .textStart) r).search? text = some ⟨0, stop.index, stop.marks⟩ := by
  rw [search?_textStart, matchAt?, hr]
  rfl

theorem search?_eq_none {text : List Char} (hr : r.ends (Place.start text) = []) :
    (Regex.seq (.anchor .textStart) r).search? text = none := by
  rw [search?_textStart, matchAt?, hr]
  rfl

/-- The text of a group, by the places between which it was read. -/
theorem group?_of_find? {found : Match} {text : List Char} {index : Nat}
    (front rest : List Char) (htext : text = front ++ (word ++ rest))
    (hmark : found.marks.find? (·.group == index) =
      some ⟨index, front.length, front.length + word.length⟩) :
    found.group? text index = some word := by
  simp [Match.group?, hmark, htext]

end ImportRules.Regex
