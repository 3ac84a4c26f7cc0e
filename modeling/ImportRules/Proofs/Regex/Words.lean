import ImportRules.Proofs.Regex.Coverage
import Mathlib.Computability.Language
/-!
# The words of a regular expression

Anchors and groups aside, what an expression reads from a place to another one is a word of its
language. Expressions without anchors and groups read every word of their language wherever the
text goes on with it.
-/

namespace ImportRules.Regex

open scoped Computability

/-- The words that an expression can read, if its anchors hold. -/
def words : Regex → Language Char
  | .empty | .anchor _ => 1
  | .one accepts => {word | ∃ c, accepts c = true ∧ word = [c]}
  | .seq first second => first.words * second.words
  | .alt preferred other => preferred.words + other.words
  | .group _ body => body.words
  | .repeated body least most _ =>
      {word | ∃ count, least ≤ count ∧ (∀ bound ∈ most, count ≤ max least bound) ∧
        word ∈ body.words ^ count}

/-- The expression has neither anchors nor groups. -/
def isPlain : Regex → Bool
  | .empty | .one _ => true
  | .anchor _ | .group .. => false
  | .seq first second | .alt first second => first.isPlain && second.isPlain
  | .repeated body .. => body.isPlain

variable {r : Regex} {p q : Place} {word : List Char}

theorem append_isPrefix_iff {α : Type} {first second text : List α} :
    first ++ second <+: text ↔ first <+: text ∧ second <+: text.drop first.length := by
  constructor
  · rintro ⟨rest, rfl⟩
    simp
  · rintro ⟨⟨rest, rfl⟩, hsecond⟩
    rw [List.drop_left] at hsecond
    exact (List.prefix_append_right_inj first).mpr hsecond

/-! ## Readings and words -/

/-- Rounds read one word after the other. -/
theorem Rounds.exists_word {body : Regex} {count : Nat}
    (hbody : ∀ p q, body.Reads p q →
      ∃ word ∈ body.words, word <+: p.after ∧ q.unmarked = (p.past word).unmarked)
    (hrounds : Rounds body.Reads count p q) :
    ∃ word ∈ body.words ^ count, word <+: p.after ∧ q.unmarked = (p.past word).unmarked := by
  induction hrounds with
  | none p => exact ⟨[], by simp, List.nil_prefix, rfl⟩
  | more hstep _ ih =>
      obtain ⟨first, hfirst, hahead, hmiddle⟩ := hbody _ _ hstep
      obtain ⟨rest, hrest, hafter, hstop⟩ := ih
      rw [Place.after_eq_of_unmarked hmiddle] at hafter
      refine ⟨first ++ rest, ?_, append_isPrefix_iff.mpr ⟨hahead, hafter⟩, ?_⟩
      · rw [pow_succ']
        exact Language.append_mem_mul hfirst hrest
      · rw [hstop, Place.past_append, Place.unmarked_past_congr hmiddle]

/-- What is read is a word of the expression. -/
theorem Reads.exists_word (hreads : r.Reads p q) :
    ∃ word ∈ r.words, word <+: p.after ∧ q.unmarked = (p.past word).unmarked := by
  induction r generalizing p q with
  | empty => exact ⟨[], rfl, List.nil_prefix, hreads ▸ rfl⟩
  | one accepts =>
      obtain ⟨c, haccepts, hahead, rfl⟩ := hreads
      exact ⟨[c], ⟨c, haccepts, rfl⟩, hahead, rfl⟩
  | anchor condition => exact ⟨[], rfl, List.nil_prefix, hreads.2 ▸ rfl⟩
  | seq first second ihfirst ihsecond =>
      obtain ⟨middle, hfirst, hsecond⟩ := hreads
      obtain ⟨word, hword, hahead, hmiddle⟩ := ihfirst hfirst
      obtain ⟨rest, hrest, hafter, hstop⟩ := ihsecond hsecond
      rw [Place.after_eq_of_unmarked hmiddle] at hafter
      refine ⟨word ++ rest, Language.append_mem_mul hword hrest,
        append_isPrefix_iff.mpr ⟨hahead, hafter⟩, ?_⟩
      rw [hstop, Place.past_append, Place.unmarked_past_congr hmiddle]
  | alt preferred other ihpreferred ihother =>
      rcases hreads with hreads | hreads
      · obtain ⟨word, hword, hrest⟩ := ihpreferred hreads
        exact ⟨word, .inl hword, hrest⟩
      · obtain ⟨word, hword, hrest⟩ := ihother hreads
        exact ⟨word, .inr hword, hrest⟩
  | group index body ih =>
      obtain ⟨stop, hbody, rfl⟩ := hreads
      obtain ⟨word, hword, hahead, hsame⟩ := ih hbody
      exact ⟨word, hword, hahead, hsame⟩
  | repeated body least most greedy ih =>
      obtain ⟨count, hleast, hmost, hrounds⟩ := hreads
      obtain ⟨word, hword, hrest⟩ := hrounds.exists_word fun _ _ => ih
      exact ⟨word, ⟨count, hleast, hmost, hword⟩, hrest⟩

theorem rounds_past {body : Regex} {count : Nat}
    (hbody : ∀ p word, word ∈ body.words → word <+: p.after → body.Reads p (p.past word))
    (hword : word ∈ body.words ^ count) (hahead : word <+: p.after) :
    Rounds body.Reads count p (p.past word) := by
  induction count generalizing p word with
  | zero =>
      rw [pow_zero, Language.mem_one] at hword
      rw [hword, Place.past_nil]
      exact .none p
  | succ count ih =>
      rw [pow_succ'] at hword
      obtain ⟨first, hfirst, rest, hrest, rfl⟩ := Language.mem_mul.mp hword
      obtain ⟨hfirst', hrest'⟩ := append_isPrefix_iff.mp hahead
      rw [Place.past_append]
      exact .more (hbody p first hfirst hfirst') (ih hrest hrest')

/-- A plain expression reads its words. -/
theorem reads_past (hplain : r.isPlain = true) (hword : word ∈ r.words)
    (hahead : word <+: p.after) : r.Reads p (p.past word) := by
  induction r generalizing p word with
  | empty => exact (Language.mem_one word).mp hword ▸ rfl
  | one accepts =>
      obtain ⟨c, haccepts, rfl⟩ := hword
      exact ⟨c, haccepts, hahead, rfl⟩
  | anchor condition => cases hplain
  | seq first second ihfirst ihsecond =>
      obtain ⟨hfirst, hsecond⟩ := Bool.and_eq_true_iff.mp hplain
      obtain ⟨start, hstart, rest, hrest, rfl⟩ := Language.mem_mul.mp hword
      obtain ⟨hahead, hafter⟩ := append_isPrefix_iff.mp hahead
      rw [Place.past_append]
      exact ⟨p.past start, ihfirst hfirst hstart hahead, ihsecond hsecond hrest hafter⟩
  | alt preferred other ihpreferred ihother =>
      obtain ⟨hpreferred, hother⟩ := Bool.and_eq_true_iff.mp hplain
      exact hword.imp (fun hword => ihpreferred hpreferred hword hahead)
        fun hword => ihother hother hword hahead
  | group index body => cases hplain
  | repeated body least most greedy ih =>
      obtain ⟨count, hleast, hmost, hword⟩ := hword
      exact ⟨count, hleast, hmost,
        rounds_past (fun _ _ hword hahead => ih hplain hword hahead) hword hahead⟩

/-- A plain expression marks nothing. -/
theorem Reads.marks_eq (hplain : r.isPlain = true) (hreads : r.Reads p q) : q.marks = p.marks := by
  induction r generalizing p q with
  | empty => exact hreads ▸ rfl
  | one accepts =>
      obtain ⟨c, -, -, rfl⟩ := hreads
      rfl
  | anchor condition => cases hplain
  | seq first second ihfirst ihsecond =>
      obtain ⟨hfirst, hsecond⟩ := Bool.and_eq_true_iff.mp hplain
      obtain ⟨middle, hmiddle, hstop⟩ := hreads
      exact (ihsecond hsecond hstop).trans (ihfirst hfirst hmiddle)
  | alt preferred other ihpreferred ihother =>
      obtain ⟨hpreferred, hother⟩ := Bool.and_eq_true_iff.mp hplain
      exact hreads.elim (ihpreferred hpreferred) (ihother hother)
  | group index body => cases hplain
  | repeated body least most greedy ih =>
      obtain ⟨count, -, -, hrounds⟩ := hreads
      induction hrounds with
      | none p => rfl
      | more hstep _ ihrest => exact ihrest.trans (ih hplain hstep)

/-- A plain expression reads exactly its words. -/
theorem reads_iff (hplain : r.isPlain = true) :
    r.Reads p q ↔ ∃ word ∈ r.words, word <+: p.after ∧ q = p.past word := by
  constructor
  · intro hreads
    obtain ⟨word, hword, hahead, hsame⟩ := hreads.exists_word
    have hmarks : q.marks = p.marks := hreads.marks_eq hplain
    exact ⟨word, hword, hahead, Place.eq_of_unmarked hsame hmarks⟩
  · rintro ⟨word, hword, hahead, rfl⟩
    exact reads_past hplain hword hahead

/-- As a plain expression marks nothing, it lists exactly the places behind its words. -/
theorem mem_ends_iff (hplain : r.isPlain = true) :
    q ∈ r.ends p ↔ ∃ word ∈ r.words, word <+: p.after ∧ q = p.past word := by
  constructor
  · intro hq
    exact (reads_iff hplain).mp (reads_of_mem_ends hq)
  · rintro ⟨word, hword, hahead, rfl⟩
    obtain ⟨place, hplace, hsame⟩ := among_ends (reads_past hplain hword hahead)
    have hmarks : place.marks = p.marks := (reads_of_mem_ends hplace).marks_eq hplain
    exact Place.eq_of_unmarked hsame hmarks ▸ hplace

/-! ## Words of common expressions -/

theorem mem_words_one {accepts : Char → Bool} :
    word ∈ (Regex.one accepts).words ↔ ∃ c, accepts c = true ∧ word = [c] :=
  Iff.rfl

theorem mem_words_char {c : Char} : word ∈ (char c).words ↔ word = [c] := by
  simp [char, mem_words_one]

theorem mem_words_seq {first second : Regex} :
    word ∈ (Regex.seq first second).words ↔
      ∃ start ∈ first.words, ∃ rest ∈ second.words, start ++ rest = word :=
  Language.mem_mul

theorem mem_words_alt {preferred other : Regex} :
    word ∈ (Regex.alt preferred other).words ↔ word ∈ preferred.words ∨ word ∈ other.words :=
  Iff.rfl

theorem mem_words_choice {rs : List Regex} :
    word ∈ (choice rs).words ↔ ∃ r ∈ rs, word ∈ r.words := by
  induction rs with
  | nil => simp [choice, mem_words_one]
  | cons r rs ih =>
      cases rs with
      | nil => simp [choice]
      | cons s rs =>
          rw [choice, mem_words_alt, ih]
          · simp
          · simp

theorem words_repeated (body : Regex) (greedy : Bool) :
    (Regex.repeated body 0 none greedy).words = body.words∗ := by
  ext word
  rw [Language.kstar_eq_iSup_pow, Language.mem_iSup]
  constructor
  · rintro ⟨count, -, -, hword⟩
    exact ⟨count, hword⟩
  · rintro ⟨count, hword⟩
    exact ⟨count, Nat.zero_le _, by simp, hword⟩

theorem words_many1 (body : Regex) : (many1 body).words = body.words * body.words∗ := by
  ext word
  rw [Language.kstar_eq_iSup_pow, Language.mul_iSup, Language.mem_iSup]
  constructor
  · rintro ⟨count, hleast, -, hword⟩
    obtain ⟨more, rfl⟩ := Nat.exists_eq_add_of_le' hleast
    exact ⟨more, pow_succ' body.words more ▸ hword⟩
  · rintro ⟨more, hword⟩
    exact ⟨more + 1, by omega, by simp, pow_succ' body.words more ▸ hword⟩

theorem mem_kstar_one {accepts : Char → Bool} :
    word ∈ (Regex.one accepts).words∗ ↔ ∀ c ∈ word, accepts c = true := by
  rw [Language.mem_kstar]
  constructor
  · rintro ⟨parts, rfl, hparts⟩ c hc
    obtain ⟨part, hpart, hc⟩ := List.mem_flatten.mp hc
    obtain ⟨d, haccepts, rfl⟩ := hparts part hpart
    exact List.mem_singleton.mp hc ▸ haccepts
  · intro hword
    refine ⟨word.map List.singleton, ?_, ?_⟩
    · rw [← List.flatMap_def]
      exact List.flatMap_singleton' word |>.symm
    · intro part hpart
      obtain ⟨c, hc, rfl⟩ := List.mem_map.mp hpart
      exact ⟨c, hword c hc, rfl⟩

theorem mem_words_many_one {accepts : Char → Bool} :
    word ∈ (many (.one accepts)).words ↔ ∀ c ∈ word, accepts c = true := by
  rw [many, words_repeated, mem_kstar_one]

theorem mem_words_many1_one {accepts : Char → Bool} :
    word ∈ (many1 (.one accepts)).words ↔ word ≠ [] ∧ ∀ c ∈ word, accepts c = true := by
  rw [words_many1, Language.mem_mul]
  constructor
  · rintro ⟨_, ⟨c, haccepts, rfl⟩, rest, hrest, rfl⟩
    exact ⟨by simp, List.forall_mem_cons.mpr ⟨haccepts, mem_kstar_one.mp hrest⟩⟩
  · rintro ⟨hne, hword⟩
    obtain ⟨c, rest, rfl⟩ := List.exists_cons_of_ne_nil hne
    obtain ⟨hc, hrest⟩ := List.forall_mem_cons.mp hword
    exact ⟨[c], ⟨c, hc, rfl⟩, rest, mem_kstar_one.mpr hrest, rfl⟩

theorem forall_mem_noneOf {c : Char} :
    (∀ d ∈ word, (!List.contains [c] d) = true) ↔ c ∉ word := by
  simp only [List.contains_cons, List.contains_nil, Bool.or_false, Bool.not_eq_true',
    beq_eq_false_iff_ne]
  exact ⟨fun hword hc => hword c hc rfl, fun hc d hd heq => hc (heq ▸ hd)⟩

theorem mem_words_many_noneOf {c : Char} : word ∈ (many (.noneOf [c])).words ↔ c ∉ word := by
  rw [noneOf, mem_words_many_one, forall_mem_noneOf]

/-! ## Searching from the start of a text -/

theorem Place.head?_distinct (places : List Place) : (distinct places).head? = places.head? := by
  cases places with
  | nil => rfl
  | cons place rest => rw [distinct, List.eraseDupsBy_cons]; rfl

theorem matchAt?_textStart (r : Regex) (place : Place) :
    (Regex.seq (.anchor .textStart) r).matchAt? place =
      if place.before.isNone then r.matchAt? place else none := by
  by_cases hbefore : place.before.isNone <;>
    simp [matchAt?, ends, Anchor.holds, hbefore, Place.head?_distinct]

/-- An expression that begins with the start of the text is matched nowhere else. -/
theorem search?_textStart (r : Regex) (text : List Char) :
    (Regex.seq (.anchor .textStart) r).search? text = r.matchAt? (Place.start text) := by
  have hnone : ∀ (text : List Char) (index : Nat) (c : Char),
      (Regex.seq (.anchor .textStart) r).searchFrom? index (some c) text = none := by
    intro text index c
    induction text generalizing index c with
    | nil => simp [searchFrom?, matchAt?_textStart]
    | cons d rest ih => simp [searchFrom?, matchAt?_textStart, ih]
  cases text with
  | nil => simp [search?, searchFrom?, matchAt?_textStart, Place.start]
  | cons c rest =>
      rw [search?, searchFrom?, matchAt?_textStart]
      cases hfound : r.matchAt? (Place.start (c :: rest)) with
      | none => simp [Place.start] at hfound; simp [hfound, hnone]
      | some found => simp [Place.start] at hfound; simp [hfound]

end ImportRules.Regex
