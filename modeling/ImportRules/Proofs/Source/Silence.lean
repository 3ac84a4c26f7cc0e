import ImportRules.Proofs.Regex.Searching
import ImportRules.Proofs.Source.StatementText
/-!
# Where no statement is found

Three of the four forms start with a keyword at the start of a line. Inside of a written statement
no line starts with a keyword, so that these forms are found at starts of statements only. The
fourth form, the call of a module, needs an opening parenthesis, and the only one of a statement
stands in its own call.
-/

namespace ImportRules.Source

open Regex

variable {c d : Char} {p : Place} {text rest word gap front behind first second tail : List Char}

/-- Behind blanks, an expression reads nothing if it cannot start with what stands there. -/
theorem not_isPrefix_of_gap {blanks body : Regex}
    (hblanks : ∀ word ∈ blanks.words, ∀ c ∈ word, Text.isBlank c = true)
    (hnullable : body.isNullable = false)
    (hbody : ∀ c, body.startsWith c = true → Text.isBlank c = false)
    (hgap : ∀ c ∈ gap, Text.isBlank c = true) (hd : Text.isBlank d = false)
    (hstart : body.startsWith d = false) :
    ∀ word ∈ (Regex.seq blanks body).words, ¬word <+: gap ++ d :: rest := by
  rintro word hword ⟨behind, hbehind⟩
  obtain ⟨skipped, hskipped, read, hread, rfl⟩ := mem_words_seq.mp hword
  have hstarts := starts_of_mem_words hread
  cases read with
  | nil => exact Bool.false_ne_true (hnullable.symm.trans hstarts)
  | cons c read =>
      rw [List.append_assoc, List.cons_append] at hbehind
      obtain ⟨-, rfl, -⟩ :=
        Text.append_cons_inj (hblanks skipped hskipped) hgap (hbody c hstarts) hd hbehind
      exact Bool.false_ne_true (hstart.symm.trans hstarts)

/-! ## Forms at the start of a line -/

theorem keyword_cases {keyword : List Char} (hkeyword : keyword ∈ keywords) :
    keyword ≠ [] ∧ ∀ c ∈ keyword.head?, [' ', '\t'].contains c = false := by
  revert keyword
  simp [keywords]

/-- A form that starts with a keyword at the start of a line. What follows does not go on with the
word of the keyword. -/
structure LineForm where
  keyword : String
  tail : Regex
  isKeyword : keyword.toList ∈ keywords
  notNullable : tail.isNullable = false
  notWord : ∀ c, tail.startsWith c = true → isIdentifierChar c = false

namespace LineForm

def regex (form : LineForm) : Regex :=
  .seq (lineKeyword form.keyword) form.tail

theorem keyword_ne_nil (form : LineForm) : form.keyword.toList ≠ [] :=
  (keyword_cases form.isKeyword).1

theorem isIdentifierChar (form : LineForm) :
    ∀ c ∈ form.keyword.toList, isIdentifierChar c = true := by
  have hall : ∀ keyword ∈ keywords, keyword.all Source.isIdentifierChar = true := by decide
  exact List.all_eq_true.mp (hall _ form.isKeyword)

theorem ends_eq_nil (form : LineForm)
    (hnone : Anchor.lineStart.holds p.before p.after.head? = true → ∀ spaces rest,
      (∀ c ∈ spaces, [' ', '\t'].contains c = true) →
      p.after = spaces ++ (form.keyword.toList ++ rest) →
      ∀ word ∈ form.tail.words, ¬word <+: rest) : form.regex.ends p = [] := by
  refine List.eq_nil_iff_forall_not_mem.mpr ?_
  intro q hq
  obtain ⟨middle, ⟨start, ⟨hline, hstart⟩, hkeyword⟩, htail⟩ := reads_of_mem_ends hq
  rw [hstart] at hkeyword
  have hreads : (Regex.seq (.seq (.many (.oneOf [' ', '\t'])) (literal form.keyword))
      form.tail).Reads p q := ⟨middle, hkeyword, htail⟩
  obtain ⟨read, hread, ⟨rest, hrest⟩, -⟩ := hreads.exists_word
  obtain ⟨_, hlead, word, hword, rfl⟩ := mem_words_seq.mp hread
  obtain ⟨spaces, hspaces, keyword, hword', rfl⟩ := mem_words_seq.mp hlead
  rw [mem_words_literal.mp hword', List.append_assoc, List.append_assoc] at hrest
  exact hnone hline spaces (word ++ rest) (mem_words_many_one.mp hspaces) hrest.symm word hword
    (List.prefix_append word rest)

theorem ends_eq_nil_of_before (form : LineForm) (hbefore : p.before = some c) (hc : c ≠ '\n') :
    form.regex.ends p = [] := by
  refine form.ends_eq_nil fun hline => ?_
  simp [Anchor.holds, hbefore, hc] at hline

theorem leadWord_spaces {spaces : List Char} (hspaces : ∀ c ∈ spaces, [' ', '\t'].contains c = true)
    (rest : List Char) : leadWord (spaces ++ rest) = leadWord rest := by
  rw [leadWord, List.dropWhile_append_of_pos hspaces, leadWord]

theorem ends_eq_nil_of_leadWord (form : LineForm) (hlead : leadWord p.after ≠ form.keyword.toList) :
    form.regex.ends p = [] := by
  refine form.ends_eq_nil ?_
  rintro - spaces rest hspaces hafter word hword ⟨behind, rfl⟩
  apply hlead
  rw [hafter, leadWord_spaces hspaces, leadWord_append form.keyword_ne_nil form.isIdentifierChar]
  have hstarts := starts_of_mem_words hword
  cases word with
  | nil => exact absurd (form.notNullable.symm.trans hstarts) Bool.false_ne_true
  | cons c word =>
      rintro _ ⟨⟩
      exact form.notWord c hstarts

/-- Where the keyword of a form is followed by something else. -/
theorem ends_eq_nil_of_gap (form : LineForm) {blanks body : Regex}
    (htail : form.tail = .seq blanks body)
    (hblanks : ∀ word ∈ blanks.words, ∀ c ∈ word, Text.isBlank c = true)
    (hnullable : body.isNullable = false)
    (hbody : ∀ c, body.startsWith c = true → Text.isBlank c = false)
    (hafter : p.after = form.keyword.toList ++ (gap ++ d :: rest))
    (hgap : ∀ c ∈ gap, Text.isBlank c = true) (hd : Text.isBlank d = false)
    (hstart : body.startsWith d = false) : form.regex.ends p = [] := by
  refine form.ends_eq_nil ?_
  intro _ spaces behind hspaces hbehind
  obtain ⟨c, keyword, hkeyword⟩ := List.exists_cons_of_ne_nil form.keyword_ne_nil
  have hc : [' ', '\t'].contains c = false :=
    (keyword_cases form.isKeyword).2 c (by rw [hkeyword]; rfl)
  rw [hafter, hkeyword, List.cons_append, List.cons_append] at hbehind
  -- The keyword starts with no space, so that no spaces have been skipped before it.
  obtain ⟨rfl, -, hrest⟩ := Text.append_cons_inj (List.forall_mem_nil _) hspaces hc hc hbehind
  rw [← List.append_cancel_left hrest, htail]
  exact not_isPrefix_of_gap hblanks hnullable hbody hgap hd hstart

end LineForm

/-- Inside of a statement, no form is found that starts with a keyword at the start of a line. -/
theorem Statement.ends_within (statement : Statement) (form : LineForm)
    (hafter : p.after = statement.text ++ rest) (htext : statement.text = front ++ behind)
    (hfront : front ≠ []) (hbehind : behind ≠ []) : form.regex.ends (p.past front) = [] := by
  have hplace : (p.past front).after = behind ++ rest :=
    Place.after_past_of_append (by rw [hafter, htext, List.append_assoc])
  obtain ⟨line, c, rfl⟩ := (List.eq_nil_or_concat' front).resolve_left hfront
  by_cases hnewline : c = '\n'
  · obtain ⟨inner, last, rfl⟩ := (List.eq_nil_or_concat' behind).resolve_left hbehind
    have hends : (statement.lead ++ (statement.core ++ [';'])) ++ ['\n'] =
        (line ++ '\n' :: inner) ++ [last] := by
      simpa [text, hnewline] using htext
    obtain ⟨hsplit, hlast⟩ := List.append_inj' hends rfl
    have hlead : leadWord (inner ++ ([last] ++ rest)) ∉ keywords :=
      statement.calm line inner hsplit
    apply form.ends_eq_nil_of_leadWord
    intro hkeyword
    rw [hplace, List.append_assoc] at hkeyword
    exact hlead (hkeyword ▸ form.isKeyword)
  · exact form.ends_eq_nil_of_before (by simp [Place.past]) hnewline

/-! ## Calls of modules -/

def callKeywords : List (List Char) :=
  [callKeyword false, callKeyword true]

theorem exists_of_mem_words_moduleCall (hword : word ∈ moduleCall.words) :
    ∃ keyword ∈ callKeywords, ∃ gap tail, (∀ c ∈ gap, Text.isBlank c = true) ∧
      word = keyword ++ (gap ++ '(' :: tail) := by
  obtain ⟨start, hstart, _, hcall, rfl⟩ := mem_words_seq.mp hword
  obtain ⟨keyword, hkeyword, _, hargument, rfl⟩ := mem_words_seq.mp hcall
  obtain ⟨gap, hgap, _, hopened, rfl⟩ := mem_words_seq.mp hargument
  obtain ⟨paren, hparen, tail, -, rfl⟩ := mem_words_seq.mp hopened
  rw [(Language.mem_one start).mp hstart, mem_words_char.mp hparen]
  refine ⟨keyword, ?_, gap, tail, mem_words_many_one.mp hgap, rfl⟩
  rcases mem_words_alt.mp hkeyword with hkeyword | hkeyword <;>
    simp [callKeywords, callKeyword, mem_words_literal.mp hkeyword]

theorem ends_moduleCall_eq_nil
    (hnone : ∀ keyword ∈ callKeywords, ∀ gap, (∀ c ∈ gap, Text.isBlank c = true) →
      ∀ tail, p.after ≠ keyword ++ (gap ++ '(' :: tail)) : moduleCall.ends p = [] := by
  refine ends_eq_nil ?_
  rintro word hword ⟨rest, hrest⟩
  obtain ⟨keyword, hkeyword, gap, tail, hgap, rfl⟩ := exists_of_mem_words_moduleCall hword
  exact hnone keyword hkeyword gap hgap (tail ++ rest) (by rw [← hrest]; simp)

theorem paren_notMem_call {keyword : List Char} (hkeyword : keyword ∈ callKeywords)
    (hgap : ∀ c ∈ gap, Text.isBlank c = true) :
    ∀ c ∈ keyword ++ gap, c ≠ '(' ∧ c ≠ ';' := by
  have hall : ∀ keyword ∈ callKeywords, ∀ c ∈ keyword, c ≠ '(' ∧ c ≠ ';' := by
    simp [callKeywords, callKeyword]
  intro c hc
  rcases List.mem_append.mp hc with hc | hc
  · exact hall keyword hkeyword c hc
  · constructor <;> rintro rfl <;> exact absurd (hgap _ hc) (by decide)

/-- No call goes over a semicolon. -/
theorem ends_moduleCall_of_notMem (hafter : p.after = text ++ rest) (hparen : '(' ∉ text)
    (hend : ';' ∈ text) : moduleCall.ends p = [] := by
  apply ends_moduleCall_eq_nil
  intro keyword hkeyword gap hgap tail hcall
  have hword := paren_notMem_call hkeyword hgap
  rw [hafter, ← List.append_assoc] at hcall
  rcases List.append_eq_append_iff.mp hcall with ⟨inner, hinner, -⟩ | ⟨inner, rfl, hinner⟩
  · exact (hword ';' (by simp [hinner, hend])).2 rfl
  · cases inner with
    | nil => exact (hword ';' (by simpa using hend)).2 rfl
    | cons c inner =>
        obtain ⟨rfl, -⟩ := List.cons.inj hinner
        simp at hparen

theorem silent_moduleCall (hafter : p.after = text ++ [';', '\n'] ++ rest) (hparen : '(' ∉ text) :
    moduleCall.Silent p (text ++ [';', '\n']) := by
  intro front behind htext hbehind
  have hplace : (p.past front).after = behind ++ rest :=
    Place.after_past_of_append (by rw [hafter, htext, List.append_assoc])
  by_cases hend : ';' ∈ behind
  · refine ends_moduleCall_of_notMem hplace (fun hmem => ?_) hend
    have htail : '(' ∈ text ++ [';', '\n'] := by rw [htext]; simp [hmem]
    simp [hparen] at htail
  · -- Without the semicolon there is only the end of the line.
    have hnewline : behind = ['\n'] := by
      rcases List.append_eq_append_iff.mp htext with ⟨inner, rfl, hinner⟩ | ⟨inner, rfl, hinner⟩
      · rcases inner with _ | ⟨c, _ | ⟨d, inner⟩⟩
        · exact absurd (by rw [← List.nil_append behind, ← hinner]; simp) hend
        · exact (List.cons.inj hinner).2.symm
        · simp_all
      · simp [hinner] at hend
    refine ends_eq_nil_of_head rfl ?_
    rw [hplace, hnewline]
    rintro c ⟨⟩
    decide

/-- Where a call is written, no call is found but that one. -/
theorem ends_moduleCall_of_call {keyword lead more : List Char} (hkeyword : keyword ∈ callKeywords)
    (hafter : p.after = lead ++ keyword ++ '(' :: more) (hparen : '(' ∉ lead)
    (hsplit : lead ++ keyword = front ++ behind) (hbehind : behind ≠ []) (hfront : front ≠ lead) :
    moduleCall.ends (p.past front) = [] := by
  have hplace : (p.past front).after = behind ++ '(' :: more :=
    Place.after_past_of_append (by rw [hafter, hsplit, List.append_assoc])
  apply ends_moduleCall_eq_nil
  intro other hother gap hgap tail hcall
  have hbehind' : ∀ c ∈ behind, (c != '(') = true := by
    intro c hc
    have hmem : c ∈ lead ++ keyword := by rw [hsplit]; exact List.mem_append_right front hc
    rcases List.mem_append.mp hmem with hmem | hmem
    · simpa using fun heq : c = '(' => hparen (heq ▸ hmem)
    · simpa using (paren_notMem_call hkeyword (List.forall_mem_nil _) c (by simpa using hmem)).1
  have hcalled : ∀ c ∈ other ++ gap, (c != '(') = true :=
    fun c hc => by simpa using (paren_notMem_call hother hgap c hc).1
  rw [hplace, ← List.append_assoc] at hcall
  obtain ⟨rfl, -⟩ := Text.append_cons_inj hbehind' hcalled (by decide) (by decide) hcall
  -- The word in front of the parenthesis does not end in a blank.
  have hnogap : gap = [] := by
    by_contra hne
    have hlast : ∀ keyword ∈ callKeywords, ∀ c ∈ keyword.getLast?, Text.isBlank c = false := by
      simp [callKeywords, callKeyword, Text.isBlank]
    have hsame : keyword.getLast? = gap.getLast? := by
      have hends := congrArg List.getLast? hsplit
      rwa [List.getLast?_append_of_ne_nil _ (by rintro rfl; revert hkeyword; decide),
        List.getLast?_append_of_ne_nil _ hbehind, List.getLast?_append_of_ne_nil _ hne] at hends
    have hmem := List.getLast?_eq_some_getLast hne
    have hblank := hgap _ (List.getLast_mem hne)
    rw [hlast keyword hkeyword _ (hsame ▸ hmem)] at hblank
    cases hblank
  rw [hnogap, List.append_nil] at hsplit
  have hkeywords : ∀ first ∈ callKeywords, ∀ second ∈ callKeywords, first <:+ second →
      first = second := by
    decide
  have heq : keyword = other := by
    rcases List.suffix_or_suffix_of_suffix (List.suffix_append lead keyword)
      (hsplit ▸ List.suffix_append front other) with hsuffix | hsuffix
    · exact hkeywords _ hkeyword _ hother hsuffix
    · exact (hkeywords _ hother _ hkeyword hsuffix).symm
  rw [heq] at hsplit
  exact hfront (List.append_cancel_right hsplit).symm

theorem silent_before_call {keyword lead more : List Char} (hkeyword : keyword ∈ callKeywords)
    (hafter : p.after = lead ++ keyword ++ '(' :: more) (hparen : '(' ∉ lead) :
    moduleCall.Silent p lead := by
  intro front behind hlead hbehind
  have hsplit : lead ++ keyword = front ++ (behind ++ keyword) := by
    rw [hlead, List.append_assoc]
  apply ends_moduleCall_of_call hkeyword hafter hparen hsplit (by simp [hbehind])
  rintro rfl
  exact hbehind (List.self_eq_append_right.mp hlead)

theorem silent_behind_call {keyword lead : List Char} (hkeyword : c :: keyword ∈ callKeywords)
    (hafter : p.after = lead ++ (c :: keyword) ++ '(' :: (text ++ [';', '\n'] ++ rest))
    (hparen : '(' ∉ lead) (htext : '(' ∉ text) :
    moduleCall.Silent (p.past (lead ++ [c])) (keyword ++ '(' :: (text ++ [';', '\n'])) := by
  have hplace : ((p.past (lead ++ [c])).past keyword).after =
      '(' :: (text ++ [';', '\n'] ++ rest) := by
    rw [← Place.past_append]
    exact Place.after_past_of_append (by simp [hafter])
  have hkept : moduleCall.Silent (p.past (lead ++ [c])) keyword := by
    intro front behind hrest hbehind
    rw [← Place.past_append]
    have hsplit : lead ++ c :: keyword = (lead ++ [c] ++ front) ++ behind := by simp [hrest]
    apply ends_moduleCall_of_call hkeyword hafter hparen hsplit hbehind
    simp
  have hopen : moduleCall.Silent ((p.past (lead ++ [c])).past keyword) ['('] := by
    intro front behind hsplit hbehind
    have hfront : front = [] := by
      cases front with
      | nil => rfl
      | cons d front => simp_all
    rw [hfront]
    refine ends_eq_nil_of_head rfl ?_
    rw [Place.past_nil, hplace]
    rintro d ⟨⟩
    decide
  exact hkept.append (hopen.append (silent_moduleCall (Place.after_past_of_append hplace) htext))

namespace Statement

theorem paren_notMem_withClause (statement : Statement) (keyword : String) (typeOnly : Bool)
    (clause : Clause) (hkeyword : '(' ∉ keyword.toList) :
    '(' ∉ statement.withClause keyword typeOnly clause := by
  have htype : '(' ∉ ' ' :: if typeOnly then "type ".toList else [] := by
    cases typeOnly <;> decide
  have hfrom : '(' ∉ " from ".toList := by decide
  simp only [withClause, List.mem_append, not_or]
  exact ⟨hkeyword, htype, clause.notMem (by decide), hfrom, statement.notMem_quoted (by decide)⟩

end Statement

end ImportRules.Source
