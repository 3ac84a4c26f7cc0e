import ImportRules.Proofs.Source.Silence
import ImportRules.Proofs.Text.Lines
/-!
# How a clause is read

The parts of an import may stand apart by any blanks. Its clause ends where blanks, `from` and a
quote follow for the first time, and no earlier end will do, since a clause does not end with a
blank. The word `type` in front of a clause is tried as a keyword first. Where no clause follows it,
the word is taken back and is part of the clause itself.
-/

namespace ImportRules.Source

open Regex

variable {c : Char} {p q : Place} {quoted : Quoted}
  {text front before behind gap rest word more code : List Char} {found : Match}

/-! ## Specifiers -/

theorem startsWith_quotedSpecifier (c : Char) :
    (quotedSpecifier 3).startsWith c = ['\'', '"'].contains c := by
  simp [quotedSpecifier, Regex.sequence, startsWith, specifierQuote, oneOf, isNullable]

theorem isBlank_of_startsWith_quotedSpecifier (hc : (quotedSpecifier 3).startsWith c = true) :
    Text.isBlank c = false := by
  rw [startsWith_quotedSpecifier] at hc
  rcases List.mem_pair.mp (List.contains_iff_mem.mp hc) with rfl | rfl <;> decide

/-- Quotes are not among the characters of a class that has neither of them. -/
theorem notQuote_of_accepts (accepts : Char → Bool) (hquotes : ['\'', '"'].any accepts = false)
    (hc : accepts c = true) : (!List.contains ['\'', '"'] c) = true := by
  rw [List.any_eq_false] at hquotes
  simpa using fun hmem => hquotes c hmem hc

theorem notQuote_of_isBlank (hc : Text.isBlank c = true) :
    (!List.contains ['\'', '"'] c) = true :=
  notQuote_of_accepts Text.isBlank (by decide) hc

namespace Quoted

/-- The place behind a quoted specifier that starts at a place. -/
def stop (quoted : Quoted) (p : Place) : Place :=
  let opened := p.past [quoted.quote]
  ((opened.past quoted.inside).marked 3 opened.index).past [quoted.quote]

@[simp]
theorem index_stop (quoted : Quoted) (p : Place) :
    (quoted.stop p).index = p.index + quoted.text.length := by
  simp [stop, text, Nat.add_assoc, Nat.add_comm 1]

@[simp]
theorem marks_stop (quoted : Quoted) (p : Place) :
    (quoted.stop p).marks =
      ⟨3, p.index + 1, p.index + 1 + quoted.inside.length⟩ :: p.marks := rfl

theorem after_stop (quoted : Quoted) (hafter : p.after = quoted.text ++ rest) :
    (quoted.stop p).after = rest := by
  simp [stop, Place.marked, hafter, text]

theorem contains_quote (quoted : Quoted) : ['\'', '"'].contains quoted.quote = true :=
  List.contains_iff_mem.mpr quoted.quote_mem

theorem quote_refused (quoted : Quoted) : (!List.contains ['\'', '"'] quoted.quote) = false :=
  congrArg not quoted.contains_quote

theorem head_text (quoted : Quoted) (rest : List Char) :
    ∀ c ∈ (quoted.text ++ rest).head?, Text.isBlank c = false := by
  have hquotes : ∀ quote ∈ ['\'', '"'], Text.isBlank quote = false := by
    simp [Text.isBlank]
  rintro c ⟨⟩
  exact hquotes _ quoted.quote_mem

theorem prefers (quoted : Quoted) (hafter : p.after = quoted.text ++ rest) :
    (quotedSpecifier 3).Prefers p (quoted.stop p) := by
  have hquote := quoted.contains_quote
  have hinside : ∀ c ∈ quoted.inside, (!List.contains ['\'', '"'] c) = true := by
    intro c hc
    have hplain := quoted.isPlain c hc
    simp only [List.mem_cons, List.not_mem_nil, or_false, not_or] at hplain
    simp [hplain]
  have hopen : p.after = quoted.quote :: (quoted.inside ++ (quoted.quote :: rest)) := by
    simpa [text] using hafter
  refine (prefers_one hopen hquote).andThen hopen fun hspecifier => ?_
  refine (prefers_many1_one hspecifier quoted.ne_nil hinside ?_).groupThen 3 hspecifier
    fun hclose => prefers_one hclose hquote
  rintro c ⟨⟩
  exact quoted.quote_refused

theorem group?_stop (quoted : Quoted) (hmarks : found.marks = (quoted.stop q).marks)
    (hcode : code = front ++ (quoted.text ++ rest)) (hindex : q.index = front.length) :
    found.group? code 3 = some quoted.inside := by
  refine group?_of_find? (front ++ [quoted.quote]) (quoted.quote :: rest) ?_ ?_
  · simp [hcode, text]
  · simp [hmarks, hindex]

end Quoted

/-! ## The end of a clause -/

/-- What is read behind a clause. -/
def fromSpecifier : Regex :=
  sequence [.many .blank, literal "from", .many .blank, quotedSpecifier 3]

/-- The clause of an import. -/
def importClause : Regex :=
  .seq (.one fun c => isIdentifierChar c || c == '*' || c == '\x7b')
    (.manyLazy (.noneOf ['\'', '"']))

/-- Where `from` and a specifier are read, the blanks before `from` end where those of the text
do. -/
theorem eq_append_of_mem_words_fromSpecifier (front behind : List Char)
    (hword : word ∈ fromSpecifier.words)
    (hfront : ∀ c ∈ front, (!List.contains ['\'', '"'] c) = true)
    (hbehind : ∀ c ∈ behind, (!List.contains ['\'', '"'] c) = true)
    (hgap : ∀ c ∈ gap, Text.isBlank c = true)
    (htext : front ++ (word ++ more) =
      behind ++ ("from".toList ++ (gap ++ (quoted.text ++ rest)))) :
    ∃ blanks, (∀ c ∈ blanks, Text.isBlank c = true) ∧ behind = front ++ blanks := by
  have hletters : ∀ c ∈ "from".toList, (!List.contains ['\'', '"'] c) = true :=
    List.all_eq_true.mp (by decide)
  have hpart : ∀ {start blanks : List Char}, (∀ c ∈ start, (!List.contains ['\'', '"'] c) = true) →
      (∀ c ∈ blanks, Text.isBlank c = true) →
      ∀ c ∈ start ++ ("from".toList ++ blanks), (!List.contains ['\'', '"'] c) = true := by
    intro start blanks hstart hblanks c hc
    simp only [List.mem_append] at hc
    rcases hc with hc | hc | hc
    · exact hstart c hc
    · exact hletters c hc
    · exact notQuote_of_isBlank (hblanks c hc)
  obtain ⟨first, hfirst, _, hfrom, rfl⟩ := mem_words_seq.mp hword
  obtain ⟨keyword, hkeyword, _, hquoted, rfl⟩ := mem_words_seq.mp hfrom
  obtain ⟨second, hsecond, specifier, hspecifier, rfl⟩ := mem_words_seq.mp hquoted
  have hfirst := mem_words_many_one.mp hfirst
  have hsecond := mem_words_many_one.mp hsecond
  have hstarts := starts_of_mem_words hspecifier
  rw [mem_words_literal.mp hkeyword] at htext
  refine ⟨first, hfirst, ?_⟩
  -- Both ways to cut the text agree up to the first quote.
  have hsame : (front ++ first) ++ ("from".toList ++ second) =
      behind ++ ("from".toList ++ gap) := by
    cases specifier with
    | nil => cases hstarts
    | cons d specifier =>
        have hd : ['\'', '"'].contains d = true := startsWith_quotedSpecifier d ▸ hstarts
        have hcut : ((front ++ first) ++ ("from".toList ++ second)) ++ d :: (specifier ++ more) =
            (behind ++ ("from".toList ++ gap)) ++
              quoted.quote :: (quoted.inside ++ (quoted.quote :: rest)) := by
          simpa [Quoted.text] using htext
        have hstart : ∀ c ∈ front ++ first, (!List.contains ['\'', '"'] c) = true :=
          fun c hc => (List.mem_append.mp hc).elim (hfront c) fun hc =>
            notQuote_of_isBlank (hfirst c hc)
        exact (Text.append_cons_inj (hpart hstart hsecond) (hpart hbehind hgap) (congrArg not hd)
          quoted.quote_refused hcut).1
  -- From the quote backwards there are only blanks up to the last letter of `from`.
  have hreverse : second.reverse ++ 'm' :: (['o', 'r', 'f'] ++ (front ++ first).reverse) =
      gap.reverse ++ 'm' :: (['o', 'r', 'f'] ++ behind.reverse) := by
    simpa using congrArg List.reverse hsame
  have hblanks : ∀ {blanks : List Char}, (∀ c ∈ blanks, Text.isBlank c = true) →
      ∀ c ∈ blanks.reverse, Text.isBlank c = true :=
    fun hblanks c hc => hblanks c (List.mem_reverse.mp hc)
  obtain ⟨-, -, hrest⟩ :=
    Text.append_cons_inj (hblanks hsecond) (hblanks hgap) (by decide) (by decide) hreverse
  exact (List.reverse_inj.mp (List.append_cancel_left hrest)).symm

/-- A clause does not end before a character that is not blank. -/
theorem ends_fromSpecifier_eq_nil
    (hafter : p.after = behind ++ ("from".toList ++ (gap ++ (quoted.text ++ rest))))
    (hbehind : ∀ c ∈ behind, (!List.contains ['\'', '"'] c) = true)
    (hgap : ∀ c ∈ gap, Text.isBlank c = true) (hc : c ∈ behind) (hblank : Text.isBlank c = false) :
    fromSpecifier.ends p = [] := by
  refine ends_eq_nil ?_
  rintro word hword ⟨more, hmore⟩
  obtain ⟨blanks, hblanks, rfl⟩ := eq_append_of_mem_words_fromSpecifier [] behind hword
    (List.forall_mem_nil _) hbehind hgap (hmore.trans hafter)
  rw [hblanks c hc] at hblank
  cases hblank

theorem prefers_fromSpecifier (quoted : Quoted) (hbefore : ∀ c ∈ before, Text.isBlank c = true)
    (hgap : ∀ c ∈ gap, Text.isBlank c = true)
    (hafter : p.after = before ++ ("from".toList ++ (gap ++ (quoted.text ++ rest)))) :
    fromSpecifier.Prefers p
      (quoted.stop (((p.past before).past "from".toList).past gap)) := by
  refine (prefers_many_one hafter hbefore (by rintro c ⟨⟩; decide)).andThen hafter
    fun hword => ?_
  refine (prefers_literal hword).andThen hword fun hspace => ?_
  exact (prefers_many_one hspace hgap (quoted.head_text rest)).andThen hspace quoted.prefers

/-! ## Clauses -/

/-- The place behind a clause and its specifier, if the clause starts at a place. -/
def readStop (text before gap : List Char) (quoted : Quoted) (p : Place) : Place :=
  quoted.stop (((((p.past text).marked 2 p.index).past before).past "from".toList).past gap)

@[simp]
theorem index_readStop (text before gap : List Char) (quoted : Quoted) (p : Place) :
    (readStop text before gap quoted p).index =
      p.index + (text ++ (before ++ ("from".toList ++ (gap ++ quoted.text)))).length := by
  simp only [readStop, Quoted.index_stop, Place.index_past, Place.index_marked, List.length_append,
    Nat.add_assoc]

/-- A clause ends where blanks, `from` and a specifier follow for the first time. -/
theorem Readable.prefers (htext : Readable text) (quoted : Quoted)
    (hbefore : ∀ c ∈ before, Text.isBlank c = true) (hgap : ∀ c ∈ gap, Text.isBlank c = true)
    (hafter : p.after = text ++ (before ++ ("from".toList ++ (gap ++ (quoted.text ++ rest))))) :
    (Regex.seq (.group 2 importClause) fromSpecifier).Prefers p
      (readStop text before gap quoted p) := by
  obtain ⟨c, tail, rfl⟩ := List.exists_cons_of_ne_nil htext.solid.ne_nil
  have hwhole : p.after = c :: tail ++ ((before ++ ("from".toList ++ gap)) ++
      (quoted.text ++ rest)) := by
    simpa using hafter
  refine Prefers.lazyGroupThen hwhole (htext.head c rfl) ?_ ?_ ?_
    (prefers_fromSpecifier quoted hbefore hgap (Place.after_past_of_append hafter))
  · have hletters : ∀ d ∈ "from".toList, (!List.contains ['\'', '"'] d) = true :=
      List.all_eq_true.mp (by decide)
    intro d hd
    simp only [List.mem_append] at hd
    rcases hd with hd | hd | hd | hd
    · exact htext.notQuote d (List.mem_cons_of_mem c hd)
    · exact notQuote_of_isBlank (hbefore d hd)
    · exact hletters d hd
    · exact notQuote_of_isBlank (hgap d hd)
  · rintro d ⟨⟩
    exact quoted.quote_refused
  · intro front behind hsplit hne
    have hplace : (p.past (c :: front)).after =
        (behind ++ before) ++ ("from".toList ++ (gap ++ (quoted.text ++ rest))) :=
      Place.after_past_of_append (by simp [hafter, hsplit])
    -- An earlier end would leave the last character of the clause between itself and `from`.
    have hlast : Text.isBlank (behind.getLast hne) = false := by
      apply htext.solid.last
      rw [hsplit, ← List.cons_append, List.getLast?_append_of_ne_nil _ hne]
      exact List.getLast?_eq_some_getLast hne
    refine ends_fromSpecifier_eq_nil hplace ?_ hgap
      (List.mem_append_left before (List.getLast_mem hne)) hlast
    intro d hd
    rcases List.mem_append.mp hd with hd | hd
    · exact htext.notQuote d (by simp [hsplit, hd])
    · exact notQuote_of_isBlank (hbefore d hd)

/-- The statement of a match that stops behind a clause and its specifier. -/
theorem statementOf_readStop {typeOnly : Bool} (first last : Nat)
    (hcode : code =
      front ++ (text ++ (before ++ ("from".toList ++ (gap ++ (quoted.text ++ rest))))))
    (hindex : q.index = front.length) (htype : (q.marks.find? (·.group == 1)).isSome = typeOnly) :
    statementOf code (kindsOfClause code)
        ⟨first, last, (readStop text before gap quoted q).marks⟩ =
      ⟨String.ofList quoted.inside, clauseKinds text typeOnly, first⟩ := by
  generalize hfound : Match.mk first last (readStop text before gap quoted q).marks = found
  have hmarks : found.marks = (readStop text before gap quoted q).marks := by rw [← hfound]
  have hspecifier : found.group? code 3 = some quoted.inside := by
    have hquoted : code = (front ++ (text ++ (before ++ ("from".toList ++ gap)))) ++
        (quoted.text ++ rest) := by
      simpa using hcode
    refine quoted.group?_stop hmarks hquoted ?_
    simp only [Place.index_past, Place.index_marked, List.length_append, hindex, Nat.add_assoc]
  have hclause : found.group? code 2 = some text := by
    refine group?_of_find? front _ hcode ?_
    simp [hmarks, readStop, hindex]
  have htyped : (found.group? code 1).isSome = typeOnly := by
    simpa [Match.group?, hmarks, readStop] using htype
  rw [statementOf, hspecifier, kindsOfClause, hclause, htyped, Option.getD_some, Option.getD_some,
    ← hfound]

/-- Where `from` and its specifier stand, there is no clause before another `from`. -/
theorem ends_importClause_eq_nil (hgap : ∀ c ∈ gap, Text.isBlank c = true)
    (hafter : p.after = "from".toList ++ (gap ++ (quoted.text ++ rest))) :
    (Regex.seq (.group 2 importClause) fromSpecifier).ends p = [] := by
  refine ends_eq_nil ?_
  rintro _ hword ⟨more, hmore⟩
  obtain ⟨clause, hclause, word, hfrom, rfl⟩ := mem_words_seq.mp hword
  obtain ⟨_, ⟨c, hc, rfl⟩, tail, htail, rfl⟩ := mem_words_seq.mp hclause
  rw [manyLazy, words_repeated, noneOf, mem_kstar_one] at htail
  have hhead : (!List.contains ['\'', '"'] c) = true :=
    notQuote_of_accepts (fun c => isIdentifierChar c || c == '*' || c == '\x7b') (by decide) hc
  obtain ⟨blanks, -, hnil⟩ := eq_append_of_mem_words_fromSpecifier (c :: tail) [] hfrom
    (List.forall_mem_cons.mpr ⟨hhead, htail⟩) (List.forall_mem_nil _) hgap
    (by simpa [hafter] using hmore)
  cases hnil

/-! ## The keyword for types -/

/-- The word `type` is part of the clause if no clause can be read behind it. -/
theorem prefers_typeKeyword_none {second : Regex} {stop : Place}
    (hnone : ∀ blanks rest, blanks ≠ [] → (∀ c ∈ blanks, Text.isBlank c = true) →
      p.after = "type".toList ++ (blanks ++ rest) → ∀ q : Place, q.after = rest →
        second.ends q = [])
    (hsecond : second.Prefers p stop) : (Regex.seq typeKeyword second).Prefers p stop := by
  have hread : ∀ q ∈ (Regex.group 1 (.seq (literal "type") (.many1 .blank))).ends p,
      ∃ blanks, blanks ≠ [] ∧ (∀ c ∈ blanks, Text.isBlank c = true) ∧
        p.after = "type".toList ++ (blanks ++ q.after) ∧ q.index ≠ p.index := by
    intro q hq
    obtain ⟨word, hword, ⟨rest, hrest⟩, hsame⟩ := (reads_of_mem_ends hq).exists_word
    obtain ⟨keyword, hkeyword, blanks, hblanks, rfl⟩ := mem_words_seq.mp hword
    obtain ⟨hne, hblanks⟩ := mem_words_many1_one.mp hblanks
    rw [mem_words_literal.mp hkeyword] at hrest hsame
    refine ⟨blanks, hne, hblanks, ?_, ?_⟩
    · have hafter : q.after = rest := by
        rw [Place.after_eq_of_unmarked hsame]
        exact Place.after_past_of_append hrest.symm
      rw [hafter, ← List.append_assoc, hrest]
    · rw [Place.index_eq_of_unmarked hsame]
      simp
  refine Prefers.optionalThen_none ?_ ?_ hsecond
  · intro q hq
    obtain ⟨-, -, -, -, hindex⟩ := hread q hq
    exact hindex
  · intro q hq
    obtain ⟨blanks, hne, hblanks, hafter, -⟩ := hread q hq
    exact hnone blanks q.after hne hblanks hafter q rfl

/-- The place where the clause starts behind the word `type`, if that is a keyword. -/
def clauseStart (modifier : Option FreeForm.Space) (p : Place) : Place :=
  match modifier with
  | none => p
  | some space => ((p.past "type".toList).past space.text).marked 1 p.index

@[simp]
theorem index_clauseStart (modifier : Option FreeForm.Space) (p : Place) :
    (clauseStart modifier p).index = p.index + (FreeForm.typeText modifier).length := by
  cases modifier with
  | none => rfl
  | some space => simp [clauseStart, FreeForm.typeText, Nat.add_assoc, Nat.add_comm 4]

theorem find?_marks_clauseStart (modifier : Option FreeForm.Space) (hmarks : p.marks = []) :
    ((clauseStart modifier p).marks.find? (·.group == 1)).isSome = modifier.isSome := by
  cases modifier <;> simp [clauseStart, hmarks]

theorem prefers_typeKeyword_some (hne : gap ≠ []) (hgap : ∀ c ∈ gap, Text.isBlank c = true)
    (hafter : p.after = "type".toList ++ (gap ++ rest))
    (hrest : ∀ c ∈ rest.head?, Text.isBlank c = false) :
    typeKeyword.Prefers p (((p.past "type".toList).past gap).marked 1 p.index) := by
  refine Prefers.optional (Prefers.group ?_ 1)
  exact (prefers_literal hafter).andThen hafter fun hblank =>
    prefers_many1_one hblank hne hgap hrest

end ImportRules.Source
