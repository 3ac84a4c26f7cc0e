import ImportRules.Proofs.Source.ClauseReading
/-!
# How a statement is read

Each form reads a statement that is written for it up to the closing quote or parenthesis, and marks
the clause and the specifier.
-/

namespace ImportRules.Source

open Regex

variable {c : Char} {p : Place} {rest behind : List Char} {keyword : String} {clause : Clause}
  {typeOnly : Bool}

/-! ## Parts of forms -/

theorem prefers_lineKeyword (hline : Anchor.lineStart.holds p.before p.after.head? = true)
    (hkeyword : keyword.toList ∈ keywords) (hafter : p.after = keyword.toList ++ rest) :
    (lineKeyword keyword).Prefers p (p.past keyword.toList) := by
  have hanchor : (Regex.anchor .lineStart).Prefers p p := by simp [Prefers, ends, hline]
  have hhead : ∀ c ∈ p.after.head?, [' ', '\t'].contains c = false := by
    obtain ⟨hne, hhead⟩ := keyword_cases hkeyword
    rwa [hafter, List.head?_append_of_ne_nil _ hne]
  exact hanchor.seq ((prefers_many_one_none hhead).seq (prefers_literal hafter))

/-- The clause of an export. -/
def exportClause : Regex :=
  .alt
    (.seq (.char '*')
      (.optional
        (sequence [.many1 .blank, literal "as", .many1 .blank, .many1 (.one isIdentifierChar)])))
    (sequence [.char '\x7b', .many (.noneOf ['\x7d']), .char '\x7d'])

/-- The form of statements with a clause. -/
def clauseForm (keyword : String) (hkeyword : keyword.toList ∈ keywords) (body : Regex) :
    LineForm where
  keyword := keyword
  tail := sequence [.many1 .blank, typeKeyword, .group 2 body, fromSpecifier]
  isKeyword := hkeyword
  notNullable := rfl
  notWord c hc := by
    apply isIdentifierChar_of_isBlank
    simpa [Regex.sequence, startsWith, isNullable, many1, blank] using hc

/-! ## The keyword for types -/

theorem Clause.leadWord_ne_type (clause : Clause)
    (hrest : ∀ c ∈ rest.head?, isIdentifierChar c = false) :
    leadWord (clause.text ++ rest) ≠ "type".toList := by
  have hname : ∀ (name : Name) rest, (∀ c ∈ rest.head?, isIdentifierChar c = false) →
      leadWord (name.text ++ rest) ≠ "type".toList := by
    intro name rest hrest hlead
    rw [leadWord_append name.ne_nil name.isIdentifierChar hrest] at hlead
    exact name.notReserved (hlead ▸ (by decide))
  cases clause with
  | default name => exact hname name rest hrest
  | both name braces =>
      rw [text, List.append_assoc]
      refine hname name _ ?_
      rintro c ⟨⟩
      decide
  | named _ | wildcard _ | all => exact fun hlead => absurd hlead (by decide : [] ≠ "type".toList)

theorem prefers_typeKeyword
    (hafter : p.after = (if typeOnly then "type ".toList else []) ++ (clause.text ++ rest))
    (hrest : ∀ c ∈ rest.head?, isIdentifierChar c = false) :
    typeKeyword.Prefers p (clauseStart (modifier typeOnly) p) := by
  cases typeOnly with
  | true =>
      have htype : p.after = "type".toList ++ ([' '] ++ (clause.text ++ rest)) := hafter
      exact prefers_typeKeyword_some (List.cons_ne_nil ' ' [])
        (List.forall_mem_singleton.mpr (by decide)) htype (clause.solid.head_append rest)
  | false =>
      apply prefers_optional_none
      refine ends_eq_nil ?_
      rintro word hword ⟨behind, hbehind⟩
      obtain ⟨type, htype, blanks, hblanks, rfl⟩ := mem_words_seq.mp hword
      obtain ⟨hne, hblanks⟩ := mem_words_many1_one.mp hblanks
      rw [mem_words_literal.mp htype, hafter, if_neg Bool.false_ne_true, List.nil_append,
        List.append_assoc] at hbehind
      apply clause.leadWord_ne_type hrest
      rw [← hbehind]
      refine leadWord_append (by decide) (List.all_eq_true.mp (by decide)) ?_
      obtain ⟨blank, blanks, rfl⟩ := List.exists_cons_of_ne_nil hne
      rintro c ⟨⟩
      exact isIdentifierChar_of_isBlank (hblanks blank List.mem_cons_self)

theorem isBlank_space : ∀ c ∈ [' '], Text.isBlank c = true :=
  List.forall_mem_singleton.mpr (by decide)

namespace Statement

/-- How the forms with a clause are read, if the clause is. -/
theorem prefers_withClause (statement : Statement) {body : Regex}
    (hline : Anchor.lineStart.holds p.before p.after.head? = true)
    (hkeyword : keyword.toList ∈ keywords)
    (hafter : p.after = statement.withClause keyword typeOnly clause ++ rest)
    (hbody : ∀ q : Place,
      q.after = clause.text ++ (" from ".toList ++ (statement.quoted.text ++ rest)) →
      (Regex.seq (.group 2 body) fromSpecifier).Prefers q
        (readStop clause.text [' '] [' '] statement.quoted q)) :
    (clauseForm keyword hkeyword body).regex.Prefers p
      (readStop clause.text [' '] [' '] statement.quoted
        (clauseStart (modifier typeOnly) ((p.past keyword.toList).past [' ']))) := by
  have hstart : p.after = keyword.toList ++ (' ' :: ((if typeOnly then "type ".toList else []) ++
      (clause.text ++ (" from ".toList ++ (statement.quoted.text ++ rest))))) := by
    simp [hafter, withClause]
  refine (prefers_lineKeyword hline hkeyword hstart).andThen hstart fun hspace => ?_
  refine (prefers_space1 hspace ?_).andThen hspace fun htype => ?_
  · cases typeOnly with
    | true => rintro c ⟨⟩; decide
    | false => exact clause.solid.head_append _
  · refine (prefers_typeKeyword htype (by rintro c ⟨⟩; decide)).seq (hbody _ ?_)
    cases typeOnly with
    | true =>
        have htype : _ = "type".toList ++ ([' '] ++ _) := htype
        exact Place.after_past_of_append (Place.after_past_of_append htype)
    | false => exact htype

/-! ## Clauses of imports -/

theorem prefers_importClause (statement : Statement)
    (hafter : p.after = clause.text ++ (" from ".toList ++ (statement.quoted.text ++ rest))) :
    (Regex.seq (.group 2 importClause) fromSpecifier).Prefers p
      (readStop clause.text [' '] [' '] statement.quoted p) :=
  clause.readable.prefers statement.quoted isBlank_space isBlank_space hafter

/-! ## Clauses of exports -/

theorem prefers_exportClause (statement : Statement) (hclause : clause.isExport = true)
    (hafter : p.after = clause.text ++ (" from ".toList ++ (statement.quoted.text ++ rest))) :
    (Regex.seq (.group 2 exportClause) fromSpecifier).Prefers p
      (readStop clause.text [' '] [' '] statement.quoted p) := by
  refine Prefers.groupThen ?_ 2 hafter
    (prefers_fromSpecifier statement.quoted isBlank_space isBlank_space)
  cases clause with
  | default name | both name braces => cases hclause
  | named braces =>
      have hopen : p.after = '\x7b' :: (braces.inside ++ ('\x7d' :: (" from ".toList ++
          (statement.quoted.text ++ rest)))) := by
        simpa [Clause.text, Braces.text] using hafter
      refine Prefers.alt_right ?_ (ends_eq_nil_of_head rfl (by rw [hopen]; rintro c ⟨⟩; decide))
      rw [Clause.text, Braces.text, Place.past_cons, Place.past_append]
      refine (prefers_char hopen).andThen hopen fun hinside => ?_
      have hclosed : '\x7d' ∉ braces.inside :=
        braces.inside_pieces ▸ FreeForm.notMem_inside braces.pieces (by decide) (by decide)
      refine (prefers_many_one hinside (forall_mem_noneOf.mpr hclosed) ?_).andThen hinside
        fun hclose => prefers_char hclose
      rintro c ⟨⟩
      decide
  | wildcard name =>
      have hstar : p.after = '*' :: (' ' :: ("as".toList ++ (' ' :: (name.text ++
          (" from ".toList ++ (statement.quoted.text ++ rest)))))) := by
        simpa [Clause.text] using hafter
      have hplace : p.past (Clause.wildcard name).text =
          ((((p.past ['*']).past [' ']).past "as".toList).past [' ']).past name.text := by
        simp only [← Place.past_append]
        rfl
      have hname : ∀ rest, ∀ c ∈ (name.text ++ rest).head?, Text.isBlank c = false :=
        name.free.solid.head_append
      rw [hplace]
      apply Prefers.alt_left
      refine (prefers_char hstar).andThen hstar fun hspace => Prefers.optional ?_
      refine (prefers_space1 hspace (by rintro c ⟨⟩; decide)).andThen hspace fun has => ?_
      refine (prefers_literal has).andThen has fun hspace => ?_
      refine (prefers_space1 hspace (hname _)).andThen hspace fun hword => ?_
      exact prefers_many1_one hword name.ne_nil name.isIdentifierChar (by rintro c ⟨⟩; decide)
  | all =>
      refine Prefers.alt_left ((prefers_char hafter).seq (prefers_optional_none ?_))
      have hfrom : (p.past ['*']).after =
          [' '] ++ 'f' :: ("rom ".toList ++ (statement.quoted.text ++ rest)) :=
        Place.after_past_of_append hafter
      refine ends_eq_nil ?_
      rw [hfrom]
      -- `as` does not start like `from`.
      refine not_isPrefix_of_gap (fun word hword => (mem_words_many1_one.mp hword).2) rfl ?_
        (List.forall_mem_singleton.mpr (by decide)) (by decide) (by decide)
      intro c hc
      have hc : c = 'a' := by
        simpa [Regex.sequence, literal, startsWith, char, isNullable] using hc
      rw [hc]
      decide

/-! ## Calls -/

theorem prefers_moduleCall (statement : Statement) {awaited : Bool} (hbefore : p.before = some ' ')
    (hafter : p.after = callKeyword awaited ++
      ('(' :: (statement.quoted.text ++ (')' :: rest)))) :
    moduleCall.Prefers p ((statement.quoted.stop
      ((p.past (callKeyword awaited)).past ['('])).past [')']) := by
  have hanchor : (Regex.anchor (.word false .boundary)).Prefers p p := by
    have hspace : Text.isWord ' ' = false := by decide
    have hletters : Text.isWord 'i' = true ∧ Text.isWord 'r' = true := by decide
    cases awaited <;>
      simp [Prefers, ends, Anchor.holds, hbefore, hafter, callKeyword, hspace, hletters]
  have hkeyword : (Regex.alt (literal "require") (literal "import")).Prefers p
      (p.past (callKeyword awaited)) := by
    cases awaited with
    | false => exact (prefers_literal hafter).alt_left
    | true =>
        refine (prefers_literal hafter).alt_right (ends_eq_nil_of_head rfl ?_)
        rw [hafter]
        rintro c ⟨⟩
        decide
  refine hanchor.seq (hkeyword.andThen hafter fun hopen => ?_)
  refine (prefers_many_one_none (by rw [hopen]; rintro c ⟨⟩; decide)).seq ?_
  refine (prefers_char hopen).andThen hopen fun hquoted => ?_
  refine (prefers_many_one_none (by rw [hquoted]; exact statement.quoted.head_text _)).seq ?_
  have hclose := statement.quoted.after_stop hquoted
  refine (statement.quoted.prefers hquoted).seq ?_
  exact (prefers_many_one_none (by rw [hclose]; rintro c ⟨⟩; decide)).seq (prefers_char hclose)

end Statement

end ImportRules.Source
