import ImportRules.Proofs.Source.Comments
import ImportRules.Proofs.Source.Embedding
/-!
# The text of import statements

Statements hold no comments. Inside of a statement no line starts with a keyword: lines end only
between the items of braces, and no item starts with a reserved word but `type`.
-/

namespace ImportRules.Source

variable {c : Char} {text rest word gap first second : List Char}

/-! ## Comments -/

/-- Blanking comments passes over the text. -/
def Uncommented (text : List Char) : Prop :=
  ∀ rest, blankFrom .code (text ++ rest) = text ++ blankFrom .code rest

theorem Uncommented.append (hfirst : Uncommented first) (hsecond : Uncommented second) :
    Uncommented (first ++ second) := by
  intro rest
  rw [List.append_assoc, hfirst, hsecond, List.append_assoc]

theorem uncommented_of_all (htext : text.all (fun c => c != '/' && !isQuote c) = true) :
    Uncommented text := by
  refine blankFrom_code_append fun c hc => ?_
  simpa using List.all_eq_true.mp htext c hc

theorem uncommented_of_notMem (htext : ∀ c ∈ FreeForm.foreign, c ∉ text) : Uncommented text := by
  refine blankFrom_code_append fun c hc => ⟨?_, ?_⟩
  · rintro rfl
    exact htext _ (by decide) hc
  · by_contra hquote
    simp only [isQuote, Bool.not_eq_false, Bool.or_eq_true, beq_iff_eq] at hquote
    rcases hquote with (rfl | rfl) | rfl <;> exact htext _ (by decide) hc

theorem Gap.uncommented (gap : Gap) : Uncommented gap.text :=
  uncommented_of_notMem fun _ hc => FreeForm.notMem_gap gap (FreeForm.mem_marks_of_mem_foreign hc).1

theorem Name.uncommented (name : Name) : Uncommented name.text :=
  uncommented_of_notMem fun _ hc => name.free.notMem (FreeForm.mem_marks_of_mem_foreign hc).1

theorem Quoted.uncommented (quoted : Quoted) : Uncommented quoted.text := by
  have hquotes : ∀ quote ∈ ['\'', '"'], isQuote quote = true := by simp [isQuote]
  have hinside : ∀ c ∈ quoted.inside, c ≠ quoted.quote ∧ c ≠ '\\' ∧ c ≠ '\n' := by
    intro c hc
    have hplain := quoted.isPlain c hc
    refine ⟨?_, ?_, ?_⟩
    · rintro rfl
      exact hplain (List.mem_append_left ['\\', '\n'] quoted.quote_mem)
    · rintro rfl
      exact hplain (by decide)
    · rintro rfl
      exact hplain (by decide)
  intro rest
  have hread := blankFrom_code_quoted (hquotes _ quoted.quote_mem) hinside rest
  simpa [text] using hread

namespace Statement

theorem uncommented_withClause (statement : Statement) (keyword : String) (typeOnly : Bool)
    (clause : Clause)
    (hkeyword : keyword.toList.all (fun c => c != '/' && !isQuote c) = true) :
    Uncommented (statement.withClause keyword typeOnly clause) := by
  have htype : Uncommented (' ' :: if typeOnly then "type ".toList else []) :=
    uncommented_of_all (by cases typeOnly <;> decide)
  have hfrom : Uncommented " from ".toList := uncommented_of_all (by decide)
  have hclause : Uncommented clause.text := uncommented_of_notMem fun _ => clause.notMem
  exact (uncommented_of_all hkeyword).append
    (htype.append (hclause.append (hfrom.append statement.quoted.uncommented)))

theorem uncommented (statement : Statement) : Uncommented statement.text := by
  have hend : Uncommented [';', '\n'] := uncommented_of_all (by decide)
  have hcore : Uncommented statement.core := by
    unfold core
    split
    · exact (uncommented_of_all (by decide)).append statement.quoted.uncommented
    · exact statement.uncommented_withClause _ _ _ (by decide)
    · exact statement.uncommented_withClause _ _ _ (by decide)
    next name awaited _ =>
      have hcall : Uncommented (callKeyword awaited ++ ['(']) :=
        uncommented_of_all (by cases awaited <;> decide)
      have hclose : Uncommented [')'] := uncommented_of_all (by decide)
      simpa using hcall.append (statement.quoted.uncommented.append hclose)
  have hlead : Uncommented statement.lead := by
    unfold lead
    split
    next name awaited _ =>
      have hconst : Uncommented "const ".toList := uncommented_of_all (by decide)
      have hequals : Uncommented (" = ".toList ++ if awaited then "await ".toList else []) :=
        uncommented_of_all (by cases awaited <;> decide)
      exact hconst.append (name.uncommented.append hequals)
    next => exact uncommented_of_all rfl
  exact hlead.append (hcore.append hend)

end Statement

theorem blankComments_flatMap_text (statements : List Statement) :
    blankComments (statements.flatMap Statement.text) = statements.flatMap Statement.text := by
  rw [blankComments]
  induction statements with
  | nil => rfl
  | cons statement statements ih =>
      rw [List.flatMap_cons, statement.uncommented, ih]

/-! ## Starts of lines -/

/-- The word that a line starts with, behind spaces and tabs. -/
def leadWord (line : List Char) : List Char :=
  (line.dropWhile [' ', '\t'].contains).takeWhile isIdentifierChar

/-- The keywords that make the line of a statement. -/
def keywords : List (List Char) :=
  ["import".toList, "export".toList]

theorem leadWord_append (hne : word ≠ []) (hword : ∀ c ∈ word, isIdentifierChar c = true)
    (hrest : ∀ c ∈ rest.head?, isIdentifierChar c = false) : leadWord (word ++ rest) = word := by
  obtain ⟨c, word, rfl⟩ := List.exists_cons_of_ne_nil hne
  have hc := isBlank_of_isIdentifierChar (hword c List.mem_cons_self)
  have hstart : [' ', '\t'].contains c = false := by
    by_contra hspace
    simp only [List.contains_cons, List.contains_nil, Bool.or_false, Bool.not_eq_false,
      Bool.or_eq_true, beq_iff_eq] at hspace
    rcases hspace with rfl | rfl <;> exact absurd hc (by decide)
  have htake : rest.takeWhile isIdentifierChar = [] := by
    cases rest with
    | nil => rfl
    | cons d rest => simp [hrest d rfl]
  rw [leadWord, List.cons_append, List.dropWhile_cons_of_neg (by simpa using hstart),
    ← List.cons_append, List.takeWhile_append_of_pos hword, htake, List.append_nil]

theorem leadWord_gap (hgap : ∀ c ∈ gap, Text.isBlank c = true) (rest : List Char) :
    leadWord (gap ++ rest) = [] ∨ leadWord (gap ++ rest) = leadWord rest := by
  induction gap with
  | nil => exact .inr rfl
  | cons c gap ih =>
      obtain ⟨hc, hgap⟩ := List.forall_mem_cons.mp hgap
      by_cases hspace : [' ', '\t'].contains c = true
      · have hdrop : leadWord (c :: (gap ++ rest)) = leadWord (gap ++ rest) := by
          rw [leadWord, List.dropWhile_cons_of_pos hspace, leadWord]
        rw [List.cons_append, hdrop]
        exact ih hgap
      · left
        rw [leadWord, List.cons_append, List.dropWhile_cons_of_neg hspace]
        simp [isIdentifierChar_of_isBlank hc]

/-- No line that starts within the text starts with a keyword. -/
def Calm (text rest : List Char) : Prop :=
  ∀ front behind, text = front ++ '\n' :: behind → leadWord (behind ++ rest) ∉ keywords

theorem Calm.append (hfirst : Calm first (second ++ rest)) (hsecond : Calm second rest) :
    Calm (first ++ second) rest := by
  intro front behind hsplit
  rcases List.append_eq_append_iff.mp hsplit with ⟨inner, rfl, heq⟩ | ⟨inner, rfl, heq⟩
  · exact hsecond inner behind heq
  · cases inner with
    | nil => exact hsecond [] behind heq.symm
    | cons c inner =>
        rw [List.cons_append] at heq
        obtain ⟨rfl, rfl⟩ := List.cons.inj heq
        rw [List.append_assoc]
        exact hfirst front inner rfl

theorem calm_of_notMem (htext : '\n' ∉ text) : Calm text rest := by
  rintro front behind rfl
  simp at htext

theorem calm_gap (hgap : ∀ c ∈ gap, Text.isBlank c = true) (hrest : leadWord rest ∉ keywords) :
    Calm gap rest := by
  rintro front behind rfl
  have hbehind : ∀ c ∈ behind, Text.isBlank c = true := fun c hc => hgap c (by simp [hc])
  rcases leadWord_gap hbehind rest with hlead | hlead <;> rw [hlead]
  · decide
  · exact hrest

theorem leadWord_of_head (hrest : ∀ c ∈ rest.head?, c = ',' ∨ c = '\x7d') : leadWord rest = [] := by
  cases rest with
  | nil => rfl
  | cons c rest =>
      rcases hrest c rfl with rfl | rfl <;> rfl

theorem Item.newline_notMem (item : Item) : '\n' ∉ item.text := by
  have hname : ∀ name : Name, '\n' ∉ name.text := fun name => name.notMem (by decide)
  simp only [text, List.mem_append, not_or]
  refine ⟨?_, hname item.name, ?_⟩
  · split_ifs <;> decide
  · unfold newName
    split
    next => exact List.not_mem_nil
    next other _ =>
      rw [List.mem_append, not_or]
      exact ⟨by decide, hname other⟩

theorem Name.notMem_keywords (name : Name) : name.text ∉ keywords := by
  have hreserved : ∀ word ∈ keywords, word ∈ reservedWords := by decide
  exact fun hkeyword => name.notReserved (hreserved _ hkeyword)

/-- An item starts with its name or with `type`, and neither of them is a keyword. -/
theorem Item.leadWord_notMem (item : Item) (hrest : ∀ c ∈ rest.head?, isIdentifierChar c = false) :
    leadWord (item.text ++ rest) ∉ keywords := by
  cases htype : item.typeOnly with
  | true =>
      obtain ⟨tail, htail⟩ : ∃ tail, item.text ++ rest = "type".toList ++ ' ' :: tail :=
        ⟨_, by rw [text, htype, if_pos rfl, List.append_assoc]; rfl⟩
      have hspace : ∀ c ∈ (' ' :: tail).head?, isIdentifierChar c = false := by
        rintro c ⟨⟩
        decide
      rw [htail, leadWord_append (by decide) (List.all_eq_true.mp (by decide)) hspace]
      decide
  | false =>
      rw [text, htype, if_neg Bool.false_ne_true, List.nil_append, List.append_assoc,
        leadWord_append item.name.ne_nil item.name.isIdentifierChar]
      · exact item.name.notMem_keywords
      · unfold newName
        cases item.renamed with
        | none => exact hrest
        | some other =>
            rintro c ⟨⟩
            decide

theorem Piece.calm (piece : Piece) (hrest : ∀ c ∈ rest.head?, c = ',' ∨ c = '\x7d') :
    Calm piece.text rest := by
  have hbehind : Calm piece.behind.text rest := by
    refine calm_gap piece.behind.isBlank ?_
    rw [leadWord_of_head hrest]
    decide
  have hstop : ∀ c ∈ (piece.behind.text ++ rest).head?, isIdentifierChar c = false := by
    intro c hc
    cases hgap : piece.behind.text with
    | nil =>
        rw [hgap] at hc
        rcases hrest c hc with rfl | rfl <;> decide
    | cons d gap =>
        rw [hgap] at hc
        cases hc
        exact isIdentifierChar_of_isBlank (piece.behind.isBlank c (by simp [hgap]))
  cases hitem : piece.item with
  | none =>
      have hgap : leadWord (piece.behind.text ++ rest) ∉ keywords := by
        have hrest := leadWord_of_head hrest
        rcases leadWord_gap piece.behind.isBlank rest with hlead | hlead <;>
          simp [hlead, hrest, keywords]
      simpa [text, hitem] using (calm_gap piece.before.isBlank hgap).append hbehind
  | some item =>
      have hbefore := calm_gap piece.before.isBlank (item.leadWord_notMem hstop)
      rw [← List.append_assoc] at hbefore
      have hname : Calm item.text (piece.behind.text ++ rest) :=
        calm_of_notMem item.newline_notMem
      simpa [text, hitem] using hbefore.append (hname.append hbehind)

theorem calm_pieces (pieces : List Piece) (hrest : ∀ c ∈ rest.head?, c = ',' ∨ c = '\x7d') :
    Calm (pieces.flatMap fun piece => ',' :: piece.text) rest := by
  induction pieces with
  | nil => exact calm_of_notMem List.not_mem_nil
  | cons piece pieces ih =>
      have hcomma : ∀ {text rest}, Calm text rest → Calm (',' :: text) rest :=
        fun htext => (calm_of_notMem (by decide : '\n' ∉ [','])).append htext
      refine Calm.append (hcomma (piece.calm ?_)) ih
      cases pieces with
      | nil => exact hrest
      | cons other pieces =>
          rintro c ⟨⟩
          exact .inl rfl

theorem Braces.calm (braces : Braces) : Calm braces.text rest := by
  have hopen : ∀ {rest}, Calm ['\x7b'] rest := calm_of_notMem (by decide)
  have hclose : Calm ['\x7d'] rest := calm_of_notMem (by decide)
  have hothers : Calm (braces.others.flatMap fun piece => ',' :: piece.text) ('\x7d' :: rest) :=
    calm_pieces braces.others (by rintro c ⟨⟩; exact .inr rfl)
  have hfirst : Calm braces.first.text
      ((braces.others.flatMap fun piece => ',' :: piece.text) ++ ('\x7d' :: rest)) := by
    refine braces.first.calm ?_
    cases braces.others with
    | nil => rintro c ⟨⟩; exact .inr rfl
    | cons piece others => rintro c ⟨⟩; exact .inl rfl
  exact hopen.append ((hfirst.append hothers).append hclose)

theorem Clause.calm (clause : Clause) : Calm clause.text rest := by
  have hname : ∀ (name : Name) rest, Calm name.text rest :=
    fun name rest => calm_of_notMem (name.notMem (by decide))
  cases clause with
  | default name => exact hname name rest
  | named braces => exact braces.calm
  | both name braces =>
      exact (hname name _).append ((calm_of_notMem (by decide)).append braces.calm)
  | wildcard name => exact (calm_of_notMem (by decide)).append (hname name rest)
  | all => exact calm_of_notMem (by decide)

namespace Statement

theorem notMem_quoted (statement : Statement) (hc : c ∈ ['\\', '(', ')', '\n']) :
    c ∉ statement.quoted.text := by
  have hquote : c ≠ statement.quoted.quote := by
    have hquotes : ∀ quote ∈ ['\'', '"'], quote ∉ ['\\', '(', ')', '\n'] := by simp
    rintro rfl
    exact hquotes _ statement.quoted.quote_mem hc
  have hplain : c ∉ statement.quoted.inside :=
    fun hmem => statement.specifier.isPlain c hmem (by simp at hc ⊢; tauto)
  simp [Quoted.text, hquote, hplain]

theorem calm_quoted (statement : Statement) : Calm statement.quoted.text rest :=
  calm_of_notMem (statement.notMem_quoted (by decide))

theorem calm_withClause (statement : Statement) (keyword : String) (typeOnly : Bool)
    (clause : Clause) (hkeyword : '\n' ∉ keyword.toList) :
    Calm (statement.withClause keyword typeOnly clause) rest := by
  have htype : '\n' ∉ ' ' :: if typeOnly then "type ".toList else [] := by
    cases typeOnly <;> decide
  have hfrom : '\n' ∉ " from ".toList := by decide
  exact (calm_of_notMem hkeyword).append ((calm_of_notMem htype).append
    (clause.calm.append ((calm_of_notMem hfrom).append statement.calm_quoted)))

theorem calm (statement : Statement) :
    Calm (statement.lead ++ (statement.core ++ [';'])) rest := by
  have hend : Calm [';'] rest := calm_of_notMem (by decide)
  have hcore : ∀ {rest}, Calm statement.core rest := by
    intro rest
    unfold core
    split
    · exact (calm_of_notMem (by decide)).append statement.calm_quoted
    · exact statement.calm_withClause _ _ _ (by decide)
    · exact statement.calm_withClause _ _ _ (by decide)
    next name awaited _ =>
      have hcall : '\n' ∉ callKeyword awaited ++ ['('] := by
        cases awaited <;> decide
      have hclose : Calm [')'] rest := calm_of_notMem (by decide)
      simpa using (calm_of_notMem hcall).append (statement.calm_quoted.append hclose)
  have hlead : ∀ {rest}, Calm statement.lead rest := by
    intro rest
    unfold lead
    split
    next name awaited _ =>
      have hname : '\n' ∉ name.text := name.notMem (by decide)
      have hequals : '\n' ∉ " = ".toList ++ if awaited then "await ".toList else [] := by
        cases awaited <;> decide
      exact (calm_of_notMem (by decide)).append
        ((calm_of_notMem hname).append (calm_of_notMem hequals))
    next => exact calm_of_notMem List.not_mem_nil
  exact hlead.append (hcore.append hend)

end Statement

end ImportRules.Source
