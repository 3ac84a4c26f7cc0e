import ImportRules.Proofs.Source.StatementReading
/-!
# Statements are recognized

Every form finds the statements that are written for it, each once, and nothing else. Hence a text
of statements is read as these statements, in their order.
-/

namespace ImportRules.Source

open Regex

variable {c : Char} {p q stop : Place} {code front rest tail : List Char} {clause : Clause}
  {typeOnly : Bool} {found : Match}

/-- What is searched for. -/
inductive Shape where
  | importing
  | effect
  | exporting
  | call
  deriving DecidableEq

namespace Shape

def regex : Shape → Regex
  | .importing => clauseImport
  | .effect => effectImport
  | .exporting => exportFrom
  | .call => moduleCall

/-- The kinds of a match. -/
def kinds (code : List Char) : Shape → Match → List ImportKind
  | .importing | .exporting => kindsOfClause code
  | .effect => fun _ => []
  | .call => fun _ => [.value]

/-- The word that statements of a shape start with. -/
def word : Shape → String
  | .importing | .effect => "import"
  | .exporting => "export"
  | .call => "const"

end Shape

def Form.shape : Form → Shape
  | .effect => .effect
  | .importing .. => .importing
  | .exporting .. => .exporting
  | .call .. => .call

namespace Statement

def shape (statement : Statement) : Shape :=
  statement.form.shape

/-- What is found of a statement that starts at an index. -/
def entry (statement : Statement) (index : Nat) : ImportStatement where
  specifier := String.ofList statement.specifier.text
  kinds := statement.kinds
  start := index + statement.lead.length

end Statement

/-! ## Forms at the start of a line -/

def importingForm : LineForm :=
  clauseForm "import" (by decide) importClause

def exportingForm : LineForm :=
  clauseForm "export" (by decide) exportClause

def effectForm : LineForm where
  keyword := "import"
  tail := .seq (.many .blank) (quotedSpecifier 3)
  isKeyword := by decide
  notNullable := rfl
  notWord c hc := by
    have hcases : Text.isBlank c = true ∨ ['\'', '"'].contains c = true := by
      rw [← startsWith_quotedSpecifier]
      simpa [startsWith, isNullable, many, blank] using hc
    rcases hcases with hc | hc
    · exact isIdentifierChar_of_isBlank hc
    · rcases List.mem_pair.mp (List.contains_iff_mem.mp hc) with rfl | rfl <;> decide

namespace Statement

theorem leadWord_text (statement : Statement) (rest : List Char) :
    leadWord (statement.text ++ rest) = statement.shape.word.toList := by
  have hword : ∀ (word : String) rest, word.toList ≠ [] →
      word.toList.all isIdentifierChar = true →
      leadWord (word.toList ++ ' ' :: rest) = word.toList := by
    intro word rest hne hword
    refine leadWord_append hne (List.all_eq_true.mp hword) ?_
    rintro c ⟨⟩
    decide
  obtain ⟨form, doubleQuotes, specifier⟩ := statement
  cases form with
  | effect => exact hword "import" _ (by decide) (by decide)
  | importing typeOnly clause hclause => exact hword "import" _ (by decide) (by decide)
  | exporting typeOnly clause hclause => exact hword "export" _ (by decide) (by decide)
  | call name awaited => exact hword "const" _ (by decide) (by decide)

theorem silent_of_start (statement : Statement) (form : LineForm)
    (hafter : p.after = statement.text ++ rest) (hstart : form.regex.ends p = []) :
    form.regex.Silent p statement.text := by
  intro front behind htext hbehind
  by_cases hfront : front = []
  · rw [hfront]
    exact hstart
  · exact statement.ends_within form hafter htext hfront hbehind

theorem silent_tail (statement : Statement) (form : LineForm)
    (hafter : p.after = statement.text ++ rest) (htext : statement.text = c :: tail) :
    form.regex.Silent (p.past [c]) tail := by
  intro front behind hsplit hbehind
  rw [← Place.past_cons]
  exact statement.ends_within form hafter (by rw [htext, hsplit]; rfl) (List.cons_ne_nil c front)
    hbehind

/-- An import for its effect has no clause. -/
theorem ends_importing_of_effect (statement : Statement)
    (hafter : p.after = "import ".toList ++ (statement.quoted.text ++ rest)) :
    importingForm.regex.ends p = [] := by
  have hstart : ∀ c, (sequence [typeKeyword, .group 2 importClause, fromSpecifier]).startsWith c =
      true → isIdentifierChar c = true ∨ c = '*' ∨ c = '\x7b' := by
    intro c hc
    have hcases : c = 't' ∨ (isIdentifierChar c = true ∨ c = '*') ∨ c = '\x7b' := by
      simpa [Regex.sequence, typeKeyword, startsWith, Regex.optional, literal, char, importClause,
        isNullable] using hc
    rcases hcases with rfl | (hc | hc) | hc
    · exact .inl (by decide)
    · exact .inl hc
    · exact .inr (.inl hc)
    · exact .inr (.inr hc)
  have hkeyword : p.after = "import".toList ++ ([' '] ++ statement.quoted.quote ::
      (statement.quoted.inside ++ (statement.quoted.quote :: rest))) := by
    simpa [Quoted.text] using hafter
  refine importingForm.ends_eq_nil_of_gap rfl (fun word hword => (mem_words_many1_one.mp hword).2)
    rfl ?_ hkeyword (List.forall_mem_singleton.mpr (by decide)) ?_ ?_
  · intro c hc
    rcases hstart c hc with hc | rfl | rfl
    · exact isBlank_of_isIdentifierChar hc
    · decide
    · decide
  · exact statement.quoted.head_text [] _ rfl
  · have hquotes : ∀ quote ∈ ['\'', '"'], isIdentifierChar quote = false ∧ quote ≠ '*' ∧
        quote ≠ '\x7b' :=
      List.forall_mem_cons.mpr ⟨by decide, List.forall_mem_singleton.mpr (by decide)⟩
    obtain ⟨hword, hstar, hbrace⟩ := hquotes _ statement.quoted.quote_mem
    by_contra hc
    rcases hstart _ (Bool.not_eq_false _ ▸ hc) with hc | hc | hc
    · rw [hword] at hc
      cases hc
    · exact hstar hc
    · exact hbrace hc

/-- An import with a clause has no quote behind its keyword. -/
theorem ends_effect_of_importing (statement : Statement)
    (hafter : p.after = statement.withClause "import" typeOnly clause ++ rest) :
    effectForm.regex.ends p = [] := by
  obtain ⟨d, tail, htext, hblank, hquote⟩ : ∃ d tail,
      (if typeOnly then "type ".toList else []) ++ clause.text = d :: tail ∧
        Text.isBlank d = false ∧ (!List.contains ['\'', '"'] d) = true := by
    cases typeOnly with
    | true => exact ⟨'t', _, rfl, by decide, by decide⟩
    | false =>
        obtain ⟨d, tail, htext⟩ := List.exists_cons_of_ne_nil clause.solid.ne_nil
        have hd : d ∈ clause.text.head? := by rw [htext]; rfl
        exact ⟨d, tail, htext, clause.solid.head d hd,
          clause.readable.notQuote d (List.mem_of_mem_head? hd)⟩
  have hkeyword : p.after = "import".toList ++ ([' '] ++ d ::
      (tail ++ (" from ".toList ++ (statement.quoted.text ++ rest)))) := by
    rw [hafter, ← List.cons_append, ← htext]
    simp [withClause]
  refine effectForm.ends_eq_nil_of_gap rfl (fun word hword => mem_words_many_one.mp hword)
    rfl (fun c => isBlank_of_startsWith_quotedSpecifier) hkeyword
    (List.forall_mem_singleton.mpr (by decide)) hblank ?_
  rw [startsWith_quotedSpecifier]
  exact (Bool.not_eq_true' _).mp hquote

theorem paren_notMem (statement : Statement) (hshape : statement.shape ≠ .call) :
    '(' ∉ statement.lead ++ statement.core := by
  obtain ⟨form, doubleQuotes, specifier⟩ := statement
  cases form with
  | effect =>
      have hquoted := notMem_quoted ⟨.effect, doubleQuotes, specifier⟩ (by decide : '(' ∈ _)
      simpa [lead, core] using hquoted
  | importing typeOnly clause hclause => exact paren_notMem_withClause _ _ _ _ (by decide)
  | exporting typeOnly clause hclause => exact paren_notMem_withClause _ _ _ _ (by decide)
  | call name awaited => exact absurd rfl hshape

/-- A form finds nothing in a statement that is not written for it. -/
theorem silent (statement : Statement) (shape : Shape) (hshape : statement.shape ≠ shape)
    (hafter : p.after = statement.text ++ rest) : shape.regex.Silent p statement.text := by
  have hword : ∀ form : LineForm, statement.shape.word.toList ≠ form.keyword.toList →
      form.regex.Silent p statement.text := by
    intro form hne
    refine statement.silent_of_start form hafter (form.ends_eq_nil_of_leadWord ?_)
    rwa [hafter, statement.leadWord_text]
  -- Two of the forms share their keyword and are told apart by what follows it.
  cases shape with
  | call =>
      have htext : statement.text = (statement.lead ++ statement.core) ++ [';', '\n'] := by
        simp [text]
      rw [htext] at hafter ⊢
      exact silent_moduleCall hafter (statement.paren_notMem hshape)
  | exporting =>
      refine hword exportingForm ?_
      revert hshape
      cases statement.shape <;> decide
  | importing =>
      cases hform : statement.form with
      | effect =>
          refine statement.silent_of_start importingForm hafter ?_
          exact statement.ends_importing_of_effect (by simpa [text, lead, core, hform] using hafter)
      | importing typeOnly clause hclause => exact absurd (by rw [shape, hform, Form.shape]) hshape
      | exporting _ _ _ | call _ _ =>
          refine hword importingForm ?_
          simp only [shape, hform, Form.shape]
          decide
  | effect =>
      cases hform : statement.form with
      | importing typeOnly clause hclause =>
          refine statement.silent_of_start effectForm hafter ?_
          exact statement.ends_effect_of_importing
            (by simpa [text, lead, core, hform] using hafter)
      | effect => exact absurd (by rw [shape, hform, Form.shape]) hshape
      | exporting _ _ _ | call _ _ =>
          refine hword effectForm ?_
          simp only [shape, hform, Form.shape]
          decide

/-! ## What is found -/

/-- The search for its own form finds a statement that starts at a place. -/
structure FoundAt (statement : Statement) (p stop : Place) : Prop where
  prefers : statement.shape.regex.Prefers (p.past statement.lead) stop
  starts : (p.past statement.lead).index < stop.index
  stops : stop.index ≤ (p.past statement.text).index
  entry : ∀ code front, code = front ++ p.after → p.index = front.length →
    statementOf code (statement.shape.kinds code)
      ⟨(p.past statement.lead).index, stop.index, stop.marks⟩ = statement.entry p.index

/-- The statements with a clause, whichever keyword they start with. -/
theorem foundAt_withClause (statement : Statement) {keyword : String} {body : Regex}
    (hkeyword : keyword.toList ∈ keywords)
    (hregex : statement.shape.regex = (clauseForm keyword hkeyword body).regex)
    (hshape : ∀ code, statement.shape.kinds code = kindsOfClause code)
    (hlead : statement.lead = [])
    (hcore : statement.core = statement.withClause keyword typeOnly clause)
    (hkinds : statement.kinds =
      (if typeOnly || clause.typesOnly then .type else .value) :: clause.ways)
    (hbody : ∀ (q : Place) rest,
      q.after = clause.text ++ (" from ".toList ++ (statement.quoted.text ++ rest)) →
      (Regex.seq (.group 2 body) fromSpecifier).Prefers q
        (readStop clause.text [' '] [' '] statement.quoted q))
    (hline : Anchor.lineStart.holds p.before p.after.head? = true) (hmarks : p.marks = [])
    (hafter : p.after = statement.text ++ rest) :
    statement.FoundAt p (readStop clause.text [' '] [' '] statement.quoted
      (clauseStart (modifier typeOnly) ((p.past keyword.toList).past [' ']))) := by
  have htext : p.after = statement.withClause keyword typeOnly clause ++ (';' :: '\n' :: rest) := by
    simp [hafter, text, hlead, hcore]
  have hindex : (readStop clause.text [' '] [' '] statement.quoted
      (clauseStart (modifier typeOnly) ((p.past keyword.toList).past [' ']))).index =
        p.index + (statement.withClause keyword typeOnly clause).length := by
    have hfrom : " from ".toList.length = "from".toList.length + 2 := rfl
    simp only [withClause, hfrom, index_readStop, index_clauseStart, typeText_modifier,
      Place.index_past, List.length_append, List.length_cons, List.length_nil]
    omega
  constructor
  · rw [hregex, hlead]
    exact statement.prefers_withClause hline hkeyword htext fun q => hbody q _
  · have hpositive : 0 < (statement.withClause keyword typeOnly clause).length := by
      simp [withClause]
    rw [hindex, hlead, Place.past_nil]
    omega
  · have hlength : statement.text.length =
        (statement.withClause keyword typeOnly clause).length + 2 := by
      simp [text, hlead, hcore]
    rw [hindex, Place.index_past, hlength]
    omega
  · intro code front hcode hfront
    have hclause : code =
        (front ++ (keyword.toList ++ (' ' :: if typeOnly then "type ".toList else []))) ++
          (clause.text ++ (" from ".toList ++
            (statement.quoted.text ++ (';' :: '\n' :: rest)))) := by
      simp [hcode, htext, withClause]
    rw [hshape, hlead, entry, hkinds, hlead, ← clause.clauseKinds_text]
    refine statementOf_readStop _ _ hclause ?_ ?_
    · simp only [hfront, index_clauseStart, typeText_modifier, Place.index_past,
        List.length_append, List.length_cons, List.length_nil]
      omega
    · have hnone : ((p.past keyword.toList).past [' ']).marks = [] := hmarks
      rw [find?_marks_clauseStart _ hnone]
      cases typeOnly <;> rfl

theorem foundAt_effect (statement : Statement) (hform : statement.form = .effect)
    (hline : Anchor.lineStart.holds p.before p.after.head? = true)
    (hafter : p.after = statement.text ++ rest) :
    statement.FoundAt p (statement.quoted.stop ((p.past "import".toList).past [' '])) := by
  have hshape : statement.shape = .effect := by rw [shape, hform, Form.shape]
  have hlead : statement.lead = [] := by rw [lead, hform]
  have hcore : statement.core = "import ".toList ++ statement.quoted.text := by rw [core, hform]
  have htext : p.after =
      "import".toList ++ (' ' :: (statement.quoted.text ++ (';' :: '\n' :: rest))) := by
    simp [hafter, text, hlead, hcore]
  have hindex : (statement.quoted.stop ((p.past "import".toList).past [' '])).index =
      p.index + statement.core.length := by
    simp [hcore, Nat.add_assoc, Nat.add_comm 7]
  constructor
  · rw [hshape, hlead]
    refine (prefers_lineKeyword hline effectForm.isKeyword htext).andThen htext fun hspace => ?_
    exact (prefers_space hspace (statement.quoted.head_text _)).andThen hspace
      statement.quoted.prefers
  · have hpositive : 0 < statement.core.length := by simp [hcore]
    rw [hindex, hlead, Place.past_nil]
    omega
  · have hlength : statement.text.length = statement.core.length + 2 := by simp [text, hlead]
    rw [hindex, Place.index_past, hlength]
    omega
  · intro code front hcode hfront
    have hquoted : code = (front ++ "import ".toList) ++
        (statement.quoted.text ++ (';' :: '\n' :: rest)) := by
      simp [hcode, htext]
    have hopened : ((p.past "import".toList).past [' ']).index =
        (front ++ "import ".toList).length := by
      simp [hfront]
    rw [hshape, statementOf, statement.quoted.group?_stop rfl hquoted hopened, entry, kinds, hform,
      hlead]
    rfl

theorem foundAt_call (statement : Statement) {name : Name} {awaited : Bool}
    (hform : statement.form = .call name awaited) (hafter : p.after = statement.text ++ rest) :
    statement.FoundAt p ((statement.quoted.stop (((p.past statement.lead).past
      (callKeyword awaited)).past ['('])).past [')']) := by
  have hshape : statement.shape = .call := by rw [shape, hform, Form.shape]
  have hcore : statement.core =
      callKeyword awaited ++ ('(' :: (statement.quoted.text ++ [')'])) := by
    rw [core, hform]
  have htext : p.after = statement.lead ++ (callKeyword awaited ++
      ('(' :: (statement.quoted.text ++ (')' :: ';' :: '\n' :: rest)))) := by
    simp [hafter, text, hcore]
  have hindex : ((statement.quoted.stop (((p.past statement.lead).past
      (callKeyword awaited)).past ['('])).past [')']).index =
        p.index + statement.lead.length + statement.core.length := by
    simp only [hcore, Place.index_past, Quoted.index_stop, List.length_append, List.length_cons,
      List.length_nil]
    omega
  constructor
  · obtain ⟨front, hlead⟩ : ∃ front, statement.lead = front ++ [' '] := by
      cases awaited with
      | false => exact ⟨"const ".toList ++ (name.text ++ " =".toList), by simp [lead, hform]⟩
      | true => exact ⟨"const ".toList ++ (name.text ++ " = await".toList), by simp [lead, hform]⟩
    have hbefore : (p.past statement.lead).before = some ' ' := by simp [Place.past, hlead]
    rw [hshape]
    exact statement.prefers_moduleCall hbefore (Place.after_past_of_append htext)
  · have hpositive : 0 < statement.core.length := by simp [hcore]
    rw [hindex, Place.index_past]
    omega
  · have hlength : statement.text.length =
        statement.lead.length + (statement.core.length + 2) := by
      simp [text]
    rw [hindex, Place.index_past, hlength]
    omega
  · intro code front hcode hfront
    have hquoted : code = (front ++ (statement.lead ++ (callKeyword awaited ++ ['(']))) ++
        (statement.quoted.text ++ (')' :: ';' :: '\n' :: rest)) := by
      simp [hcode, htext]
    have hopened : (((p.past statement.lead).past (callKeyword awaited)).past ['(']).index =
        (front ++ (statement.lead ++ (callKeyword awaited ++ ['(']))).length := by
      simp [hfront, Nat.add_assoc]
    rw [hshape, statementOf, statement.quoted.group?_stop rfl hquoted hopened, entry, kinds, hform]
    rfl

theorem exists_foundAt (statement : Statement)
    (hline : Anchor.lineStart.holds p.before p.after.head? = true) (hmarks : p.marks = [])
    (hafter : p.after = statement.text ++ rest) : ∃ stop, statement.FoundAt p stop := by
  obtain ⟨form, doubleQuotes, specifier⟩ := statement
  cases form with
  | effect => exact ⟨_, foundAt_effect _ rfl hline hafter⟩
  | importing typeOnly clause hclause =>
      exact ⟨_, foundAt_withClause _ importingForm.isKeyword rfl (fun _ => rfl) rfl rfl rfl
        (fun _ _ => prefers_importClause _) hline hmarks hafter⟩
  | exporting typeOnly clause hclause =>
      exact ⟨_, foundAt_withClause _ exportingForm.isKeyword rfl (fun _ => rfl) rfl rfl rfl
        (fun _ _ => prefers_exportClause _ hclause) hline hmarks hafter⟩
  | call name awaited => exact ⟨_, foundAt_call _ rfl hafter⟩

theorem silent_around_call (statement : Statement) {name : Name} {awaited : Bool}
    (hform : statement.form = .call name awaited) (hafter : p.after = statement.text ++ rest) :
    ∃ c tail, statement.text = statement.lead ++ c :: tail ∧
      moduleCall.Silent p statement.lead ∧
      moduleCall.Silent (p.past (statement.lead ++ [c])) tail := by
  obtain ⟨c, keyword, hkeyword, hmem⟩ : ∃ c keyword,
      callKeyword awaited = c :: keyword ∧
        c :: keyword ∈ callKeywords := by
    cases awaited with
    | false => exact ⟨'r', "equire".toList, rfl, by decide⟩
    | true => exact ⟨'i', "mport".toList, rfl, by decide⟩
  have hlead : '(' ∉ statement.lead := by
    have hname : '(' ∉ name.text := name.notMem (by decide)
    cases awaited <;> simp [lead, hform, hname]
  have hargument : '(' ∉ statement.quoted.text ++ [')'] := by
    simpa using statement.notMem_quoted (by decide : '(' ∈ _)
  have htext : statement.text = statement.lead ++ (c :: (keyword ++
      '(' :: ((statement.quoted.text ++ [')']) ++ [';', '\n']))) := by
    rw [text, core, hform]
    simp [hkeyword]
  have hcall : p.after = statement.lead ++ (c :: keyword) ++
      '(' :: ((statement.quoted.text ++ [')']) ++ [';', '\n'] ++ rest) := by
    simp [hafter, htext]
  exact ⟨c, _, htext, silent_before_call hmem hcall hlead,
    silent_behind_call hmem hcall hlead hargument⟩

/-- The search for its own form finds nothing else in a statement. -/
theorem silent_around (statement : Statement) (hafter : p.after = statement.text ++ rest) :
    ∃ c tail, statement.text = statement.lead ++ c :: tail ∧
      statement.shape.regex.Silent p statement.lead ∧
      statement.shape.regex.Silent (p.past (statement.lead ++ [c])) tail := by
  have hnone : ∀ r : Regex, r.Silent p [] := by
    intro r front behind hsplit hbehind
    exact absurd (List.append_eq_nil_iff.mp hsplit.symm).2 hbehind
  obtain ⟨form, doubleQuotes, specifier⟩ := statement
  cases form with
  | effect => exact ⟨_, _, rfl, hnone _, silent_tail _ effectForm hafter rfl⟩
  | importing typeOnly clause hclause =>
      exact ⟨_, _, rfl, hnone _, silent_tail _ importingForm hafter rfl⟩
  | exporting typeOnly clause hclause =>
      exact ⟨_, _, rfl, hnone _, silent_tail _ exportingForm hafter rfl⟩
  | call name awaited => exact silent_around_call _ rfl hafter

end Statement

/-! ## Searches over all statements -/

/-- What is found of statements that are written one after the other from an index on. -/
def located : Nat → List Statement → List (Shape × ImportStatement)
  | _, [] => []
  | index, statement :: statements =>
      (statement.shape, statement.entry index) ::
        located (index + statement.text.length) statements

theorem map_searchAllFrom (shape : Shape) (statements : List Statement) {free : Nat}
    {previous : Option Nat} (hafter : p.after = statements.flatMap Statement.text)
    (hline : Anchor.lineStart.holds p.before p.after.head? = true) (hmarks : p.marks = [])
    (hcode : code = front ++ p.after) (hindex : p.index = front.length) (hfree : free ≤ p.index) :
    (searchAllFrom shape.regex p.index p.before free previous
        (statements.flatMap Statement.text)).map (statementOf code (shape.kinds code)) =
      ((located p.index statements).filter (·.1 = shape)).map (·.2) := by
  induction statements generalizing p front free previous with
  | nil =>
      have hnullable : shape.regex.isNullable = false := by cases shape <;> rfl
      rw [List.flatMap_nil] at hafter ⊢
      rw [searchAllFrom_nil hmarks hafter hnullable]
      rfl
  | cons statement statements ih =>
      rw [List.flatMap_cons] at hafter ⊢
      have hnext : (p.past statement.text).after = statements.flatMap Statement.text :=
        Place.after_past_of_append hafter
      have hlater : ∀ {free previous}, free ≤ (p.past statement.text).index →
          (searchAllFrom shape.regex (p.past statement.text).index (p.past statement.text).before
            free previous (statements.flatMap Statement.text)).map
              (statementOf code (shape.kinds code)) =
          ((located (p.past statement.text).index statements).filter (·.1 = shape)).map (·.2) := by
        intro free previous hfree
        -- Behind a statement there is the start of a line again.
        have hrest : code = (front ++ statement.text) ++ (p.past statement.text).after := by
          rw [hnext, hcode, hafter, List.append_assoc]
        refine ih hnext ?_ hmarks hrest ?_ hfree
        · simp [Anchor.holds, Place.past, Statement.text]
        · simp [hindex]
      rw [located]
      by_cases hshape : statement.shape = shape
      · subst hshape
        obtain ⟨stop, hfound⟩ := statement.exists_foundAt hline hmarks hafter
        obtain ⟨c, tail, htext, hlead, htail⟩ := statement.silent_around hafter
        rw [htext] at hafter ⊢
        rw [searchAllFrom_hit hmarks hafter hfree hlead hfound.prefers hfound.starts htail, ← htext,
          List.map_cons, hfound.entry code front hcode hindex, hlater hfound.stops]
        simp
      · rw [searchAllFrom_of_silent hmarks hafter (statement.silent shape hshape hafter),
          hlater (by rw [Place.index_past]; omega)]
        simp [hshape]

/-! ## Order -/

theorem start_of_mem_located {index : Nat} {statements : List Statement}
    {found : Shape × ImportStatement} (hfound : found ∈ located index statements) :
    index ≤ found.2.start := by
  induction statements generalizing index with
  | nil => cases hfound
  | cons statement statements ih =>
      rcases List.mem_cons.mp hfound with rfl | hfound
      · exact Nat.le_add_right index statement.lead.length
      · exact (Nat.le_add_right index statement.text.length).trans (ih hfound)

theorem pairwise_located (index : Nat) (statements : List Statement) :
    ((located index statements).map (·.2)).Pairwise fun first second =>
      first.start < second.start := by
  induction statements generalizing index with
  | nil => exact List.Pairwise.nil
  | cons statement statements ih =>
      refine List.pairwise_cons.mpr ⟨?_, ih _⟩
      intro later hlater
      obtain ⟨found, hfound, rfl⟩ := List.mem_map.mp hlater
      have hstart := start_of_mem_located hfound
      have hlength : statement.lead.length < statement.text.length := by simp [Statement.text]
      simp only [Statement.entry]
      omega

/-- The statements by their shapes. -/
theorem flatMap_filter_perm (found : List (Shape × ImportStatement)) :
    ([Shape.importing, .effect, .exporting, .call].flatMap fun shape =>
      (found.filter (·.1 = shape)).map (·.2)).Perm (found.map (·.2)) := by
  induction found with
  | nil => rfl
  | cons first found ih =>
      obtain ⟨shape, entry⟩ := first
      refine List.Perm.trans ?_ (ih.cons entry)
      simp only [List.flatMap_cons, List.flatMap_nil, List.append_nil]
      -- The entry comes first of its shape, behind the entries of the shapes before.
      cases shape with
      | importing => rfl
      | effect => exact List.perm_middle
      | exporting => exact (List.perm_middle.append_left _).trans List.perm_middle
      | call =>
          exact ((List.perm_middle.append_left _).append_left _).trans
            ((List.perm_middle.append_left _).trans List.perm_middle)

/-- A text of statements is read as these statements. -/
theorem imports_flatMap_text (statements : List Statement) :
    imports (statements.flatMap Statement.text) = (located 0 statements).map (·.2) := by
  have hfound : ∀ shape : Shape, statementsOf shape.regex
      (shape.kinds (statements.flatMap Statement.text)) (statements.flatMap Statement.text) =
        ((located 0 statements).filter (·.1 = shape)).map (·.2) := by
    intro shape
    have hafter : (Place.start (statements.flatMap Statement.text)).after = _ := rfl
    exact map_searchAllFrom shape statements hafter rfl rfl (List.nil_append _).symm rfl le_rfl
  have hperm := flatMap_filter_perm (located 0 statements)
  simp only [← hfound] at hperm
  rw [imports, blankComments_flatMap_text]
  refine mergeSort_eq_of_perm ImportStatement.start _ ?_ (pairwise_located 0 statements)
  simpa [Shape.regex, Shape.kinds] using hperm

/-- A text of statements, each on its own line or lines, is read as these statements in their order,
with the specifier and the kinds of each. -/
theorem imports_of_statements (statements : List Statement) :
    ((imports (statements.flatMap Statement.text)).map fun found =>
        (found.specifier, found.kinds)) =
      statements.map fun statement =>
        (String.ofList statement.specifier.text, statement.kinds) := by
  rw [imports_flatMap_text]
  generalize 0 = index
  induction statements generalizing index with
  | nil => rfl
  | cons statement statements ih =>
      rw [located, List.map_cons, List.map_cons, ih]
      rfl

example : (Statement.mk (.importing true (.wildcard ⟨"ns".toList, by simp,
    List.all_eq_true.mp (by decide), by simp, by decide⟩) rfl) true ⟨"x".toList, by simp,
      List.forall_mem_singleton.mpr (by decide)⟩).text =
        "import type * as ns from \"x\";\n".toList := rfl

end ImportRules.Source
