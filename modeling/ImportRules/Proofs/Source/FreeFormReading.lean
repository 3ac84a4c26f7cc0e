import ImportRules.Proofs.LabelOrder
import ImportRules.Proofs.Source.Recognition
/-!
# Which kinds are read of an import

Of an import with any names between any blanks, the search for imports with a clause finds the
clause as it is written, and no other search finds anything at its start. So the import comes first
among those of a text that starts with it, with the kinds that are read off its clause.
-/

namespace ImportRules.Source

open Regex

/-- An import with a clause at the start of a text comes first, if nothing else is found there. -/
theorem exists_imports_eq_cons {text code : List Char} {stop : Place}
    (hcode : blankComments text = code) (hclause : clauseImport.Prefers (Place.start code) stop)
    (hstop : 0 < stop.index) (heffect : effectImport.ends (Place.start code) = [])
    (hexport : exportFrom.ends (Place.start code) = [])
    (hcall : moduleCall.ends (Place.start code) = []) :
    ∃ later, imports text =
        statementOf code (kindsOfClause code) ⟨0, stop.index, stop.marks⟩ :: later ∧
      ∀ found ∈ later, 0 < found.start := by
  obtain ⟨more, hfirst, hmore⟩ := exists_searchAll_eq_cons hclause hstop
  have hlater : ∀ {found : List Match} {kinds : Match → List ImportKind},
      (∀ other ∈ found, 0 < other.first) →
        ∀ entry ∈ found.map (statementOf code kinds), 0 < entry.start := by
    intro found kinds hfound entry hentry
    obtain ⟨other, hother, rfl⟩ := List.mem_map.mp hentry
    exact hfound other hother
  have hothers : ∀ entry ∈ more.map (statementOf code (kindsOfClause code)) ++
      (effectImport.searchAll code).map (statementOf code fun _ => []) ++
      (exportFrom.searchAll code).map (statementOf code (kindsOfClause code)) ++
      (moduleCall.searchAll code).map (statementOf code fun _ => [.value]), 0 < entry.start := by
    intro entry hentry
    simp only [List.mem_append] at hentry
    rcases hentry with ((hentry | hentry) | hentry) | hentry
    · exact hlater hmore entry hentry
    · exact hlater (fun _ => first_pos_of_mem_searchAll heffect) entry hentry
    · exact hlater (fun _ => first_pos_of_mem_searchAll hexport) entry hentry
    · exact hlater (fun _ => first_pos_of_mem_searchAll hcall) entry hentry
  unfold imports
  simp only [hcode, statementsOf, hfirst, List.map_cons, List.cons_append]
  obtain ⟨later, hperm, hsort⟩ := exists_mergeSort_eq_cons ImportStatement.start _
    (List.Perm.refl (statementOf code (kindsOfClause code) ⟨0, stop.index, stop.marks⟩ :: _))
    hothers
  exact ⟨later, hsort, fun entry hentry => hothers entry (hperm.mem_iff.mp hentry)⟩

/-! ## Texts of one line -/

theorem LineForm.first_of_mem_searchAll (form : LineForm) {code : List Char} {found : Match}
    (hnewline : '\n' ∉ code) (hfound : found ∈ form.regex.searchAll code) : found.first = 0 := by
  obtain ⟨front, behind, rfl : code = _, hfirst, hends⟩ := readsAt_of_mem_searchAllFrom hfound
  rcases List.eq_nil_or_concat' front with rfl | ⟨line, c, rfl⟩
  · exact hfirst
  · refine absurd (form.ends_eq_nil_of_before (c := c) (by simp [Place.past]) ?_) hends
    rintro rfl
    exact hnewline (by simp)

theorem searchAll_moduleCall {code : List Char} (hparen : '(' ∉ code) :
    moduleCall.searchAll code = [] := by
  refine List.eq_nil_iff_forall_not_mem.mpr ?_
  intro found hfound
  obtain ⟨front, behind, rfl : code = _, -, hends⟩ := readsAt_of_mem_searchAllFrom hfound
  refine hends (ends_moduleCall_eq_nil ?_)
  rintro keyword - gap - tail hcall
  rw [Place.after_past_of_append rfl] at hcall
  exact hparen (by simp [hcall])

/-- In a line without parentheses, statements are found only at its start. -/
theorem start_of_mem_imports {text : List Char} {found : ImportStatement}
    (hcode : blankComments text = text) (hnewline : '\n' ∉ text) (hparen : '(' ∉ text)
    (hfound : found ∈ imports text) : found.start = 0 := by
  have hstart : ∀ (form : LineForm) {kinds},
      found ∈ statementsOf form.regex kinds text → found.start = 0 := by
    intro form kinds hmem
    obtain ⟨other, hother, rfl⟩ := List.mem_map.mp hmem
    exact form.first_of_mem_searchAll hnewline hother
  simp only [imports, hcode, List.mem_mergeSort, List.mem_append] at hfound
  rcases hfound with ((hfound | hfound) | hfound) | hfound
  · exact hstart importingForm hfound
  · exact hstart effectForm hfound
  · exact hstart exportingForm hfound
  · rw [statementsOf, searchAll_moduleCall hparen] at hfound
    cases hfound

namespace FreeForm

variable {c d : Char} {p q : Place} {gap tail blanks rest : List Char}

/-! ## The word `type` in front of a clause -/

/-- Blanks and the character behind them are cut off in one way, unless blanks are left over. -/
theorem eq_or_blank_of_append (hgap : ∀ c ∈ gap, Text.isBlank c = true)
    (hd : Text.isBlank d = false) (hblanks : ∀ c ∈ blanks, Text.isBlank c = true)
    (htext : gap ++ d :: tail = blanks ++ rest) :
    rest = d :: tail ∨ ∀ c ∈ rest.head?, Text.isBlank c = true := by
  cases rest with
  | nil => exact .inr (by simp)
  | cons c rest =>
      by_cases hc : Text.isBlank c = true
      · right
        rintro _ ⟨⟩
        exact hc
      · left
        obtain ⟨-, rfl, rfl⟩ :=
          Text.append_cons_inj hgap hblanks hd (Bool.eq_false_iff.mpr hc) htext
        rfl

/-- Where a name is read as `type` with blanks behind it, what follows are more blanks or the next
character that is not blank. -/
theorem Identifier.rest_of_type (name : Identifier) (hgap : ∀ c ∈ gap, Text.isBlank c = true)
    (hd : Text.isBlank d = false) (hapart : gap = [] → d = ',')
    (hne : blanks ≠ []) (hblanks : ∀ c ∈ blanks, Text.isBlank c = true)
    (htext : name.text ++ (gap ++ d :: tail) = "type".toList ++ (blanks ++ rest)) :
    rest = d :: tail ∨ ∀ c ∈ rest.head?, Text.isBlank c = true := by
  obtain ⟨b, blanks, rfl⟩ := List.exists_cons_of_ne_nil hne
  obtain ⟨e, more, hmore, he⟩ : ∃ e more, gap ++ d :: tail = e :: more ∧
      (!Text.isBlank e && e != ',') = false := by
    cases gap with
    | nil => exact ⟨d, tail, rfl, by simp [hapart rfl]⟩
    | cons e gap => exact ⟨e, gap ++ d :: tail, rfl, by simp [hgap e List.mem_cons_self]⟩
  have hname : ∀ c ∈ name.text, (!Text.isBlank c && c != ',') = true := by
    intro c hc
    have hcomma : c ≠ ',' := fun heq => name.notMem (by decide) (heq ▸ hc)
    simp [(name.isPlain c hc).1, hcomma]
  have hletters : ∀ c ∈ "type".toList, (!Text.isBlank c && c != ',') = true :=
    List.all_eq_true.mp (by decide)
  have hcut : name.text ++ e :: more = "type".toList ++ b :: (blanks ++ rest) := by
    rw [← hmore, htext]
    rfl
  have hb : (!Text.isBlank b && b != ',') = false := by simp [hblanks b List.mem_cons_self]
  -- The name has neither blanks nor commas, so that it is the word `type` itself.
  obtain ⟨-, rfl, hrest⟩ := Text.append_cons_inj hname hletters he hb hcut
  exact eq_or_blank_of_append hgap hd hblanks (by rw [hmore, hrest]; rfl)

/-- What is read of an import behind its keywords. -/
def clauseParts : Regex :=
  .seq (.group 2 importClause) fromSpecifier

theorem startsWith_clauseParts (c : Char) :
    clauseParts.startsWith c = (isIdentifierChar c || c == '*' || c == '\x7b') := by
  simp [clauseParts, importClause, startsWith, isNullable]

theorem isBlank_of_startsWith (hc : clauseParts.startsWith c = true) : Text.isBlank c = false := by
  rw [startsWith_clauseParts, Bool.or_eq_true, Bool.or_eq_true, beq_iff_eq, beq_iff_eq] at hc
  rcases hc with (hc | rfl) | rfl
  · exact isBlank_of_isIdentifierChar hc
  · decide
  · decide

namespace Line

/-- What stands behind a clause. -/
def ending (line : Line) (rest : List Char) : List Char :=
  line.before.text ++ ("from".toList ++ (line.behind.text ++ (line.quoted.text ++ rest)))

/-- Where `type` is the name of a default, no clause is read behind it. -/
theorem ends_behind_type (line : Line) (hne : blanks ≠ [])
    (hblanks : ∀ c ∈ blanks, Text.isBlank c = true) {more : List Char}
    (htext : line.clause.text ++ line.ending more = "type".toList ++ (blanks ++ rest))
    (hafter : q.after = rest) : clauseParts.ends q = [] := by
  -- Fewer blanks than there are may be read with `type`, and no clause starts with the others.
  have hblank : (∀ c ∈ rest.head?, Text.isBlank c = true) → clauseParts.ends q = [] := by
    intro hhead
    apply ends_eq_nil_of_head rfl
    intro c hc
    rw [hafter] at hc
    by_contra hstarts
    have hc := hhead c hc
    rw [isBlank_of_startsWith (Bool.not_eq_false _ ▸ hstarts)] at hc
    cases hc
  cases hclause : line.clause with
  | default name =>
      have hapart : line.before.text ≠ [] := line.separated (by rw [hclause]; rfl)
      rw [hclause] at htext
      rcases name.rest_of_type line.before.isBlank (by decide : Text.isBlank 'f' = false)
        (fun hnil => absurd hnil hapart) hne hblanks htext with hrest | hhead
      · exact ends_importClause_eq_nil line.behind.isBlank (hafter.trans hrest)
      · exact hblank hhead
  | bindings bound =>
      rw [hclause] at htext
      cases bound with
      | braces _ | wildcard _ _ _ => exact absurd (List.cons.inj htext).1 (by decide)
  | both name before behind bound =>
      rw [hclause, Clause.text, List.append_assoc, List.append_assoc] at htext
      rcases name.rest_of_type before.isBlank (by decide : Text.isBlank ',' = false)
        (fun _ => rfl) hne hblanks htext with hrest | hhead
      · apply ends_eq_nil_of_head rfl
        rw [hafter, hrest]
        rintro c ⟨⟩
        decide
      · exact hblank hhead

/-! ## The start of an import -/

theorem uncommented (line : Line) : Uncommented line.text := by
  have htype : Uncommented (typeText line.modifier) := by
    cases line.modifier with
    | none => exact uncommented_of_all rfl
    | some space => exact (uncommented_of_all (by decide)).append space.toGap.uncommented
  have hclause : Uncommented line.clause.text := uncommented_of_notMem fun _ => line.clause.notMem
  exact (uncommented_of_all (by decide)).append (line.space.toGap.uncommented.append
    (htype.append (hclause.append (line.before.uncommented.append
      ((uncommented_of_all (by decide)).append
        (line.behind.uncommented.append line.quoted.uncommented))))))

theorem text_append (line : Line) (rest : List Char) :
    line.text ++ rest = "import".toList ++ (line.space.text ++
      (typeText line.modifier ++ (line.clause.text ++ line.ending rest))) := by
  -- Unfolded without its equation, which would be proved by decoding the keyword.
  delta text
  simp only [ending, List.append_assoc]

/-- Behind `import` and its blanks there is the start of a word or of a clause. -/
theorem exists_body_eq_cons (line : Line) (rest : List Char) :
    ∃ d tail, typeText line.modifier ++ (line.clause.text ++ rest) = d :: tail ∧
      clauseParts.startsWith d = true := by
  cases line.modifier with
  | some space => exact ⟨'t', _, rfl, by decide⟩
  | none =>
      obtain ⟨d, tail, htext⟩ := List.exists_cons_of_ne_nil line.clause.solid.ne_nil
      refine ⟨d, tail ++ rest, by rw [typeText, htext]; rfl, ?_⟩
      rw [startsWith_clauseParts]
      exact line.clause.readable.head d (by rw [htext]; rfl)

/-- The place behind the specifier. -/
def stop (line : Line) (p : Place) : Place :=
  readStop line.clause.text line.before.text line.behind.text line.quoted
    (clauseStart line.modifier ((p.past "import".toList).past line.space.text))

theorem prefers (line : Line) (hline : Anchor.lineStart.holds p.before p.after.head? = true)
    (hafter : p.after = line.text ++ rest) : clauseImport.Prefers p (line.stop p) := by
  rw [text_append] at hafter
  refine (prefers_lineKeyword hline (by decide) hafter).andThen hafter fun hspace => ?_
  refine (prefers_many1_one hspace line.space.ne_nil line.space.isBlank ?_).andThen hspace
    fun htype => ?_
  · obtain ⟨d, tail, hbody, hd⟩ := line.exists_body_eq_cons (line.ending rest)
    rw [hbody]
    rintro c ⟨⟩
    exact isBlank_of_startsWith hd
  · have hclause : ∀ {q : Place}, q.after = line.clause.text ++ line.ending rest →
        clauseParts.Prefers q
          (readStop line.clause.text line.before.text line.behind.text line.quoted q) :=
      line.clause.readable.prefers line.quoted line.before.isBlank line.behind.isBlank
    rw [stop]
    cases hmodifier : line.modifier with
    | none =>
        rw [hmodifier] at htype
        refine prefers_typeKeyword_none ?_ (hclause htype)
        intro blanks rest hne hblanks hread q hq
        exact line.ends_behind_type hne hblanks (htype.symm.trans hread) hq
    | some space =>
        rw [hmodifier, typeText, List.append_assoc] at htype
        refine (prefers_typeKeyword_some space.ne_nil space.isBlank htype
          (line.clause.solid.head_append _)).seq (hclause ?_)
        exact Place.after_past_of_append (Place.after_past_of_append htype)

theorem exists_after_space (line : Line) (hafter : p.after = line.text ++ rest) :
    ∃ d tail, p.after = "import".toList ++ (line.space.text ++ d :: tail) ∧
      clauseParts.startsWith d = true := by
  obtain ⟨d, tail, hbody, hd⟩ := line.exists_body_eq_cons (line.ending rest)
  exact ⟨d, tail, by rw [hafter, text_append, hbody], hd⟩

/-! ## Other forms -/

theorem ends_effect (line : Line) (hafter : p.after = line.text ++ rest) :
    effectImport.ends p = [] := by
  obtain ⟨d, tail, hafter, hd⟩ := line.exists_after_space hafter
  refine effectForm.ends_eq_nil_of_gap rfl (fun word hword => mem_words_many_one.mp hword) rfl
    (fun c => isBlank_of_startsWith_quotedSpecifier) hafter line.space.isBlank
    (isBlank_of_startsWith hd) ?_
  rw [startsWith_quotedSpecifier]
  apply (Bool.not_eq_true' _).mp
  exact notQuote_of_accepts clauseParts.startsWith (by decide) hd

theorem ends_export (line : Line) (hafter : p.after = line.text ++ rest) :
    exportFrom.ends p = [] := by
  have hlead : leadWord p.after = "import".toList := by
    rw [hafter, text_append]
    apply leadWord_append (by decide) (List.all_eq_true.mp (by decide))
    rw [line.space.head_append]
    exact fun c hc => isIdentifierChar_of_isBlank (line.space.isBlank_head c hc)
  exact exportingForm.ends_eq_nil_of_leadWord (by rw [hlead]; decide)

theorem ends_call (line : Line) (hafter : p.after = line.text ++ rest) :
    moduleCall.ends p = [] := by
  obtain ⟨d, tail, hafter, hd⟩ := line.exists_after_space hafter
  apply ends_moduleCall_eq_nil
  intro keyword hkeyword gap hgap more hcall
  rw [hafter] at hcall
  rcases List.mem_pair.mp hkeyword with rfl | rfl
  · exact absurd (List.cons.inj hcall).1 (by decide)
  · obtain ⟨-, rfl, -⟩ := Text.append_cons_inj line.space.isBlank hgap (isBlank_of_startsWith hd)
      (by decide) (List.append_cancel_left hcall)
    exact absurd hd (by decide)

/-! ## What is found -/

theorem statementOf_stop (line : Line) (last : Nat) :
    statementOf (line.text ++ rest) (kindsOfClause (line.text ++ rest))
        ⟨0, last, (line.stop (Place.start (line.text ++ rest))).marks⟩ =
      ⟨String.ofList line.quoted.inside, line.kindsRead, 0⟩ := by
  have hcode : line.text ++ rest =
      ("import".toList ++ (line.space.text ++ typeText line.modifier)) ++
        (line.clause.text ++ line.ending rest) := by
    simp [text_append]
  rw [kindsRead, ← line.clause.clauseKinds_text]
  refine statementOf_readStop 0 last hcode ?_ (find?_marks_clauseStart _ rfl)
  have hstart : (Place.start (line.text ++ rest)).index = 0 := rfl
  simp only [index_clauseStart, hstart, Place.index_past, List.length_append, Nat.zero_add,
    Nat.add_assoc]

/-- An import comes first in a text that starts with it, with the kinds that are read off its
clause. -/
theorem exists_imports_append (line : Line) (rest : List Char) :
    ∃ later, imports (line.text ++ rest) =
        ⟨String.ofList line.quoted.inside, line.kindsRead, 0⟩ :: later ∧
      ∀ found ∈ later, 0 < found.start := by
  have hcode : blankComments (line.text ++ rest) = line.text ++ blankComments rest :=
    line.uncommented rest
  have hafter : (Place.start (line.text ++ blankComments rest)).after =
      line.text ++ blankComments rest := rfl
  have hstop : 0 < (line.stop (Place.start (line.text ++ blankComments rest))).index := by
    rw [stop, readStop, Quoted.index_stop]
    exact Nat.add_pos_right _ (by simp [Quoted.text])
  rw [← line.statementOf_stop]
  exact exists_imports_eq_cons hcode (line.prefers rfl hafter) hstop (line.ends_effect hafter)
    (line.ends_export hafter) (line.ends_call hafter)

/-- An import that is all there is of a text. -/
theorem imports_text (line : Line) (hnewline : '\n' ∉ line.text) (hparen : '(' ∉ line.text) :
    imports line.text = [⟨String.ofList line.quoted.inside, line.kindsRead, 0⟩] := by
  obtain ⟨later, himports, hlater⟩ := line.exists_imports_append []
  have hcode : blankComments line.text = line.text := by
    simpa [blankComments, blankFrom] using line.uncommented []
  rw [List.append_nil] at himports
  have hnone : later = [] := by
    refine List.eq_nil_iff_forall_not_mem.mpr fun found hfound => ?_
    have hstart : found.start = 0 :=
      start_of_mem_imports hcode hnewline hparen (himports ▸ List.mem_cons_of_mem _ hfound)
    exact absurd (hlater found hfound) (by omega)
  rw [himports, hnone]

/-! ## Kinds -/

theorem mem_kindsRead_iff (line : Line) {kind : ImportKind} (htype : kind ≠ .type)
    (hvalue : kind ≠ .value) :
    kind ∈ line.kindsRead ↔
      kind ∈ line.clause.ways ∧ (kind = .wildcard → .default ∉ line.clause.ways) := by
  have hways : kind ∈ line.kindsRead ↔ kind ∈ line.clause.waysRead := by
    rw [kindsRead, List.mem_cons]
    split_ifs <;> simp [htype, hvalue]
  rw [hways]
  cases line.clause with
  | default _ => cases kind <;> simp [Clause.waysRead, Clause.ways]
  | bindings bound => cases bound <;> simp [Clause.waysRead, Clause.ways, Bindings.way]
  | both _ _ _ bound =>
      cases bound <;> cases kind <;> simp [Clause.waysRead, Clause.ways, Bindings.way]

theorem waysRead_eq_ways_iff (clause : Clause) :
    clause.waysRead = clause.ways ↔ ¬(.default ∈ clause.ways ∧ .wildcard ∈ clause.ways) := by
  cases clause with
  | default _ => simp [Clause.waysRead, Clause.ways]
  | bindings bound => cases bound <;> simp [Clause.waysRead, Clause.ways, Bindings.way]
  | both _ _ _ bound => cases bound <;> simp [Clause.waysRead, Clause.ways, Bindings.way]

theorem kindsRead_eq_kinds_iff (line : Line) :
    line.kindsRead = line.kinds ↔
      ¬(.default ∈ line.clause.ways ∧ .wildcard ∈ line.clause.ways) ∧
        (line.modifier = none → line.clause.allItems Item.looksTyped =
          line.clause.allItems (·.modifier.isSome)) := by
  have hfirst : ∀ a b : Bool, (if a then ImportKind.type else .value) =
      (if b then ImportKind.type else .value) ↔ a = b := by decide
  rw [kindsRead, kinds, List.cons.injEq, waysRead_eq_ways_iff, typeOnly, hfirst, and_comm]
  cases line.modifier <;> simp

/-- An import is read with its specifier. Its kinds tell whether it binds a default and whether it
has braces, whereas the name for a whole module is overlooked behind a default. They start with that
of types if the import says so itself, or if it has nothing but braces and all their items look like
types. So they are the kinds of the import unless it binds both a default and a whole module, or its
items look other than they are. -/
theorem imports_kinds (line : Line) (rest : List Char) :
    ∃ kinds later,
      imports (line.text ++ rest) = ⟨String.ofList line.quoted.inside, kinds, 0⟩ :: later ∧
        (∀ found ∈ later, 0 < found.start) ∧
        (.default ∈ kinds ↔ .default ∈ line.clause.ways) ∧
        (.named ∈ kinds ↔ .named ∈ line.clause.ways) ∧
        (.wildcard ∈ kinds ↔ .wildcard ∈ line.clause.ways ∧ .default ∉ line.clause.ways) ∧
        kinds.head? = some (if line.modifier.isSome || line.clause.allItems Item.looksTyped
          then .type else .value) ∧
        (kinds = line.kinds ↔
          ¬(.default ∈ line.clause.ways ∧ .wildcard ∈ line.clause.ways) ∧
            (line.modifier = none → line.clause.allItems Item.looksTyped =
              line.clause.allItems (·.modifier.isSome))) := by
  obtain ⟨later, himports, hlater⟩ := line.exists_imports_append rest
  refine ⟨line.kindsRead, later, himports, hlater, ?_, ?_, ?_, rfl, line.kindsRead_eq_kinds_iff⟩
  · simp [line.mem_kindsRead_iff]
  · simp [line.mem_kindsRead_iff]
  · simp [line.mem_kindsRead_iff]

end Line

/-- A name of one letter. -/
def Identifier.ofLetter (c : Char) (hstarts : isIdentifierChar c = true)
    (hplain : Text.isBlank c = false ∧ c ∉ marks) : Identifier where
  text := [c]
  ne_nil := List.cons_ne_nil c []
  starts := by simpa using hstarts
  isPlain := List.forall_mem_singleton.mpr hplain

/-- `import a, * as b from 'x'` -/
def mixedLine : Line where
  space := .single
  modifier := none
  clause :=
    .both (.ofLetter 'a' (by decide) (by decide)) ⟨[], List.forall_mem_nil _⟩ Space.single.toGap
      (.wildcard Space.single.toGap .single (.ofLetter 'b' (by decide) (by decide)))
  before := Space.single.toGap
  behind := Space.single.toGap
  quoted := ⟨'\'', by decide, ['x'], List.cons_ne_nil 'x' [],
    List.forall_mem_singleton.mpr (by decide)⟩
  separated _ := List.cons_ne_nil ' ' []

/-- The name for the whole module is overlooked. -/
theorem imports_mixedLine :
    mixedLine.text = "import a, * as b from 'x'".toList ∧
      mixedLine.kinds = [.value, .default, .wildcard] ∧
        imports mixedLine.text = [⟨"x", [.value, .default], 0⟩] := by
  have himports := mixedLine.imports_text (by decide) (by decide)
  exact ⟨rfl, rfl, himports⟩

/-- A modifier is overlooked in front of a tab. -/
example : clauseKinds "\x7b type\tA \x7d".toList false = [.value, .named] := by decide

/-- The name `type` is taken for a modifier. -/
example : clauseKinds "\x7b type as A \x7d".toList false = [.type, .named] := by decide

end FreeForm

end ImportRules.Source
