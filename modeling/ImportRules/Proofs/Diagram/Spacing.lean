import ImportRules.Proofs.Diagram.Drawing
import ImportRules.Proofs.Diagram.Page
import ImportRules.Proofs.Regex.Searching
/-!
# Spacing around arrows

Blanks around an arrow make no difference to a diagram, with one exception. A bare name goes on with
dots, so an arrow that points right and starts with dots loses them to a bare name right before it,
and a direction with more dots behind it as well. The name gives back one dot if no arrow could
start behind it otherwise. So the exception concerns exactly the arrows that start with a dot and do
not go on with their head or with the bracket of a style.
-/

namespace ImportRules.Diagram

open Regex

variable {p : Place} {word rest lead : List Char} {body remnant : Body} {cut : Cut}

/-! ## What a bare name takes of an arrow -/

/-- The arrow starts with a dot that a bare name right before it takes: one with something behind
it, other than a style. -/
def Body.Clings (body : Body) : Prop :=
  ∃ c more, body.text = '.' :: c :: more ∧ c ≠ '['

/-- A bare name takes the lead of the arrow and leaves the remnant, which does not cling to it. -/
structure Body.Sheds (body : Body) (lead : List Char) (remnant : Body) : Prop where
  text_eq : body.text = lead ++ remnant.text
  nameChars : ∀ c ∈ lead, (Text.isWord c || c == '.') = true
  apart : ¬remnant.Clings

/-- An arrow that clings to a name is still an arrow without a dot, or without a dot and the
direction behind it. -/
theorem Body.Clings.exists_shorter (hclings : body.Clings) :
    ∃ (lead : List Char) (shorter : Body), body.text = lead ++ shorter.text ∧ lead ≠ [] ∧
      ∀ c ∈ lead, (Text.isWord c || c == '.') = true := by
  obtain ⟨c, more, htext, hc⟩ := hclings
  have hdot : (Text.isWord '.' || '.' == '.') = true := by decide
  obtain ⟨⟨run, hne, hdashed⟩, more?⟩ := body
  obtain ⟨d, run, rfl⟩ := List.exists_cons_of_ne_nil hne
  obtain rfl : d = '.' := by
    rw [Body.text, List.cons_append] at htext
    exact (List.cons.inj htext).1
  cases run with
  | cons e run =>
      have hdashed := (List.forall_mem_cons.mp hdashed).2
      refine ⟨['.'], ⟨⟨e :: run, List.cons_ne_nil e run, hdashed⟩, more?⟩, rfl, by simp, ?_⟩
      exact List.forall_mem_singleton.mpr hdot
  | nil =>
      rcases more? with _ | ⟨⟨direction, hdirection⟩ | ⟨style, _, _⟩, second⟩
      · cases htext
      · refine ⟨'.' :: direction.toList, ⟨second, none⟩, ?_, by simp, ?_⟩
        · simp [Body.text, Hint.text]
        · refine List.forall_mem_cons.mpr ⟨hdot, ?_⟩
          intro letter hletter
          have halpha := isAlpha_of_mem_direction hdirection letter hletter
          rw [Text.isWord_of_isAlpha halpha, Bool.true_or]
      · have hbracket : '[' = c := (List.cons.inj (List.cons.inj htext).2).1
        exact absurd hbracket.symm hc

/-- Dot by dot and direction by direction, a name takes all of an arrow that clings to it. -/
theorem Body.exists_sheds (body : Body) : ∃ lead remnant, body.Sheds lead remnant := by
  induction hlength : body.text.length using Nat.strongRecOn generalizing body with
  | ind length ih =>
      by_cases hclings : body.Clings
      · obtain ⟨lead, shorter, htext, hne, hlead⟩ := hclings.exists_shorter
        have hshorter : shorter.text.length < length := by
          have hpositive := List.length_pos_iff.mpr hne
          rw [← hlength, htext, List.length_append]
          omega
        obtain ⟨more, remnant, hmore⟩ := ih _ hshorter shorter rfl
        refine ⟨lead ++ more, remnant, ?_, ?_, hmore.apart⟩
        · rw [htext, hmore.text_eq, List.append_assoc]
        · exact List.forall_mem_append.mpr ⟨hlead, hmore.nameChars⟩
      · exact ⟨[], body, rfl, by simp, hclings⟩

/-- Something is taken exactly of an arrow that clings. -/
theorem Body.Sheds.ne_nil_iff (hsheds : body.Sheds lead remnant) : lead ≠ [] ↔ body.Clings := by
  have htext := hsheds.text_eq
  constructor
  · intro hne
    obtain ⟨d, lead, rfl⟩ := List.exists_cons_of_ne_nil hne
    obtain ⟨hd, hlead⟩ := List.forall_mem_cons.mp hsheds.nameChars
    have hdash : d ∈ ['-', '.'] := body.head_text_append [] d (by simp [htext])
    obtain rfl : d = '.' := by
      rcases List.mem_pair.mp hdash with rfl | rfl
      · exact absurd hd (by decide)
      · rfl
    obtain ⟨e, more, hmore⟩ := List.exists_cons_of_ne_nil remnant.text_ne_nil
    cases lead with
    | nil =>
        have he : e ∈ ['-', '.'] := remnant.head_text_append [] e (by simp [hmore])
        refine ⟨e, more, by rw [htext, hmore]; rfl, ?_⟩
        rintro rfl
        exact absurd he (by decide)
    | cons f lead =>
        refine ⟨f, lead ++ remnant.text, htext, ?_⟩
        rintro rfl
        exact absurd (hlead '[' List.mem_cons_self) (by decide)
  · rintro ⟨c, more, hclings, hc⟩ rfl
    exact hsheds.apart ⟨c, more, htext.symm.trans hclings, hc⟩

/-! ## Names that give back a dot -/

theorem exists_inits_concat (word : List Char) (c : Char) :
    ∃ shorter, (word ++ [c]).inits = shorter ++ [word, word ++ [c]] := by
  induction word with
  | nil => exact ⟨[], rfl⟩
  | cons d word ih =>
      obtain ⟨shorter, hinits⟩ := ih
      exact ⟨[] :: shorter.map (d :: ·), by simp [hinits]⟩

/-- A bare name can stop behind each of its characters, the last one first. -/
theorem ends_name_bare {c : Char} (hword : IsAlias (c :: word))
    (hafter : p.after = c :: word ++ rest)
    (hrest : ∀ d ∈ rest.head?, (Text.isWord d || d == '.') = false) :
    Diagram.name.ends p = (word.inits.map (p.past [c]).past).reverse := by
  have hchoice : Diagram.name = .alt (.sequence [.char '[', .many1 (.noneOf [']']), .char ']'])
      (.alt (.sequence [.char '"', .many1 (.noneOf ['"']), .char '"']) bareName) := rfl
  have hhead : ∀ d ∈ p.after.head?, d ≠ '[' ∧ d ≠ '"' := hafter ▸ hword.head_ne rest
  have hapart := Place.distinct_of_pairwise ((p.past [c]).pairwise_index_reverse word)
  have hbare : bareName.ends p = (word.inits.map (p.past [c]).past).reverse := by
    rw [bareName, ends, ends_one_of_accepts hafter hword.1, List.flatMap_singleton,
      ends_many_one (Place.after_past_of_append hafter) hword.2 hrest, hapart]
  rw [hchoice, ends, ends_delimited fun d hd => (hhead d hd).1, List.nil_append, ends,
    ends_delimited fun d hd => (hhead d hd).2, List.nil_append, hbare, hapart, hapart]

theorem IsAlias.append (hword : IsAlias word)
    (hrest : ∀ c ∈ rest, (Text.isWord c || c == '.') = true) : IsAlias (word ++ rest) := by
  cases word with
  | nil => exact hword.elim
  | cons c word => exact ⟨hword.1, List.forall_mem_append.mpr ⟨hword.2, hrest⟩⟩

/-- A bare name that ends in a dot can stop before the dot as well. -/
theorem exists_ends_name (hword : IsAlias word) (hafter : p.after = word ++ '.' :: rest)
    (hrest : ∀ c ∈ rest.head?, (Text.isWord c || c == '.') = false) :
    ∃ more, Diagram.name.ends p = p.past (word ++ ['.']) :: p.past word :: more := by
  have hdotted : IsAlias (word ++ ['.']) :=
    hword.append (List.forall_mem_singleton.mpr (by decide))
  cases word with
  | nil => exact hword.elim
  | cons c word =>
      obtain ⟨shorter, hinits⟩ := exists_inits_concat word '.'
      rw [List.cons_append] at hdotted ⊢
      refine ⟨(shorter.map (p.past [c]).past).reverse, ?_⟩
      rw [ends_name_bare hdotted (by simpa using hafter) hrest, hinits,
        Place.past_cons p c (word ++ ['.']), Place.past_cons p c word]
      simp

/-- A bare name gives back a dot behind which no arrow can start. -/
theorem prefers_name_dot {stop : Place} {c : Char} (hword : IsAlias word)
    (hafter : p.after = word ++ '.' :: c :: rest) (hc : c ∈ ['>', '['])
    (hstop : arrowPart.Prefers ((p.past word).marked 1 p.index) stop) :
    (Regex.seq (.group 1 name) arrowPart).Prefers p stop := by
  have hrefused : (Text.isWord c || c == '.') = false ∧ arrowPart.startsWith c = false := by
    rcases List.mem_pair.mp hc with rfl | rfl <;> decide
  obtain ⟨more, hmore⟩ := exists_ends_name hword hafter (by simpa using hrefused.1)
  have hends : (Regex.group 1 name).ends p = [(p.past (word ++ ['.'])).marked 1 p.index] ++
      (p.past word).marked 1 p.index :: more.map (·.marked 1 p.index) := by
    rw [ends, hmore]
    rfl
  refine Prefers.seq_of_ends hends ?_ hstop
  intro place hplace
  obtain rfl := List.mem_singleton.mp hplace
  have hbehind : ((p.past (word ++ ['.'])).marked 1 p.index).after = c :: rest :=
    Place.after_past_of_append (by simpa using hafter)
  exact ends_eq_nil_of_head rfl (by simpa [hbehind] using hrefused.2)

/-- The line of an arrow that does not cling to the bare name right before it. -/
theorem Cut.Readable.readLine_bare (hcut : cut.Readable) (hleft : IsAlias cut.left)
    (hbefore : cut.before = []) (hstem : cut.stem = body.stem false) (hapart : ¬body.Clings) :
    Diagram.readLine cut.line = .relation cut.left cut.stem cut.right := by
  obtain ⟨c, more, htext⟩ := List.exists_cons_of_ne_nil body.text_ne_nil
  have hc : c ∈ ['-', '.'] := body.head_text_append [] c (by simp [htext])
  have hrest : cut.before ++ cut.fromStem =
      c :: (more ++ ('>' :: (cut.behind ++ (cut.right ++ cut.tail)))) := by
    simp [hbefore, Cut.fromStem, hstem, Body.stem, htext]
  have hline := cut.after_start_line
  rcases List.mem_pair.mp hc with rfl | rfl
  · refine hcut.readLine (prefers_name_bare hleft hline ?_)
    rw [hrest]
    simp
    decide
  · refine Cut.readLine_of_prefers ?_
    have hstop : arrowPart.Prefers cut.leftEnd (cut.stop cut.leftEnd) :=
      hcut.prefers (Place.after_past_of_append hline)
    rw [hrest] at hline
    cases more with
    | nil => exact prefers_name_dot hleft hline (by decide) hstop
    | cons d more =>
        obtain rfl : d = '[' := Classical.not_not.mp fun hd => hapart ⟨d, more, htext, hd⟩
        exact prefers_name_dot hleft hline (by decide) hstop

/-! ## Lines of a drawing -/

theorem Mention.IsBare.isAlias {mention : Mention} (hbare : mention.IsBare) :
    IsAlias mention.text := by
  cases mention with
  | bare word hword _ => exact hword
  | _ => exact hbare.elim

namespace Drawing

variable (drawing : Drawing)

/-- The arrow clings to the left name where no blank stands between them. -/
def Clings : Prop :=
  drawing.left.IsBare ∧ drawing.leftward = false ∧ drawing.body.Clings

/-- A line with a blank before its arrow, or with an arrow that does not cling, is read as it is
drawn. -/
theorem readLine_cut {before : Blanks} (hspaced : before.text ≠ [] ∨ ¬drawing.Clings)
    (behind : Blanks) :
    readLine (drawing.cut before behind).line =
      .relation drawing.left.text drawing.stem drawing.right.text := by
  have hcut := drawing.readable_cut before behind
  have hline := (drawing.cut before behind).after_start_line
  cases hbefore : before.text with
  | cons c more =>
      refine hcut.readLine (drawing.left.prefers hline fun _ d hd => ?_)
      obtain rfl : c = d := by simpa [cut, hbefore] using hd
      exact not_nameChar_of_isBlank (before.blank c (hbefore ▸ List.mem_cons_self))
  | nil =>
      have hapart : ¬drawing.Clings := hspaced.resolve_left (not_not.mpr hbefore)
      by_cases hbare : drawing.left.IsBare
      · cases hleftward : drawing.leftward with
        | true =>
            refine hcut.readLine (drawing.left.prefers hline fun _ d hd => ?_)
            obtain rfl : '<' = d := by
              simpa [cut, hbefore, Cut.fromStem, stem, Body.stem, hleftward] using hd
            decide
        | false =>
            have hstem : drawing.stem = drawing.body.stem false := by rw [stem, hleftward]
            exact hcut.readLine_bare hbare.isAlias hbefore hstem
              fun hclings => hapart ⟨hbare, hleftward, hclings⟩
      · exact hcut.readLine (drawing.left.prefers hline fun hleft => absurd hleft hbare)

/-- Right behind a bare name, the name is read with the lead of the arrow and the arrow without. -/
theorem readLine_of_sheds (hbare : drawing.left.IsBare) (hleftward : drawing.leftward = false)
    (hsheds : drawing.body.Sheds lead remnant) (behind : Blanks) :
    readLine (drawing.cut .none behind).line =
      .relation (drawing.left.text ++ lead) (remnant.stem false) drawing.right.text := by
  -- The line is also that of the remnant behind the longer name, to which it does not cling.
  let other : Drawing := { drawing with body := remnant }
  let moved : Cut := { other.cut .none behind with left := drawing.left.text ++ lead }
  have hshed : drawing.body.stem false = lead ++ remnant.stem false := by
    simp [Body.stem, hsheds.text_eq]
  have hmoved : (drawing.cut .none behind).line = moved.line := by
    simp [moved, other, cut, Cut.line, Cut.fromStem, stem, hleftward, hshed, Blanks.none,
      Blanks.spaces]
  have hreadable : moved.Readable := (other.readable_cut .none behind).withLeft _
  have hremnant : moved.stem = remnant.stem false := by simp [moved, other, cut, stem, hleftward]
  have hleft : IsAlias moved.left := hbare.isAlias.append hsheds.nameChars
  rw [hmoved, hreadable.readLine_bare hleft rfl hremnant hsheds.apart, hremnant]
  rfl

/-- Right behind its left name, an arrow that clings loses its lead to the name. -/
theorem exists_readLine_tight (behind : Blanks) :
    ∃ lead remnant, drawing.stem = lead ++ remnant ∧ heading remnant = heading drawing.stem ∧
      (lead ≠ [] ↔ drawing.Clings) ∧ readLine (drawing.cut .none behind).line =
        .relation (drawing.left.text ++ lead) remnant drawing.right.text := by
  by_cases hclings : drawing.Clings
  · obtain ⟨hbare, hleftward, hbody⟩ := hclings
    obtain ⟨lead, remnant, hsheds⟩ := drawing.body.exists_sheds
    refine ⟨lead, remnant.stem false, ?_, ?_, ?_, ?_⟩
    · simp [stem, hleftward, Body.stem, hsheds.text_eq]
    · rw [stem, hleftward, Body.heading_stem, Body.heading_stem]
    · rw [hsheds.ne_nil_iff]
      exact ⟨fun _ => ⟨hbare, hleftward, hbody⟩, fun _ => hbody⟩
    · exact drawing.readLine_of_sheds hbare hleftward hsheds behind
  · refine ⟨[], drawing.stem, rfl, rfl, ?_, ?_⟩
    · simpa using hclings
    · rw [List.append_nil]
      exact drawing.readLine_cut (.inr hclings) behind

/-! ## Diagrams -/

theorem line_ne_nil (before behind : Blanks) : drawing.line before behind ≠ [] := by
  simp [line, drawing.left.solid.ne_nil]

/-- Any two spacings of an arrow that does not cling give the same diagram, or none. -/
theorem toOption_ofText_line {before before' : Blanks}
    (hspaced : before.text ≠ [] ∨ ¬drawing.Clings) (hspaced' : before'.text ≠ [] ∨ ¬drawing.Clings)
    (behind behind' : Blanks) (page : Page) :
    (ofText (page.text (drawing.line before behind))).toOption =
      (ofText (page.text (drawing.line before' behind'))).toOption := by
  refine page.toOption_ofText_text (drawing.line_ne_nil _ _) (drawing.line_ne_nil _ _)
    (drawing.newline_not_mem_line _ _) (drawing.newline_not_mem_line _ _) ?_
  intro ending hending
  have hline := drawing.trim_line_append before behind hending
  have hline' := drawing.trim_line_append before' behind' hending
  refine sameMeaning_of_opens ?_ ?_ ?_
  · exact hline ▸ drawing.opens_cut before behind
  · exact hline' ▸ drawing.opens_cut before' behind'
  · rw [hline, hline', drawing.readLine_cut hspaced, drawing.readLine_cut hspaced']

/-- On a page of its own, a line with an arrow that points right gives its one relation. -/
theorem ofText_text_blank {before behind : Blanks} {left arrow right : List Char}
    (hread : readLine (drawing.cut before behind).line = .relation left arrow right)
    (hheading : heading arrow = .rightward) :
    ofText (Page.blank.text (drawing.line before behind)) =
      .ok (({} : Diagram).addRelation ⟨({} : Draft).resolve left, ({} : Draft).resolve right⟩) := by
  have hblank : ∀ c ∈ ['\n'], Text.isBlank c = true :=
    List.forall_mem_singleton.mpr (by decide)
  have hline := drawing.trim_line_append before behind hblank
  have hopens : Opens (Text.trim (drawing.line before behind ++ ['\n'])) :=
    hline ▸ drawing.opens_cut before behind
  let relation : Relation := ⟨({} : Draft).resolve left, ({} : Draft).resolve right⟩
  have hadd : ({} : Draft).add (readLine (Text.trim (drawing.line before behind ++ ['\n']))) =
      some { diagram := ({} : Diagram).addRelation relation } := by
    rw [hline, hread, Draft.add, hheading]
  exact Page.ofText_text_blank (drawing.newline_not_mem_line before behind) hopens hadd

/-- An arrow that clings gives another diagram without a blank before it, on a page of its own. -/
theorem ofText_text_blank_ne (hclings : drawing.Clings) (before : Gap) (behind behind' : Blanks) :
    (ofText (Page.blank.text (drawing.line .none behind))).toOption ≠
      (ofText (Page.blank.text (drawing.line before.toBlanks behind'))).toOption := by
  have hbare := hclings.1
  have hrightward : heading drawing.stem = .rightward := by
    rw [stem, hclings.2.1, Body.heading_stem]
    rfl
  obtain ⟨lead, remnant, -, hremnant, hlead, htight⟩ := drawing.exists_readLine_tight behind
  have hspaced := drawing.readLine_cut (.inl before.ne_nil) behind'
  have hresolve : ∀ rest, ({} : Draft).resolve (drawing.left.text ++ rest) =
      String.ofList (drawing.left.text ++ rest) :=
    fun rest => Draft.resolve_bare {} hbare.isAlias rest
  have hname := hresolve []
  rw [List.append_nil] at hname
  rw [drawing.ofText_text_blank htight (hremnant.trans hrightward),
    drawing.ofText_text_blank hspaced hrightward, hresolve, hname]
  intro hsame
  -- The one relation of either diagram starts at the name before the arrow.
  have hrelations := congrArg Diagram.relations (Option.some.inj hsame)
  have hsource := congrArg Relation.source (List.cons.inj hrelations).1
  have hnil : lead = [] := by simpa using String.ofList_injective hsource
  exact hlead.mpr hclings hnil

end Drawing

/-- An arrow with a blank before it is read as it is drawn. Right behind the left name it loses its
lead to the name, which is something if and only if the arrow clings to the name. So the blanks
around an arrow, and whether there are any, make no difference to any diagram if and only if the
arrow does not cling. -/
theorem ofText_spacing (drawing : Drawing) (before : Gap) (behind behind' : Blanks) :
    readLine (Text.trim (drawing.line before.toBlanks behind')) =
        .relation drawing.left.text drawing.stem drawing.right.text ∧
      (∃ lead remnant, drawing.stem = lead ++ remnant ∧ heading remnant = heading drawing.stem ∧
        (lead ≠ [] ↔ drawing.Clings) ∧ readLine (Text.trim (drawing.line .none behind)) =
          .relation (drawing.left.text ++ lead) remnant drawing.right.text) ∧
      ((∀ page : Page, (ofText (page.text (drawing.line .none behind))).toOption =
          (ofText (page.text (drawing.line before.toBlanks behind'))).toOption) ↔
        ¬drawing.Clings) := by
  have htrim : ∀ before behind : Blanks,
      Text.trim (drawing.line before behind) = (drawing.cut before behind).line := by
    intro before behind
    have hnone : ∀ c ∈ ([] : List Char), Text.isBlank c = true := by simp
    simpa using drawing.trim_line_append before behind hnone
  refine ⟨?_, ?_, ?_, ?_⟩
  · rw [htrim]
    exact drawing.readLine_cut (.inl before.ne_nil) behind'
  · rw [htrim]
    exact drawing.exists_readLine_tight behind
  · exact fun hsame hclings => drawing.ofText_text_blank_ne hclings before behind behind' (hsame _)
  · intro hapart page
    exact drawing.toOption_ofText_line (.inr hapart) (.inl before.ne_nil) behind behind' page

/-- Two dots and a head between two identifiers. -/
def dottedArrow : Drawing where
  indent := .none
  left := .bare ['a'] ⟨by decide, by simp⟩ (by decide)
  leftward := false
  body := ⟨⟨['.', '.'], by simp, by simp⟩, none⟩
  right := .bare ['b'] ⟨by decide, by simp⟩ (by decide)
  ending := ⟨.none, none, by simp⟩

/-- Of two dots right behind an identifier, the name takes the first one. -/
theorem ofText_dottedArrow :
    Page.blank.text (dottedArrow.line .none .none) = "@startuml\na..>b\n@enduml" ∧
      Page.blank.text (dottedArrow.line (.spaces 1) (.spaces 1)) =
        "@startuml\na ..> b\n@enduml" ∧
      ofText "@startuml\na..>b\n@enduml" = .ok ⟨["a.", "b"], [⟨"a.", "b"⟩]⟩ ∧
      ofText "@startuml\na ..> b\n@enduml" = .ok ⟨["a", "b"], [⟨"a", "b"⟩]⟩ := by
  let dot : Body := ⟨⟨['.'], by simp, by simp⟩, none⟩
  have hsheds : dottedArrow.body.Sheds ['.'] dot := by
    refine ⟨rfl, List.forall_mem_singleton.mpr (by decide), ?_⟩
    rintro ⟨c, more, htext, -⟩
    cases htext
  have htight := dottedArrow.readLine_of_sheds trivial rfl hsheds .none
  have hgap : (Blanks.spaces 1).text ≠ [] := by decide
  have hspaced := dottedArrow.readLine_cut (.inl hgap) (.spaces 1)
  refine ⟨rfl, rfl, ?_, ?_⟩
  · exact (dottedArrow.ofText_text_blank htight rfl).trans (by decide)
  · exact (dottedArrow.ofText_text_blank hspaced rfl).trans (by decide)

end ImportRules.Diagram
