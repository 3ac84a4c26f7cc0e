import ImportRules.Proofs.Diagram.Members
import ImportRules.Proofs.Diagram.Progress
import ImportRules.Proofs.Diagram.WrittenLine
/-!
# Reading what was written

The text of a sheet is read back as the diagram of its components and relations. Every declaration
adds its component and its alias, and since aliases are distinct each keeps its meaning. Every arrow
then adds the relation between the components that it mentions.
-/

namespace ImportRules.Diagram

variable {draft : Draft} {component : Component}

/-! ## What a line adds -/

theorem unquoted_bracketed {name : List Char} (hname : IsName name) :
    unquoted (bracketed name) = name := by
  have hinner : [']'].isSuffixOf? (name ++ [']']) = some name := by
    simp
  simp [unquoted, bracketed, hinner, hname.trimmed]

namespace Draft

/-- Takes in the declaration of a component. -/
def declare (draft : Draft) (component : Component) : Draft where
  diagram := draft.diagram.addComponent component.label
  aliases := (component.alias?.map (·, component.label)).toList ++ draft.aliases

/-- Takes in an arrow. -/
def draw (draft : Draft) (drawn : Arrow) : Draft :=
  { draft with diagram := draft.diagram.addRelation drawn.relation }

/-- The alias of the component, if it has one, stands for it. -/
def Knows (draft : Draft) (component : Component) : Prop :=
  ∀ word ∈ component.alias?, draft.aliases.lookup word = some component.label

theorem resolve_bare (draft : Draft) {word : List Char} (hword : IsAlias word) (rest : List Char) :
    draft.resolve (word ++ rest) =
      (draft.aliases.lookup (word ++ rest)).getD (String.ofList (word ++ rest)) := by
  have hopen : (word ++ rest).head? ≠ some '[' := fun hmem => (hword.head_ne rest _ hmem).1 rfl
  have hquote : (word ++ rest).head? ≠ some '"' := fun hmem => (hword.head_ne rest _ hmem).2 rfl
  simp only [resolve, beq_eq_false_iff_ne.mpr hopen, beq_eq_false_iff_ne.mpr hquote]
  rfl

theorem resolve_mention (hknows : draft.Knows component) (byAlias : Bool) :
    draft.resolve (component.mention byAlias) = component.label := by
  rcases component.mention_cases byAlias with halias | hbracketed
  · have hbare := draft.resolve_bare (component.isAlias _ halias) []
    rw [List.append_nil, hknows _ halias] at hbare
    exact hbare
  · have hhead : (bracketed component.name).head? = some '[' := rfl
    simp [resolve, hbracketed, hhead, unquoted_bracketed component.isName, Component.label]

theorem add_declaration (draft : Draft) (component : Component) :
    draft.add (readLine component.declaration) = some (draft.declare component) := by
  rw [component.readLine_declaration, add, unquoted_bracketed component.isName]
  rfl

end Draft

theorem Body.text_ne_nil (body : Body) : body.text ≠ [] := by
  simp [text, body.shaft.ne_nil]

theorem Body.getLast_text (body : Body) : ∀ c ∈ body.text.getLast?, c ∈ ['-', '.'] := by
  have hlast : ∃ shaft : Shaft, body.text.getLast? = shaft.run.getLast? := by
    obtain ⟨first, more?⟩ := body
    cases more? with
    | none => exact ⟨first, by simp [text]⟩
    | some more =>
        refine ⟨more.2, ?_⟩
        rw [text, ← List.append_assoc, List.getLast?_append_of_ne_nil _ more.2.ne_nil]
  obtain ⟨shaft, hshaft⟩ := hlast
  intro c hc
  exact shaft.dashed c (List.mem_of_mem_getLast? (hshaft ▸ hc))

/-- An arrow has its head where it was drawn and no other. -/
theorem Body.heading_stem (body : Body) (leftward : Bool) :
    heading (body.stem leftward) = if leftward then .leftward else .rightward := by
  have hdash : ∀ c ∈ ['-', '.'], c ≠ '<' ∧ c ≠ '>' := by simp
  cases leftward with
  | true =>
      have hstem : body.stem true = ['<'] ++ body.text := rfl
      have hlast : ((body.stem true).getLast? == some '>') = false := by
        rw [hstem, List.getLast?_append_of_ne_nil _ body.text_ne_nil, beq_eq_false_iff_ne]
        exact fun hmem => (hdash _ (body.getLast_text _ hmem)).2 rfl
      rw [heading, hlast, hstem]
      rfl
  | false =>
      have hstem : body.stem false = body.text ++ ['>'] := rfl
      have hhead : ((body.stem false).head? == some '<') = false := by
        rw [hstem, beq_eq_false_iff_ne]
        exact fun hmem => (hdash _ (body.head_text_append ['>'] _ hmem)).1 rfl
      rw [heading, hhead, hstem, List.getLast?_concat]
      rfl

theorem Draft.add_line {drawn : Arrow} (hleft : draft.Knows drawn.left)
    (hright : draft.Knows drawn.right) :
    draft.add (readLine (Text.trim (drawn.line ++ ['\n']))) = some (draft.draw drawn) := by
  rw [drawn.readLine_line, add, resolve_mention hleft, resolve_mention hright, Arrow.stem,
    drawn.body.heading_stem]
  cases hleftward : drawn.leftward <;> simp [draw, Arrow.relation, hleftward]

/-! ## Running over the lines -/

/-- A line that is neither blank nor a comment nor the end of the diagram. -/
def Opens (line : List Char) : Prop :=
  ∃ c rest, line = c :: rest ∧ c ≠ '@' ∧ c ≠ '\''

/-- Such a line is no marker and not silent. -/
theorem Opens.kinds {raw : List Char} (hopens : Opens (Text.trim raw)) :
    isStart raw = false ∧ isEnd raw = false ∧ isSilent raw = false := by
  obtain ⟨c, rest, hline, hmarker, hcomment⟩ := hopens
  simp [isStart, isEnd, isSilent, hline, List.isPrefixOf, Ne.symm hmarker, hcomment]

theorem Opens.effect_eq {raw : List Char} (hopens : Opens (Text.trim raw)) (draft : Draft) :
    draft.effect raw =
      match draft.add (readLine (Text.trim raw)) with
      | some next => .goesOn next
      | none => .fails := by
  obtain ⟨-, hend, hsilent⟩ := hopens.kinds
  cases hadd : draft.add (readLine (Text.trim raw)) <;> simp [Draft.effect, hend, hsilent, hadd]

theorem readBody_cons {number offset : Nat} {draft' : Draft} {raw : List Char}
    {lines : List (List Char)} (hopens : Opens (Text.trim raw))
    (hadd : draft.add (readLine (Text.trim raw)) = some draft') :
    readBody number offset draft (raw :: lines) =
      readBody (number + 1) (offset + Text.byteLength raw) draft' lines := by
  rw [readBody_by_effect, hopens.effect_eq, hadd]

theorem opens_of_head {line rest : List Char} (hne : line ≠ [])
    (hhead : ∀ c ∈ line.head?, c ≠ '@' ∧ c ≠ '\'') : Opens (line ++ rest) := by
  obtain ⟨c, tail, rfl⟩ := List.exists_cons_of_ne_nil hne
  exact ⟨c, tail ++ rest, rfl, hhead c rfl⟩

theorem Component.opens_declaration (component : Component) : Opens component.declaration := by
  rw [declaration]
  split
  next => exact ⟨'[', _, rfl, by decide⟩
  next => exact ⟨'c', _, rfl, by decide⟩

theorem Arrow.opens_line (drawn : Arrow) : Opens (Text.trim (drawn.line ++ ['\n'])) := by
  obtain ⟨tail, -, hline⟩ := drawn.exists_tail
  rw [hline, core, List.append_assoc]
  refine opens_of_head (drawn.left.solid_mention _).ne_nil ?_
  rcases drawn.left.mention_cases drawn.leftByAlias with halias | hbracketed
  · intro c hc
    have hc := (drawn.left.isAlias _ halias).head_append [] c (by simpa using hc)
    constructor <;> rintro rfl <;> exact absurd hc (by decide)
  · rw [hbracketed]
    simp [bracketed]

/-- The declarations are taken in one after the other. -/
theorem readBody_declarations {rest : List (List Char)} {diagram : Diagram}
    (components : List Component)
    (hrest : ∀ number offset,
      readBody number offset (components.foldl Draft.declare draft) rest = .ok diagram)
    (number offset : Nat) :
    readBody number offset draft (components.map (·.declaration ++ ['\n']) ++ rest) =
      .ok diagram := by
  induction components generalizing draft number offset with
  | nil => exact hrest number offset
  | cons component components ih =>
      have hopens : Opens (Text.trim (component.declaration ++ ['\n'])) := by
        rw [component.trim_declaration]
        exact component.opens_declaration
      have hadd : draft.add (readLine (Text.trim (component.declaration ++ ['\n']))) =
          some (draft.declare component) := by
        rw [component.trim_declaration]
        exact draft.add_declaration component
      rw [List.map_cons, List.cons_append, readBody_cons hopens hadd]
      exact ih hrest _ _

/-- So are the arrows, if the aliases of their components are known. -/
theorem readBody_arrows {rest : List (List Char)} {diagram : Diagram} (arrows : List Arrow)
    (hknows : ∀ drawn ∈ arrows, draft.Knows drawn.left ∧ draft.Knows drawn.right)
    (hrest : ∀ number offset,
      readBody number offset (arrows.foldl Draft.draw draft) rest = .ok diagram)
    (number offset : Nat) :
    readBody number offset draft (arrows.map (·.line ++ ['\n']) ++ rest) = .ok diagram := by
  induction arrows generalizing draft number offset with
  | nil => exact hrest number offset
  | cons drawn arrows ih =>
      obtain ⟨hdrawn, hknows⟩ := List.forall_mem_cons.mp hknows
      have hlater : ∀ other ∈ arrows,
          (draft.draw drawn).Knows other.left ∧ (draft.draw drawn).Knows other.right := hknows
      rw [List.map_cons, List.cons_append,
        readBody_cons drawn.opens_line (Draft.add_line hdrawn.1 hdrawn.2)]
      exact ih hlater hrest _ _

theorem readBody_end (number offset : Nat) (draft : Draft) (rest : List Char) :
    readBody number offset draft (Text.linesWithEnds ("@enduml".toList ++ rest)) =
      .ok draft.diagram := by
  have hline : '\n' ∉ "@enduml".toList := by decide
  obtain ⟨ending, lines, hlines⟩ := Text.exists_linesWithEnds_append (by simp) hline rest
  have hsolid : Text.Solid "@enduml".toList := .of_all (by simp) (by decide)
  have hend : isEnd ("@enduml".toList ++ ending) = true := by
    rw [isEnd, hsolid.trim_append]
    exact List.isPrefixOf_iff_prefix.mpr (List.prefix_append _ _)
  rw [hlines, readBody_by_effect, Draft.effect, if_pos hend]

/-! ## Aliases -/

/-- What a component adds to the aliases. -/
def Component.entry? (component : Component) : Option (List Char × String) :=
  component.alias?.map (·, component.label)

theorem aliases_foldl_declare (components : List Component) (draft : Draft) :
    (components.foldl Draft.declare draft).aliases =
      (components.filterMap Component.entry?).reverse ++ draft.aliases := by
  induction components generalizing draft with
  | nil => rfl
  | cons component components ih =>
      rw [List.foldl_cons, ih, Draft.declare, List.filterMap_cons]
      cases halias : component.alias? <;> simp [Component.entry?, halias]

theorem map_fst_entries (components : List Component) :
    (components.filterMap Component.entry?).map Prod.fst = components.filterMap (·.alias?) := by
  rw [List.map_filterMap]
  congr 1
  funext component
  simp [Component.entry?, Function.comp_def]

theorem lookup_of_nodup {entries : List (List Char × String)} {word : List Char} {label : String}
    (hnodup : (entries.map Prod.fst).Nodup) (hmem : (word, label) ∈ entries) :
    entries.lookup word = some label := by
  obtain ⟨before, behind, rfl⟩ := List.append_of_mem hmem
  refine List.lookup_eq_some_iff.mpr ⟨before, behind, rfl, ?_⟩
  intro entry hentry
  rw [List.map_append, List.map_cons] at hnodup
  have hnew := (List.nodup_append.mp hnodup).2.2 entry.1 (List.mem_map_of_mem hentry) word
    List.mem_cons_self
  simpa using hnew.symm

/-- Once all components are declared, every alias stands for its component. -/
theorem Sheet.knows (sheet : Sheet) {component : Component}
    (hcomponent : component ∈ sheet.components) :
    (sheet.components.foldl Draft.declare {}).Knows component := by
  intro word hword
  rw [aliases_foldl_declare, List.append_nil]
  refine lookup_of_nodup ?_ ?_
  · rw [List.map_reverse, List.nodup_reverse, map_fst_entries]
    exact sheet.distinct
  · rw [List.mem_reverse, List.mem_filterMap]
    exact ⟨component, hcomponent, by rw [Component.entry?, hword]; rfl⟩

/-! ## The diagram of a sheet -/

/-- The diagram that is read from the text of a sheet. -/
def Sheet.diagram (sheet : Sheet) : Diagram :=
  (sheet.arrows.foldl Draft.draw (sheet.components.foldl Draft.declare {})).diagram

theorem holds_foldl_declare (components : List Component) {names : Set String}
    {relations : Set Relation} (hholds : draft.diagram.Holds names relations) :
    (components.foldl Draft.declare draft).diagram.Holds
      {name | name ∈ names ∨ ∃ component ∈ components, component.label = name} relations := by
  induction components generalizing draft names with
  | nil => simpa using hholds
  | cons component components ih =>
      have hnext : (draft.declare component).diagram.Holds (insert component.label names)
          relations := hholds.addComponent component.label
      have hnames : {name | name ∈ insert component.label names ∨
            ∃ other ∈ components, other.label = name} =
          {name | name ∈ names ∨ ∃ other ∈ component :: components, other.label = name} := by
        ext name
        simp [or_assoc, or_left_comm, eq_comm]
      exact hnames ▸ ih hnext

theorem holds_foldl_draw (arrows : List Arrow) {names : Set String} {relations : Set Relation}
    (harrows : ∀ drawn ∈ arrows, drawn.left.label ∈ names ∧ drawn.right.label ∈ names)
    (hholds : draft.diagram.Holds names relations) :
    (arrows.foldl Draft.draw draft).diagram.Holds names
      {relation | relation ∈ relations ∨ ∃ drawn ∈ arrows, drawn.relation = relation} := by
  induction arrows generalizing draft relations with
  | nil => simpa using hholds
  | cons drawn arrows ih =>
      obtain ⟨⟨hleft, hright⟩, harrows⟩ := List.forall_mem_cons.mp harrows
      have hnext : (draft.draw drawn).diagram.Holds names (insert drawn.relation relations) := by
        refine hholds.addRelation ?_ ?_ <;> rw [Arrow.relation] <;> split <;> assumption
      have hrelations : {relation | relation ∈ insert drawn.relation relations ∨
            ∃ other ∈ arrows, other.relation = relation} =
          {relation | relation ∈ relations ∨
            ∃ other ∈ drawn :: arrows, other.relation = relation} := by
        ext relation
        simp [or_assoc, or_left_comm, eq_comm]
      exact hrelations ▸ ih harrows hnext

theorem Sheet.holds_diagram (sheet : Sheet) :
    sheet.diagram.Holds sheet.names sheet.relations := by
  have hempty : ({} : Draft).diagram.Holds ∅ ∅ := Holds.empty
  have hdeclared := holds_foldl_declare sheet.components hempty
  have hdrawn := holds_foldl_draw sheet.arrows ?_ hdeclared
  · simpa [Sheet.diagram, Sheet.names, Sheet.relations] using hdrawn
  · intro drawn hmem
    obtain ⟨hleft, hright⟩ := sheet.declared drawn hmem
    exact ⟨.inr ⟨_, hleft, rfl⟩, .inr ⟨_, hright, rfl⟩⟩

/-! ## Reading the text -/

theorem Component.newline_not_mem_mention (component : Component) (byAlias : Bool) :
    '\n' ∉ component.mention byAlias := by
  rcases component.mention_cases byAlias with halias | hbracketed
  · intro hmem
    exact absurd ((component.isAlias _ halias).isBlank _ hmem) (by decide)
  · simp [hbracketed, bracketed, component.isName.oneLine]

theorem Component.newline_not_mem_declaration (component : Component) :
    '\n' ∉ component.declaration := by
  have hname : '\n' ∉ bracketed component.name := by
    simp [bracketed, component.isName.oneLine]
  cases halias : component.alias? with
  | none => simpa [declaration, halias] using hname
  | some word =>
      have hword : '\n' ∉ word := fun hmem =>
        absurd ((component.isAlias word halias).isBlank _ hmem) (by decide)
      simp [declaration, halias, hname, hword]

theorem Shaft.newline_not_mem (shaft : Shaft) : '\n' ∉ shaft.run :=
  fun hmem => absurd (shaft.dashed _ hmem) (by decide)

theorem Body.newline_not_mem (body : Body) : '\n' ∉ body.text := by
  obtain ⟨first, more?⟩ := body
  cases more? with
  | none => simp [text, first.newline_not_mem]
  | some more =>
      obtain ⟨h, second⟩ := more
      have hhint : '\n' ∉ h.text := by
        cases h with
        | direction word hword =>
            exact (directions_spelling word hword).2.2.2
        | style style _ honeLine => simp [Hint.text, bracketed, honeLine]
      simp [text, first.newline_not_mem, second.newline_not_mem, hhint]

theorem Arrow.newline_not_mem_line (drawn : Arrow) : '\n' ∉ drawn.line := by
  have hgap : ∀ more, '\n' ∉ gap more := by simp [gap]
  have hstem : '\n' ∉ drawn.stem := by
    rw [stem, Body.stem]
    split <;> simp [drawn.body.newline_not_mem]
  have hcore : '\n' ∉ drawn.core := by
    simp [core, Component.newline_not_mem_mention, hgap, hstem]
  cases hlabel : drawn.label? with
  | none => simpa [line, hlabel] using hcore
  | some label => simp [line, hlabel, hcore, drawn.oneLine label hlabel]

/-- The text of a sheet is cut into the lines that it was put together from. -/
theorem Sheet.linesWithEnds_text (sheet : Sheet) (rest : String) :
    Text.linesWithEnds (sheet.text ++ rest).toList =
      ("@startuml".toList ++ ['\n']) :: (sheet.components.map (·.declaration ++ ['\n']) ++
        (sheet.arrows.map (·.line ++ ['\n']) ++
          Text.linesWithEnds ("@enduml".toList ++ rest.toList))) := by
  have hlines : ∀ line ∈ "@startuml".toList :: sheet.body, '\n' ∉ line := by
    refine List.forall_mem_cons.mpr ⟨by decide, ?_⟩
    intro line hline
    rcases List.mem_append.mp hline with hline | hline
    · obtain ⟨component, -, rfl⟩ := List.mem_map.mp hline
      exact component.newline_not_mem_declaration
    · obtain ⟨drawn, -, rfl⟩ := List.mem_map.mp hline
      exact drawn.newline_not_mem_line
  have htext : sheet.text.toList =
      ("@startuml".toList :: sheet.body).flatMap (· ++ ['\n']) ++ "@enduml".toList :=
    String.toList_ofList
  rw [String.toList_append, htext, List.append_assoc, Text.linesWithEnds_flatMap hlines]
  simp only [body, List.map_cons, List.map_append, List.map_map, List.cons_append,
    List.append_assoc, Function.comp_def]

theorem readLines_start (raw : List Char) (lines : List (List Char)) (number offset : Nat) :
    readLines number offset (("@startuml".toList ++ raw) :: lines) =
      readBody (number + 1) (offset + Text.byteLength ("@startuml".toList ++ raw)) {} lines := by
  have hsolid : Text.Solid "@startuml".toList := .of_all (by simp) (by decide)
  have hstart : isStart ("@startuml".toList ++ raw) = true := by
    rw [isStart, hsolid.trim_append]
    exact List.isPrefixOf_iff_prefix.mpr (List.prefix_append _ _)
  exact readLines_of_isStart hstart number offset lines

theorem Sheet.ofText_append (sheet : Sheet) (rest : String) :
    ofText (sheet.text ++ rest) = .ok sheet.diagram := by
  rw [ofText, sheet.linesWithEnds_text, readLines_start]
  refine readBody_declarations sheet.components (readBody_arrows sheet.arrows ?_ ?_) _ _
  · intro drawn hdrawn
    obtain ⟨hleft, hright⟩ := sheet.declared drawn hdrawn
    exact ⟨sheet.knows hleft, sheet.knows hright⟩
  · intro number offset
    exact readBody_end number offset _ _

/-- The text of a sheet, whatever follows its end marker, is read as the diagram of exactly its
components and its relations. -/
theorem ofText_text (sheet : Sheet) (rest : String) :
    ∃ diagram, ofText (sheet.text ++ rest) = .ok diagram ∧
      diagram.Holds sheet.names sheet.relations :=
  ⟨sheet.diagram, sheet.ofText_append rest, sheet.holds_diagram⟩

-- A sheet with an alias, an arrow that points up, and a label on it.
example :
    let web : Component :=
      ⟨"Web App".toList, none, ⟨by decide, by decide, by decide, by decide⟩, by simp⟩
    let store : Component :=
      ⟨"Store".toList, some "db".toList, ⟨by decide, by decide, by decide, by decide⟩,
        fun _ hword => by cases hword; exact ⟨by decide, List.forall_mem_singleton.mpr (by decide)⟩⟩
    let body : Body :=
      ⟨⟨['-'], by simp, by simp⟩, some (.direction "up" (by decide), ⟨['-'], by simp, by simp⟩)⟩
    let reads : Arrow :=
      { left := web, right := store, leftByAlias := false, rightByAlias := true,
        leftward := false, body := body, before := 0, behind := 0, label? := some "reads".toList,
        oneLine := fun _ hlabel => by cases hlabel; decide }
    let sheet : Sheet := ⟨[web, store], [reads], by decide, by simp [reads]⟩
    sheet.text =
      "@startuml\n[Web App]\ncomponent [Store] as db\n[Web App] -up-> db : reads\n@enduml" :=
  rfl

end ImportRules.Diagram
