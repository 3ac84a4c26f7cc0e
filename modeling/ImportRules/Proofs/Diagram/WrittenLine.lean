import ImportRules.Proofs.Diagram.RelationCut
import ImportRules.Proofs.Text.Lines
import ImportRules.Proofs.Text.WordBlank
/-!
# How the lines of a sheet are read

The line of an arrow is read as the relation between its two mentions. The line of a declaration is
not taken for a relation, although an alias or a name may hold all that an arrow is made of, and is
read as the declaration of its name and alias.
-/

namespace ImportRules.Diagram

open Regex

variable {p : Place} {text word rest tail : List Char}

/-! ## Ends of names -/

theorem IsAlias.isWord (hword : IsAlias word) :
    ∀ c ∈ word, (Text.isWord c || c == '.') = true := by
  cases word with
  | nil => exact hword.elim
  | cons d tail =>
      refine List.forall_mem_cons.mpr ⟨?_, hword.2⟩
      rcases Bool.or_eq_true_iff.mp hword.1 with hd | hd
      · rw [Text.isWord_of_isAlpha hd, Bool.true_or]
      · rw [beq_iff_eq.mp hd]
        decide

theorem IsAlias.isBlank (hword : IsAlias word) : ∀ c ∈ word, Text.isBlank c = false := by
  intro c hc
  rcases Bool.or_eq_true_iff.mp (hword.isWord c hc) with hc | hc
  · exact Text.isBlank_of_isWord hc
  · rw [beq_iff_eq.mp hc]
    decide

theorem IsAlias.solid (hword : IsAlias word) : Text.Solid word := by
  refine .of_forall ?_ hword.isBlank
  rintro rfl
  exact hword

theorem solid_bracketed (text : List Char) : Text.Solid (bracketed text) := by
  have hopen : Text.Solid ['['] := .of_all (by simp) (by decide)
  have hclose : Text.Solid [']'] := .of_all (by simp) (by decide)
  exact hopen.between hclose text

theorem Component.solid_mention (component : Component) (byAlias : Bool) :
    Text.Solid (component.mention byAlias) := by
  rcases component.mention_cases byAlias with halias | hbracketed
  · exact (component.isAlias _ halias).solid
  · exact hbracketed ▸ solid_bracketed component.name

/-! ## Arrows -/

theorem Arrow.solid_core (drawn : Arrow) : Text.Solid drawn.core := by
  have hends := (drawn.left.solid_mention drawn.leftByAlias).between
    (drawn.right.solid_mention drawn.rightByAlias)
    (gap drawn.before ++ (drawn.stem ++ gap drawn.behind))
  simpa [core] using hends

/-- An arrow does not start with a blank. -/
theorem Body.isBlank_stem_append (body : Body) (leftward : Bool) (rest : List Char) :
    ∀ c ∈ (body.stem leftward ++ rest).head?, Text.isBlank c = false := by
  have hnone : ['<', '-', '.'].all (!Text.isBlank ·) = true := by decide
  intro c hc
  simpa using List.all_eq_true.mp hnone c (body.head_stem_append leftward rest c hc)

theorem isBlank_gap (more : Nat) : ∀ c ∈ gap more, Text.isBlank c = true := by
  intro c hc
  have hspace : c = ' ' := by
    rcases List.mem_cons.mp hc with hc | hc
    · exact hc
    · exact List.eq_of_mem_replicate hc
  rw [hspace]
  decide

/-- What may stand behind the second mention: nothing or a label. -/
def IsTail (tail : List Char) : Prop :=
  tail = [] ∨ ∃ label, tail = ' ' :: ':' :: label ∧ '\n' ∉ label

theorem IsTail.isEnding (htail : IsTail tail) : IsEnding tail := by
  rcases htail with rfl | ⟨label, rfl, hlabel⟩
  · exact .inl rfl
  · exact .inr ⟨[' '], label, rfl, List.forall_mem_singleton.mpr (by decide), hlabel⟩

theorem IsTail.head (htail : IsTail tail) : ∀ c ∈ tail.head?, c = ' ' := by
  rcases htail with rfl | ⟨label, rfl, -⟩ <;> simp

namespace Arrow

/-- The line of an arrow, cut into its mentions and the arrow between them. -/
def cut (drawn : Arrow) (tail : List Char) : Cut where
  left := drawn.left.mention drawn.leftByAlias
  before := gap drawn.before
  stem := drawn.stem
  behind := gap drawn.behind
  right := drawn.right.mention drawn.rightByAlias
  tail := tail

theorem line_cut (drawn : Arrow) (tail : List Char) :
    (drawn.cut tail).line = drawn.core ++ tail := by
  simp [cut, Cut.line, Cut.fromStem, core]

theorem readable_cut (drawn : Arrow) (htail : IsTail tail) : (drawn.cut tail).Readable where
  before := isBlank_gap drawn.before
  stem _ hafter := drawn.prefers_stem hafter
  stem_head := drawn.body.isBlank_stem_append drawn.leftward _
  behind := isBlank_gap drawn.behind
  right _ hafter := drawn.right.prefers_mention drawn.rightByAlias hafter htail.head
  right_head := (drawn.right.solid_mention drawn.rightByAlias).head_append tail
  ending := htail.isEnding

/-- The line of an arrow is read as the relation between its two mentions. -/
theorem readLine_core_append (drawn : Arrow) (htail : IsTail tail) :
    readLine (drawn.core ++ tail) =
      .relation (drawn.left.mention drawn.leftByAlias) drawn.stem
        (drawn.right.mention drawn.rightByAlias) := by
  rw [← line_cut]
  refine (drawn.readable_cut htail).readLine ?_
  exact drawn.left.prefers_mention drawn.leftByAlias (drawn.cut tail).after_start_line
    (by simp [cut, gap])

end Arrow

/-! ## Declarations are no relations -/

theorem cases_of_mem_words_name {front : List Char} (hfront : front ∈ Diagram.name.words) :
    (∃ inner, front = '[' :: (inner ++ [']'])) ∨ (∃ tail, front = '"' :: tail) ∨ IsAlias front := by
  rcases mem_words_alt.mp hfront with hfront | hfront
  · obtain ⟨_, hopen, _, hrest, rfl⟩ := mem_words_seq.mp hfront
    obtain ⟨inner, -, _, hclose, rfl⟩ := mem_words_seq.mp hrest
    rw [mem_words_char.mp hopen, mem_words_char.mp hclose]
    exact .inl ⟨inner, rfl⟩
  rcases mem_words_alt.mp hfront with hfront | hfront
  · obtain ⟨_, hopen, tail, -, rfl⟩ := mem_words_seq.mp hfront
    rw [mem_words_char.mp hopen]
    exact .inr (.inl ⟨tail, rfl⟩)
  · obtain ⟨_, ⟨c, hc, rfl⟩, tail, htail, rfl⟩ := mem_words_seq.mp hfront
    exact .inr (.inr ⟨hc, mem_words_many_one.mp htail⟩)

/-- A relation has a name, perhaps blanks, and what an arrow starts with. -/
theorem readRelation?_eq_none {line : List Char}
    (hnone : ∀ front ∈ Diagram.name.words, ∀ blanks : List Char,
      (∀ d ∈ blanks, Text.isBlank d = true) → ∀ c ∈ ['<', '-', '.'],
        ¬front ++ blanks ++ [c] <+: line) :
    readRelation? line = none := by
  have hsearch : relationLine.search? line = none := by
    refine search?_eq_none (ends_eq_nil ?_)
    intro word hword hahead
    obtain ⟨front, hfront, _, hrest, rfl⟩ := mem_words_seq.mp hword
    obtain ⟨blanks, hblanks, _, hmore, rfl⟩ := mem_words_seq.mp hrest
    obtain ⟨drawn, hdrawn, behind, -, rfl⟩ := mem_words_seq.mp hmore
    have hstarts : arrow.Starts drawn := starts_of_mem_words hdrawn
    cases drawn with
    | nil => cases hstarts
    | cons c more =>
        have hc : c ∈ ['<', '-', '.'] := by
          simpa [Starts, arrow, Regex.sequence, startsWith, isNullable, Regex.optional, Regex.char,
            shaft, many1, oneOf] using hstarts
        refine hnone front hfront blanks (mem_words_many_one.mp hblanks) c hc ?_
        refine List.IsPrefix.trans ?_ hahead
        exact ⟨more ++ behind, by simp⟩
  rw [readRelation?, hsearch]
  rfl

theorem prefix_of_concat_prefix_concat {front behind : List Char} {c d : Char}
    (hahead : front ++ [c] <+: behind ++ [d]) : front <+: behind := by
  have hlength : front.length ≤ behind.length := by simpa using hahead.length_le
  exact List.prefix_of_prefix_length_le ((List.prefix_append front [c]).trans hahead)
    (List.prefix_append behind [d]) hlength

/-- A name in brackets leaves nothing for an arrow. -/
theorem readRelation?_bracketed (hunclosed : ']' ∉ text) :
    readRelation? (bracketed text) = none := by
  refine readRelation?_eq_none ?_
  intro front hfront blanks _ c _ hahead
  -- The arrow would take at least the closing bracket, so the name would have to close before it.
  have hinside : front ++ blanks <+: '[' :: text := prefix_of_concat_prefix_concat hahead
  rcases cases_of_mem_words_name hfront with ⟨inner, rfl⟩ | ⟨tail, rfl⟩ | hbare
  · have hclose : ']' ∈ '[' :: text := hinside.subset (by simp)
    simp [hunclosed] at hclose
  · simp at hinside
  · cases front with
    | nil => exact hbare
    | cons d tail =>
        obtain ⟨rfl, -⟩ := List.cons_prefix_cons.mp hinside
        exact absurd hbare.1 (by decide)

/-- What may be taken for a name before the bracket of a declaration is not followed by an arrow. -/
theorem readRelation?_component (rest : List Char) :
    readRelation? ("component ".toList ++ '[' :: rest) = none := by
  refine readRelation?_eq_none ?_
  intro front hfront blanks hblanks c hc hahead
  -- Neither a bare name nor blanks go past the bracket, and no character up to it begins an arrow.
  have hlacks : '[' ∉ front ++ blanks := by
    refine List.not_mem_append ?_ fun hmem => absurd (hblanks _ hmem) (by decide)
    rcases cases_of_mem_words_name hfront with ⟨inner, rfl⟩ | ⟨tail, rfl⟩ | hbare
    · exact absurd (List.cons_prefix_cons.mp hahead).1 (by decide)
    · exact absurd (List.cons_prefix_cons.mp hahead).1 (by decide)
    · exact fun hmem => absurd (hbare.isWord _ hmem) (by decide)
  have hinside : front ++ blanks <+: "component ".toList :=
    prefix_of_prefix_append hlacks ((List.prefix_append _ [c]).trans hahead)
  have hlength : (front ++ blanks ++ [c]).length ≤ ("component ".toList ++ ['[']).length := by
    have hinside := hinside.length_le
    simp only [List.length_append, List.length_singleton] at hinside ⊢
    omega
  have hnext : front ++ blanks ++ [c] <+: "component ".toList ++ ['['] :=
    List.prefix_of_prefix_length_le hahead ⟨rest, rfl⟩ hlength
  have hmem : c ∈ "component ".toList ++ ['['] := hnext.subset (by simp)
  have hnone : ∀ c ∈ ['<', '-', '.'], c ∉ "component ".toList ++ ['['] := by simp
  exact hnone c hc hmem

/-! ## Declarations -/

theorem prefers_declarationEnd (hafter : p.after = []) :
    (Regex.sequence [.many .blank,
      .optional (Regex.sequence [literal "<<", .many (.noneOf ['>']), literal ">>"]),
      .many .blank, .optional (.seq (.char '#') (.many1 (.one Text.isWord))), .many .blank,
      .anchor .textEnd]).Prefers p p := by
  have hblank : (many .blank).Prefers p p := prefers_many_one_none (by simp [hafter])
  have hnone : ∀ r : Regex, r.isNullable = false → (Regex.optional r).Prefers p p :=
    fun r hr => prefers_optional_none (ends_eq_nil_of_end hr hafter)
  exact hblank.seq ((hnone _ rfl).seq (hblank.seq ((hnone _ rfl).seq
    (hblank.seq (prefers_textEnd hafter)))))

theorem readDeclaration?_bracketed (hne : text ≠ []) (hunclosed : ']' ∉ text) :
    readDeclaration? (bracketed text) = some (.declaration (bracketed text) none) := by
  have hline : (Place.start (bracketed text)).after = bracketed text ++ [] :=
    (List.append_nil (bracketed text)).symm
  let stop := ((Place.start (bracketed text)).past (bracketed text)).marked 1 0
  have hsearch : declarationLine.search? (bracketed text) =
      some ⟨0, stop.index, stop.marks⟩ := by
    refine Prefers.search? ?_
    have hkeyword : (Regex.seq (literal "component") (.many1 .blank)).ends
        (Place.start (bracketed text)) = [] :=
      ends_eq_nil_of_head rfl (by simp [Place.start, bracketed]; decide)
    refine (prefers_optional_none hkeyword).seq ?_
    refine (prefers_name_bracketed hne hunclosed hline).groupThen 1 hline fun hstop => ?_
    exact (prefers_optional_none (ends_eq_nil_of_end rfl hstop)).seq (prefers_declarationEnd hstop)
  have hmarks : stop.marks = [⟨1, 0, (bracketed text).length⟩] := by simp [stop, Place.start]
  have hhead : (bracketed text).head? == some '[' := rfl
  rw [readDeclaration?, hsearch, hmarks]
  simp [Match.group?, hhead]

/-- Where the reading of a declaration with an alias stops, with its name and its alias marked. -/
def aliasStop (line text word : List Char) : Place :=
  let named := ((Place.start line).past "component".toList).past [' ']
  let closed := (named.past (bracketed text)).marked 1 named.index
  let spaced := ((closed.past [' ']).past "as".toList).past [' ']
  (spaced.past word).marked 2 spaced.index

theorem search?_component {line : List Char} (hne : text ≠ []) (hunclosed : ']' ∉ text)
    (hword : IsAlias word)
    (hline : line = "component".toList ++ ([' '] ++ (bracketed text ++
      ([' '] ++ ("as".toList ++ ([' '] ++ (word ++ []))))))) :
    declarationLine.search? line =
      some ⟨0, (aliasStop line text word).index, (aliasStop line text word).marks⟩ := by
  refine Prefers.search? ?_
  have hstart : (Place.start line).after = _ := hline
  have hkeyword := ((prefers_literal hstart).andThen hstart fun hspace =>
    prefers_space1 hspace ((solid_bracketed text).head_append _)).optional
  have hnamed := Place.after_past_of_append (Place.after_past_of_append hstart)
  refine hkeyword.seq ?_
  refine (prefers_name_bracketed hne hunclosed hnamed).groupThen 1 hnamed fun hclosed => ?_
  have hspaced := Place.after_past_of_append (Place.after_past_of_append
    (Place.after_past_of_append hclosed))
  refine Prefers.seq (q := aliasStop line text word) (Prefers.optional ?_)
    (prefers_declarationEnd (Place.after_past_of_append hspaced))
  refine (prefers_space1 hclosed (by simp; decide)).andThen hclosed fun has => ?_
  refine (prefers_literal has).andThen has fun hspace => ?_
  refine (prefers_space1 hspace (hword.solid.head_append _)).andThen hspace fun halias => ?_
  exact (prefers_bareName hword halias (by simp)).group 2

theorem readDeclaration?_component (hne : text ≠ []) (hunclosed : ']' ∉ text)
    (hword : IsAlias word) :
    readDeclaration? ("component ".toList ++ (bracketed text ++ (" as ".toList ++ word))) =
      some (.declaration (bracketed text) (some word)) := by
  have hline : "component ".toList ++ (bracketed text ++ (" as ".toList ++ word)) =
      "component".toList ++ ([' '] ++ (bracketed text ++
        ([' '] ++ ("as".toList ++ ([' '] ++ (word ++ [])))))) := by
    rw [List.append_nil]
    rfl
  generalize "component ".toList ++ (bracketed text ++ (" as ".toList ++ word)) = line at hline
  have hkeyword : "component".toList.isPrefixOf line = true := by
    rw [hline, List.isPrefixOf_iff_prefix]
    exact List.prefix_append _ _
  rw [readDeclaration?, search?_component hne hunclosed hword hline, hkeyword]
  generalize hfound : Match.mk 0 (aliasStop line text word).index
    (aliasStop line text word).marks = found
  have hname : found.group? line 1 = some (bracketed text) :=
    group?_of_find? ("component".toList ++ [' ']) _ (by simpa using hline)
      (by simp [← hfound, aliasStop, Place.start])
  have halias : found.group? line 2 = some word :=
    group?_of_find?
      ("component".toList ++ [' '] ++ (bracketed text ++ [' '] ++ "as".toList ++ [' '])) []
      (by simpa using hline) (by simp [← hfound, aliasStop, Place.start]; omega)
  simp [hname, halias]

/-! ## Lines of a sheet -/

/-- A declaration is read as the name and the alias of its component. -/
theorem Component.readLine_declaration (component : Component) :
    readLine component.declaration =
      .declaration (bracketed component.name) component.alias? := by
  obtain ⟨hne, -, hunclosed, -⟩ := component.isName
  cases halias : component.alias? with
  | none =>
      have hline : component.declaration = bracketed component.name := by
        simp only [declaration, halias]
      rw [readLine, hline, readRelation?_bracketed hunclosed,
        readDeclaration?_bracketed hne hunclosed]
  | some word =>
      have hline : component.declaration =
          "component ".toList ++ (bracketed component.name ++ (" as ".toList ++ word)) := by
        simp only [declaration, halias]
      have hrelation : readRelation?
          ("component ".toList ++ (bracketed component.name ++ (" as ".toList ++ word))) = none :=
        readRelation?_component _
      rw [readLine, hline, hrelation,
        readDeclaration?_component hne hunclosed (component.isAlias word halias)]

theorem Component.solid_declaration (component : Component) :
    Text.Solid component.declaration := by
  cases halias : component.alias? with
  | none =>
      simp only [declaration, halias]
      exact solid_bracketed component.name
  | some word =>
      have hkeyword : Text.Solid "component".toList := .of_all (by simp) (by decide)
      have hends := hkeyword.between (component.isAlias word halias).solid
        (' ' :: bracketed component.name ++ " as ".toList)
      simpa [declaration, halias] using hends

theorem Component.trim_declaration (component : Component) :
    Text.trim (component.declaration ++ ['\n']) = component.declaration := by
  rw [component.solid_declaration.trim_append]
  exact List.append_nil _

/-- A label, if there is one, keeps its colon when the line is trimmed. -/
theorem Arrow.exists_tail (drawn : Arrow) :
    ∃ tail, IsTail tail ∧ Text.trim (drawn.line ++ ['\n']) = drawn.core ++ tail := by
  cases hlabel : drawn.label? with
  | none =>
      refine ⟨[], .inl rfl, ?_⟩
      simp only [line, hlabel]
      exact drawn.solid_core.trim_append _
  | some label =>
      have hcolon : Text.Solid (drawn.core ++ ([' '] ++ [':'])) :=
        drawn.solid_core.between (.of_all (by simp) (by decide)) [' ']
      refine ⟨_, .inr ⟨Text.trimEnd Text.isBlank (' ' :: label), rfl, ?_⟩, ?_⟩
      · intro hnewline
        have hmem := Text.mem_of_mem_trimEnd hnewline
        simp [drawn.oneLine label hlabel] at hmem
      · have hline : drawn.line ++ ['\n'] =
            drawn.core ++ ([' '] ++ [':']) ++ ((' ' :: label) ++ ['\n']) := by
          simp [line, hlabel]
        rw [hline, hcolon.trim_append, Text.trimEnd_concat (by decide)]
        simp

/-- The line of an arrow is read as the relation between its two mentions, whatever its label. -/
theorem Arrow.readLine_line (drawn : Arrow) :
    readLine (Text.trim (drawn.line ++ ['\n'])) =
      .relation (drawn.left.mention drawn.leftByAlias) drawn.stem
        (drawn.right.mention drawn.rightByAlias) := by
  obtain ⟨tail, htail, hline⟩ := drawn.exists_tail
  rw [hline, drawn.readLine_core_append htail]

end ImportRules.Diagram
