import ImportRules.Proofs.Diagram.RoundTrip
/-!
# Arrows drawn with any spacing

A drawing is the line of a relation without the blanks around its arrow: two names in brackets, in
quotes or bare, and an arrow with one head between them. Any blanks may be put around the arrow.
None are needed behind it, because no arrow goes on with what a name starts with: neither a bare
name nor one in brackets has a shaft behind it that would make a hint of it.
-/

namespace ImportRules.Diagram

open Regex

/-! ## What is drawn -/

def quoted (text : List Char) : List Char :=
  '"' :: text ++ ['"']

/-- A name beside an arrow: in brackets, in quotes, or an identifier. -/
inductive Mention where
  | bracketed (text : List Char) (ne_nil : text ≠ []) (unclosed : ']' ∉ text)
      (oneLine : '\n' ∉ text)
  | quoted (text : List Char) (ne_nil : text ≠ []) (unclosed : '"' ∉ text) (oneLine : '\n' ∉ text)
  | bare (word : List Char) (isAlias : IsAlias word) (undotted : '.' ∉ word)

namespace Mention

def text : Mention → List Char
  | .bracketed text _ _ _ => Diagram.bracketed text
  | .quoted text _ _ _ => Diagram.quoted text
  | .bare word _ _ => word

def IsBare : Mention → Prop
  | .bare _ _ _ => True
  | _ => False

end Mention

/-- Blanks within a line. -/
structure Blanks where
  text : List Char
  blank : ∀ c ∈ text, Text.isBlank c = true
  oneLine : '\n' ∉ text

/-- So many spaces. -/
def Blanks.spaces (count : Nat) : Blanks where
  text := List.replicate count ' '
  blank c hc := by
    rw [List.eq_of_mem_replicate hc]
    decide
  oneLine hmem := absurd (List.eq_of_mem_replicate hmem) (by decide)

def Blanks.none : Blanks := .spaces 0

/-- At least one blank. -/
structure Gap extends Blanks where
  ne_nil : text ≠ []

/-- What stands behind the right name: blanks and perhaps a label behind a colon. -/
structure Ending where
  blanks : Blanks
  label? : Option (List Char)
  oneLine : ∀ label ∈ label?, '\n' ∉ label

def Ending.text (ending : Ending) : List Char :=
  ending.blanks.text ++
    match ending.label? with
    | none => []
    | some label => ':' :: label

/-- An arrow between two names. -/
structure Drawing where
  indent : Blanks
  left : Mention
  leftward : Bool
  body : Body
  right : Mention
  ending : Ending

namespace Drawing

/-- The arrow itself with its head. -/
def stem (drawing : Drawing) : List Char :=
  drawing.body.stem drawing.leftward

/-- The line of the drawing with the given blanks on either side of its arrow. -/
def line (drawing : Drawing) (before behind : Blanks) : List Char :=
  drawing.indent.text ++ (drawing.left.text ++ (before.text ++ (drawing.stem ++ (behind.text ++
    (drawing.right.text ++ drawing.ending.text)))))

end Drawing

variable {p : Place} {text word rest tail : List Char} {before behind : Blanks}

/-! ## Names -/

theorem prefers_name_quoted (hne : text ≠ []) (hunclosed : '"' ∉ text)
    (hafter : p.after = quoted text ++ rest) :
    Diagram.name.Prefers p (p.past (quoted text)) := by
  have hquoted := prefers_delimited hafter fun q hq =>
    prefers_many1_one hq hne (forall_mem_noneOf.mpr hunclosed) (by simp)
  exact hquoted.alt_left.alt_right (ends_delimited (by simp [hafter, quoted]))

/-- No bare name goes on with a blank. -/
theorem not_nameChar_of_isBlank {c : Char} (hc : Text.isBlank c = true) :
    (Text.isWord c || c == '.') = false := by
  have hword : Text.isWord c = false := by
    rw [← Bool.not_eq_true]
    intro hword
    rw [Text.isBlank_of_isWord hword] at hc
    cases hc
  have hdot : c ≠ '.' := by
    rintro rfl
    exact absurd hc (by decide)
  simp [hword, hdot]

namespace Mention

/-- A name is read as a whole unless it is bare and goes on with what follows. -/
theorem prefers (mention : Mention) (hafter : p.after = mention.text ++ rest)
    (hrest : mention.IsBare → ∀ c ∈ rest.head?, (Text.isWord c || c == '.') = false) :
    Diagram.name.Prefers p (p.past mention.text) := by
  cases mention with
  | bracketed text hne hunclosed _ => exact prefers_name_bracketed hne hunclosed hafter
  | quoted text hne hunclosed _ => exact prefers_name_quoted hne hunclosed hafter
  | bare word hword _ => exact prefers_name_bare hword hafter (hrest trivial)

theorem solid (mention : Mention) : Text.Solid mention.text := by
  cases mention with
  | bracketed text _ _ _ => exact solid_bracketed text
  | quoted text _ _ _ =>
      have hquote : Text.Solid ['"'] := .of_all (by simp) (by decide)
      exact hquote.between hquote text
  | bare word hword _ => exact hword.solid

theorem newline_not_mem (mention : Mention) : '\n' ∉ mention.text := by
  cases mention with
  | bracketed text _ _ honeLine => simp [Mention.text, Diagram.bracketed, honeLine]
  | quoted text _ _ honeLine => simp [Mention.text, Diagram.quoted, honeLine]
  | bare word hword _ => exact fun hmem => absurd (hword.isBlank '\n' hmem) (by decide)

/-- What a name starts with. -/
theorem head_text_append (mention : Mention) (rest : List Char) :
    ∀ c ∈ (mention.text ++ rest).head?,
      c = '[' ∨ c = '"' ∨ (c.isAlpha || c == '_') = true := by
  cases mention with
  | bracketed text _ _ _ => simp [Mention.text, Diagram.bracketed]
  | quoted text _ _ _ => simp [Mention.text, Diagram.quoted]
  | bare word hword _ => exact fun c hc => .inr (.inr (hword.head_append rest c hc))

end Mention

/-! ## No arrow goes on with a name -/

theorem mem_words_hint (hword : word ∈ hint.words) :
    (∃ direction ∈ directions, word = direction.toList) ∨
      ∃ style, word = bracketed style ∧ ']' ∉ style := by
  rw [hint_eq, mem_words_choice] at hword
  obtain ⟨r, hr, hword⟩ := hword
  rcases List.mem_append.mp hr with hr | hr
  · obtain ⟨direction, hdirection, rfl⟩ := List.mem_map.mp hr
    exact .inl ⟨direction, hdirection, mem_words_literal.mp hword⟩
  · obtain rfl := List.mem_singleton.mp hr
    obtain ⟨_, hopen, _, hrest, rfl⟩ := mem_words_seq.mp hword
    obtain ⟨style, hstyle, _, hclose, rfl⟩ := mem_words_seq.mp hrest
    rw [mem_words_char.mp hopen, mem_words_char.mp hclose]
    exact .inr ⟨style, rfl, mem_words_many_noneOf.mp hstyle⟩

/-- The words that an arrow could go on with behind its first shaft start with a hint and a dash. -/
theorem exists_hint_of_mem_words (hword : word ∈ (Regex.seq hint shaft).words) :
    ∃ h ∈ hint.words, ∃ c ∈ ['-', '.'], h ++ [c] <+: word := by
  obtain ⟨h, hh, run, hrun, rfl⟩ := mem_words_seq.mp hword
  obtain ⟨hne, hdashed⟩ := mem_words_many1_one.mp hrun
  obtain ⟨c, more, rfl⟩ := List.exists_cons_of_ne_nil hne
  have hc : c ∈ ['-', '.'] := List.contains_iff_mem.mp (hdashed c List.mem_cons_self)
  exact ⟨h, hh, c, hc, more, by simp⟩

theorem endsBody_of_no_hint (hdash : ∀ c ∈ rest.head?, c ∉ ['-', '.'])
    (hhint : ∀ h ∈ hint.words, ∀ c ∈ ['-', '.'], ¬h ++ [c] <+: rest) : EndsBody rest where
  dash := hdash
  hint q hafter := by
    refine ends_eq_nil ?_
    intro word hword hahead
    obtain ⟨h, hh, c, hc, hstart⟩ := exists_hint_of_mem_words hword
    exact hhint h hh c hc (hstart.trans (hafter ▸ hahead))

theorem isAlpha_of_mem_direction {direction : String} (hdirection : direction ∈ directions) :
    ∀ c ∈ direction.toList, c.isAlpha = true := by
  have hall : ∀ word ∈ directions, word.toList.all Char.isAlpha = true := by decide
  exact List.all_eq_true.mp (hall direction hdirection)

/-- A hint starts with a letter or with a bracket. -/
theorem exists_cons_of_mem_words_hint (hword : word ∈ hint.words) :
    ∃ c tail, word = c :: tail ∧ (c.isAlpha = true ∨ c = '[') := by
  rcases mem_words_hint hword with ⟨direction, hdirection, rfl⟩ | ⟨style, rfl, -⟩
  · obtain ⟨c, tail, htail⟩ := List.exists_cons_of_ne_nil (directions_spelling _ hdirection).1
    have hc := isAlpha_of_mem_direction hdirection c (htail ▸ List.mem_cons_self)
    exact ⟨c, tail, htail, .inl hc⟩
  · exact ⟨'[', _, rfl, .inr rfl⟩

theorem not_isBlank_of_isAlpha {c : Char} (hc : c.isAlpha = true) : Text.isBlank c = false :=
  Text.isBlank_of_isWord (Text.isWord_of_isAlpha hc)

theorem not_dash_of_isBlank {c : Char} (hc : Text.isBlank c = true) : c ∉ ['-', '.'] := by
  intro hdash
  rcases List.mem_pair.mp hdash with rfl | rfl <;> exact absurd hc (by decide)

/-- A blank ends the body of an arrow. -/
theorem endsBody_of_isBlank (hrest : ∀ c ∈ rest.head?, Text.isBlank c = true) : EndsBody rest := by
  refine endsBody_of_no_hint (fun c hc => not_dash_of_isBlank (hrest c hc)) ?_
  rintro h hh c - ⟨more, rfl⟩
  obtain ⟨d, tail, rfl, hd⟩ := exists_cons_of_mem_words_hint hh
  have hblank : Text.isBlank d = true := hrest d rfl
  rcases hd with hd | rfl
  · exact Bool.false_ne_true ((not_isBlank_of_isAlpha hd).symm.trans hblank)
  · exact absurd hblank (by decide)

/-- A name in brackets is no style of an arrow, since no shaft follows it. -/
theorem endsBody_bracketed (hunclosed : ']' ∉ text) (htail : ∀ c ∈ tail.head?, c ∉ ['-', '.']) :
    EndsBody (bracketed text ++ tail) := by
  refine endsBody_of_no_hint (by simp [bracketed]) ?_
  intro h hh c hc hahead
  rcases mem_words_hint hh with ⟨direction, hdirection, rfl⟩ | ⟨style, rfl, hstyle⟩
  · have hopen : '[' ∈ direction.toList := by
      obtain ⟨d, more, hmore, -⟩ := exists_cons_of_mem_words_hint hh
      rw [hmore] at hahead ⊢
      obtain ⟨rfl, -⟩ := List.cons_prefix_cons.mp hahead
      exact List.mem_cons_self
    exact absurd (isAlpha_of_mem_direction hdirection _ hopen) (by decide)
  · -- Both close at their first closing bracket, so the name would be the style.
    have hinner : style ++ ']' :: [c] <+: text ++ ']' :: tail := by
      simpa [bracketed, List.cons_prefix_cons] using hahead
    obtain ⟨more, heq⟩ := hinner
    have hstyle' : style <+: text :=
      prefix_of_prefix_append hstyle ⟨']' :: c :: more, by simpa using heq⟩
    have hahead' : text <+: style ++ ']' :: c :: more := ⟨']' :: tail, by simpa using heq.symm⟩
    have htext : text <+: style := prefix_of_prefix_append hunclosed hahead'
    obtain rfl := hstyle'.eq_of_length (le_antisymm hstyle'.length_le htext.length_le)
    have hrest : c :: more = tail := by simpa using heq
    exact htail c (by rw [← hrest]; rfl) hc

/-- A text that ends in a character which the first text lacks goes beyond it, and so has the first
character of the second. -/
theorem not_isPrefix_append {front first second : List Char} {c : Char} (hc : c ∉ first)
    (hsecond : ∀ d ∈ second.head?, d ∉ front ++ [c]) : ¬front ++ [c] <+: first ++ second := by
  intro hahead
  rcases List.prefix_or_prefix_of_prefix hahead (List.prefix_append first second) with hin | hout
  · exact hc (hin.subset (by simp))
  · obtain ⟨more, hmore⟩ := hout
    cases more with
    | nil =>
        rw [List.append_nil] at hmore
        exact hc (by simp [hmore])
    | cons d more =>
        rw [← hmore, List.prefix_append_right_inj] at hahead
        obtain ⟨behind, rfl⟩ := hahead
        exact hsecond d rfl (by simp [← hmore])

/-- A bare name has no direction in it with a shaft behind that. -/
theorem endsBody_bare (hword : IsAlias word) (hundotted : '.' ∉ word)
    (htail : ∀ c ∈ tail.head?, Text.isBlank c = true ∨ c = ':') : EndsBody (word ++ tail) := by
  have hhead := hword.head_append tail
  refine endsBody_of_no_hint ?_ ?_
  · intro c hc hmem
    have hc := hhead c hc
    rcases List.mem_pair.mp hmem with rfl | rfl <;> exact absurd hc (by decide)
  intro h hh c hc hahead
  rcases mem_words_hint hh with ⟨direction, hdirection, rfl⟩ | ⟨style, rfl, -⟩
  · refine not_isPrefix_append ?_ ?_ hahead
    · intro hmem
      rcases List.mem_pair.mp hc with rfl | rfl
      · exact absurd (hword.isWord '-' hmem) (by decide)
      · exact hundotted hmem
    · intro d hd hmem
      have hletter : d.isAlpha = true ∨ d ∈ ['-', '.'] := by
        rcases List.mem_append.mp hmem with hmem | hmem
        · exact .inl (isAlpha_of_mem_direction hdirection d hmem)
        · exact .inr (List.mem_singleton.mp hmem ▸ hc)
      rcases htail d hd with hblank | rfl
      · rcases hletter with hletter | hletter
        · exact Bool.false_ne_true ((not_isBlank_of_isAlpha hletter).symm.trans hblank)
        · exact not_dash_of_isBlank hblank hletter
      · exact absurd hletter (by decide)
  · obtain ⟨behind, hbehind⟩ := hahead
    have hopen : '[' ∈ (word ++ tail).head? := by rw [← hbehind]; rfl
    exact absurd (hhead '[' hopen) (by decide)

theorem Mention.endsBody (mention : Mention)
    (htail : ∀ c ∈ tail.head?, Text.isBlank c = true ∨ c = ':') :
    EndsBody (mention.text ++ tail) := by
  cases mention with
  | bracketed text _ hunclosed _ =>
      refine endsBody_bracketed hunclosed ?_
      intro c hc
      rcases htail c hc with hc | rfl
      · exact not_dash_of_isBlank hc
      · decide
  | quoted text _ _ _ => exact endsBody_of_head (by simp [Mention.text, Diagram.quoted]; decide)
  | bare word hword hundotted => exact endsBody_bare hword hundotted htail

/-! ## Lines -/

namespace Ending

/-- What trimming its line leaves of the ending. -/
def trimmed (ending : Ending) : List Char :=
  match ending.label? with
  | none => []
  | some label => ending.blanks.text ++ ':' :: Text.trimEnd Text.isBlank label

theorem isEnding_trimmed (ending : Ending) : IsEnding ending.trimmed := by
  unfold trimmed
  split
  next => exact .inl rfl
  next label hlabel =>
    refine .inr ⟨_, _, rfl, ending.blanks.blank, ?_⟩
    exact fun hmem => ending.oneLine label hlabel (Text.mem_of_mem_trimEnd hmem)

theorem trimEnd_text_append (ending : Ending) (hrest : ∀ c ∈ rest, Text.isBlank c = true) :
    Text.trimEnd Text.isBlank (ending.text ++ rest) = ending.trimmed := by
  rw [Text.trimEnd_append_of_forall hrest]
  unfold text trimmed
  cases ending.label? with
  | none =>
      rw [List.append_nil]
      exact Text.trimEnd_eq_nil ending.blanks.blank
  | some label =>
      have hcolon : ∀ c ∈ (ending.blanks.text ++ [':']).getLast?, Text.isBlank c = false := by
        simp
        decide
      simpa using Text.trimEnd_append hcolon

theorem newline_not_mem (ending : Ending) : '\n' ∉ ending.text := by
  cases hlabel : ending.label? with
  | none => simpa [text, hlabel] using ending.blanks.oneLine
  | some label => simp [text, hlabel, ending.blanks.oneLine, ending.oneLine label hlabel]

end Ending

namespace Drawing

variable (drawing : Drawing)

/-- The trimmed line, cut into the names and the arrow between them. -/
def cut (before behind : Blanks) : Cut where
  left := drawing.left.text
  before := before.text
  stem := drawing.stem
  behind := behind.text
  right := drawing.right.text
  tail := drawing.ending.trimmed

theorem trim_line_append (before behind : Blanks) (hrest : ∀ c ∈ rest, Text.isBlank c = true) :
    Text.trim (drawing.line before behind ++ rest) = (drawing.cut before behind).line := by
  have hsolid : Text.Solid (drawing.left.text ++ ((before.text ++ (drawing.stem ++ behind.text)) ++
      drawing.right.text)) := drawing.left.solid.between drawing.right.solid _
  have hline : drawing.line before behind ++ rest =
      drawing.indent.text ++ ((drawing.left.text ++ ((before.text ++ (drawing.stem ++
        behind.text)) ++ drawing.right.text)) ++ (drawing.ending.text ++ rest)) := by
    simp [line]
  rw [hline, Text.trim_blank_append drawing.indent.blank, hsolid.trim_append,
    drawing.ending.trimEnd_text_append hrest]
  simp [cut, Cut.line, Cut.fromStem]

theorem newline_not_mem_line (before behind : Blanks) : '\n' ∉ drawing.line before behind := by
  have hstem : '\n' ∉ drawing.stem := by
    unfold stem Body.stem
    split <;> simp [drawing.body.newline_not_mem]
  simp [line, hstem, drawing.indent.oneLine, before.oneLine, behind.oneLine,
    drawing.left.newline_not_mem, drawing.right.newline_not_mem, drawing.ending.newline_not_mem]

theorem opens_cut (before behind : Blanks) : Opens (drawing.cut before behind).line := by
  refine opens_of_head drawing.left.solid.ne_nil ?_
  intro c hc
  have hc := drawing.left.head_text_append [] c (by rw [List.append_nil]; exact hc)
  constructor <;> rintro rfl <;> rcases hc with hc | hc | hc <;> exact absurd hc (by decide)

theorem endsBody_behind (behind : Blanks) :
    EndsBody (behind.text ++ (drawing.right.text ++ drawing.ending.trimmed)) := by
  cases hbehind : behind.text with
  | nil => exact drawing.right.endsBody drawing.ending.isEnding_trimmed.head
  | cons c more =>
      refine endsBody_of_isBlank ?_
      simpa using behind.blank c (hbehind ▸ List.mem_cons_self)

theorem head_behind (behind : Blanks) :
    '>' ∉ (behind.text ++ (drawing.right.text ++ drawing.ending.trimmed)).head? := by
  intro hmem
  cases hbehind : behind.text with
  | nil =>
      rw [hbehind] at hmem
      rcases drawing.right.head_text_append _ '>' hmem with hname | hname | hname <;>
        exact absurd hname (by decide)
  | cons c more =>
      have hc : c = '>' := by simpa [hbehind] using hmem
      exact absurd (behind.blank c (hbehind ▸ List.mem_cons_self)) (by rw [hc]; decide)

/-- Behind the left name, the line is read part by part, whatever the spacing. -/
theorem readable_cut (before behind : Blanks) : (drawing.cut before behind).Readable where
  before := before.blank
  stem q hafter := by
    have hafter : q.after = drawing.body.stem drawing.leftward ++
      (behind.text ++ (drawing.right.text ++ drawing.ending.trimmed)) := hafter
    have hstem : (drawing.cut before behind).stem = drawing.body.stem drawing.leftward := rfl
    rw [hstem]
    cases hleftward : drawing.leftward with
    | true =>
        rw [hleftward] at hafter
        exact drawing.body.prefers_leftward hafter (drawing.endsBody_behind behind)
          (drawing.head_behind behind)
    | false =>
        rw [hleftward] at hafter
        exact drawing.body.prefers_rightward hafter
  stem_head := drawing.body.isBlank_stem_append drawing.leftward _
  behind := behind.blank
  right q hafter := by
    refine drawing.right.prefers hafter fun _ c hc => ?_
    rcases drawing.ending.isEnding_trimmed.head c hc with hblank | rfl
    · exact not_nameChar_of_isBlank hblank
    · decide
  right_head := drawing.right.solid.head_append _
  ending := drawing.ending.isEnding_trimmed

end Drawing

end ImportRules.Diagram
