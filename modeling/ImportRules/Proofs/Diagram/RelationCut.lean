import ImportRules.Proofs.Diagram.Spelling
import ImportRules.Text.Blank
/-!
# Lines cut into a relation

The line of a relation is cut into two names, an arrow, the blanks around it and what stands behind
the right name. If every part is read as a whole where it stands, the line is read as the relation
that it was cut into.
-/

namespace ImportRules.Diagram

open Regex

variable {p : Place} {tail : List Char}

/-! ## Ends of lines -/

/-- What may stand behind the right name of a trimmed line: nothing, or a label behind blanks and a
colon. -/
def IsEnding (tail : List Char) : Prop :=
  tail = [] ∨ ∃ blanks label, tail = blanks ++ ':' :: label ∧
    (∀ c ∈ blanks, Text.isBlank c = true) ∧ '\n' ∉ label

theorem IsEnding.head (htail : IsEnding tail) :
    ∀ c ∈ tail.head?, Text.isBlank c = true ∨ c = ':' := by
  rcases htail with rfl | ⟨blanks, label, rfl, hblanks, -⟩
  · simp
  · cases blanks with
    | nil => simp
    | cons d blanks => simpa using .inl (hblanks d List.mem_cons_self)

theorem prefers_ending (htail : IsEnding tail) (hafter : p.after = tail) :
    (Regex.sequence [.many .blank, .optional (.seq (.char ':') (.many (.noneOf ['\n']))),
      .anchor .textEnd]).Prefers p (p.past tail) := by
  rcases htail with rfl | ⟨blanks, label, rfl, hblanks, hlabel⟩
  · have hblank : (many .blank).Prefers p p := prefers_many_one_none (by simp [hafter])
    have hnone : (Regex.seq (.char ':') (.many (.noneOf ['\n']))).ends p = [] :=
      ends_eq_nil_of_end rfl hafter
    exact hblank.seq ((prefers_optional_none hnone).seq (prefers_textEnd hafter))
  · have hblank : (many .blank).Prefers p (p.past blanks) :=
      prefers_many_one hafter hblanks (by simp; decide)
    rw [Place.past_append, Place.past_cons _ ':']
    refine hblank.andThen hafter fun hcolon => ?_
    have hbehind : ((p.past blanks).past [':']).after = label ++ [] := by
      rw [List.append_nil]
      exact Place.after_past_of_append hcolon
    have hrest := prefers_many_one hbehind (forall_mem_noneOf.mpr hlabel) (by simp)
    have hstop := Place.after_past_of_append hbehind
    exact ((prefers_char hcolon).seq hrest).optional.seq (prefers_textEnd hstop)

/-! ## Cuts -/

/-- What follows the left name in the line of a relation. -/
def arrowPart : Regex :=
  sequence
    [.many .blank, .group 2 arrow, .many .blank, .group 3 name, .many .blank,
     .optional (.seq (.char ':') (.many (.noneOf ['\n']))), .anchor .textEnd]

theorem relationLine_eq :
    relationLine = .seq (.anchor .textStart) (.seq (.group 1 name) arrowPart) := rfl

/-- A line cut into the parts of a relation. `before` and `behind` are the blanks on either side of
the arrow. -/
structure Cut where
  left : List Char
  before : List Char
  stem : List Char
  behind : List Char
  right : List Char
  tail : List Char

namespace Cut

variable {cut : Cut}

/-- The line from the arrow on. -/
def fromStem (cut : Cut) : List Char :=
  cut.stem ++ (cut.behind ++ (cut.right ++ cut.tail))

def line (cut : Cut) : List Char :=
  cut.left ++ (cut.before ++ cut.fromStem)

/-- Behind the left name, every part is read as a whole. -/
structure Readable (cut : Cut) : Prop where
  before : ∀ c ∈ cut.before, Text.isBlank c = true
  stem : ∀ q : Place, q.after = cut.fromStem → arrow.Prefers q (q.past cut.stem)
  stem_head : ∀ c ∈ cut.fromStem.head?, Text.isBlank c = false
  behind : ∀ c ∈ cut.behind, Text.isBlank c = true
  right : ∀ q : Place, q.after = cut.right ++ cut.tail → name.Prefers q (q.past cut.right)
  right_head : ∀ c ∈ (cut.right ++ cut.tail).head?, Text.isBlank c = false
  ending : IsEnding cut.tail

/-- The left name has no say in it. -/
theorem Readable.withLeft (hcut : cut.Readable) (left : List Char) :
    Readable { cut with left := left } :=
  ⟨hcut.before, hcut.stem, hcut.stem_head, hcut.behind, hcut.right, hcut.right_head, hcut.ending⟩

/-- Where the reading stops if it goes on from a place behind the left name, with the arrow and the
right name marked. -/
def stop (cut : Cut) (p : Place) : Place :=
  let before := p.past cut.before
  let stem := (before.past cut.stem).marked 2 before.index
  let behind := stem.past cut.behind
  ((behind.past cut.right).marked 3 behind.index).past cut.tail

theorem Readable.prefers (hcut : cut.Readable) (hafter : p.after = cut.before ++ cut.fromStem) :
    arrowPart.Prefers p (cut.stop p) := by
  -- Each part is read as a whole because of what the next one starts with.
  have hblank := prefers_many_one hafter hcut.before hcut.stem_head
  refine hblank.andThen hafter fun hstem => ?_
  refine (hcut.stem _ hstem).groupThen 2 hstem fun hbehind => ?_
  have hblank := prefers_many_one hbehind hcut.behind hcut.right_head
  refine hblank.andThen hbehind fun hright => ?_
  refine (hcut.right _ hright).groupThen 3 hright fun hstop => ?_
  exact prefers_ending hcut.ending hstop

/-- Where the reading of the left name stops, with the name marked. -/
def leftEnd (cut : Cut) : Place :=
  ((Place.start cut.line).past cut.left).marked 1 0

/-- A line that is read up to the ends of its parts is read as the relation that it was cut
into. -/
theorem readLine_of_prefers
    (hprefers : (Regex.seq (.group 1 name) arrowPart).Prefers (Place.start cut.line)
      (cut.stop cut.leftEnd)) :
    readLine cut.line = .relation cut.left cut.stem cut.right := by
  have hline : cut.line = cut.left ++ (cut.before ++ (cut.stem ++ (cut.behind ++
      (cut.right ++ cut.tail)))) := rfl
  have hsearch : relationLine.search? cut.line =
      some ⟨0, (cut.stop cut.leftEnd).index, (cut.stop cut.leftEnd).marks⟩ := by
    rw [relationLine_eq]
    exact hprefers.search?
  have hrelation : readRelation? cut.line = some (.relation cut.left cut.stem cut.right) := by
    rw [readRelation?, hsearch]
    generalize hfound : Match.mk 0 (cut.stop cut.leftEnd).index (cut.stop cut.leftEnd).marks = found
    have hleft : found.group? cut.line 1 = some cut.left :=
      group?_of_find? [] _ hline (by simp [← hfound, stop, leftEnd, Place.start])
    have hstem : found.group? cut.line 2 = some cut.stem :=
      group?_of_find? (cut.left ++ cut.before) _ (by simpa using hline)
        (by simp [← hfound, stop, leftEnd, Place.start])
    have hright : found.group? cut.line 3 = some cut.right :=
      group?_of_find? (cut.left ++ (cut.before ++ (cut.stem ++ cut.behind))) _
        (by simpa using hline) (by simp [← hfound, stop, leftEnd, Place.start, Nat.add_assoc])
    simp [hleft, hstem, hright]
  rw [readLine, hrelation]

theorem after_start_line (cut : Cut) :
    (Place.start cut.line).after = cut.left ++ (cut.before ++ cut.fromStem) := rfl

/-- It is enough that the left name is read as a whole as well. -/
theorem Readable.readLine (hcut : cut.Readable)
    (hleft : name.Prefers (Place.start cut.line) ((Place.start cut.line).past cut.left)) :
    readLine cut.line = .relation cut.left cut.stem cut.right :=
  readLine_of_prefers (hleft.groupThen 1 cut.after_start_line hcut.prefers)

end Cut

end ImportRules.Diagram
