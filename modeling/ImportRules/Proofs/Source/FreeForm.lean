import ImportRules.Proofs.Source.Statement
import ImportRules.Proofs.Text.Lines
/-!
# Imports with any names between any blanks

A clause binds a default, names in braces or a whole module under one name, and it may bind a
default together with one of the other two. Every word may be a name, also `type` and `as`: which of
the words of an item are keywords follows from how many words there are. Words stand apart by at
least one blank, and around marks there may be none.

The kinds that are read are those of the clause but for two slips. A name for the whole module is
overlooked behind a default. And an item counts as a type if `type` and a space come first in its
text, so that a modifier in front of another blank is overlooked and the name `type` in front of
`as` is taken for a modifier.
-/

namespace ImportRules.Source

/-- A text that can be read as the clause of an import. -/
structure Readable (text : List Char) : Prop where
  solid : Text.Solid text
  head : ∀ c ∈ text.head?, (isIdentifierChar c || c == '*' || c == '\x7b') = true
  notQuote : ∀ c ∈ text, (!List.contains ['\'', '"'] c) = true

namespace FreeForm

variable {c : Char}

/-- Marks that are no part of a name. -/
def marks : List Char :=
  ['\'', '"', '\x60', '/', ',', '*', '(', ')', '\x7b', '\x7d']

structure Identifier where
  text : List Char
  ne_nil : text ≠ []
  starts : ∀ c ∈ text.head?, isIdentifierChar c = true
  isPlain : ∀ c ∈ text, Text.isBlank c = false ∧ c ∉ marks

/-- Blanks between two words. -/
structure Space extends Gap where
  ne_nil : text ≠ []

def Space.single : Space where
  text := [' ']
  isBlank := List.forall_mem_singleton.mpr (by decide)
  ne_nil := List.cons_ne_nil ' ' []

/-- The word `type` with the blanks behind it, where it is a keyword. -/
def typeText : Option Space → List Char
  | none => []
  | some space => "type".toList ++ space.text

/-- One of the items in braces, such as `type a as b`. -/
structure Item where
  modifier : Option Space
  name : Identifier
  /-- The blanks before and behind `as`, and the new name. -/
  renamed : Option (Space × Space × Identifier)

namespace Item

/-- The new name of an item that is renamed. -/
def newName (item : Item) : List Char :=
  match item.renamed with
  | none => []
  | some (before, behind, other) =>
      before.text ++ ("as".toList ++ (behind.text ++ other.text))

def text (item : Item) : List Char :=
  typeText item.modifier ++ (item.name.text ++ item.newName)

/-- The first word of the item is `type`, another word follows, and the blanks between the two start
with a space. -/
def looksTyped (item : Item) : Bool :=
  match item.modifier, item.renamed with
  | some space, _ => space.text.head? == some ' '
  | none, some (before, _) => item.name.text == "type".toList && before.text.head? == some ' '
  | none, none => false

end Item

/-- What stands between two commas: an item with blanks around it, or blanks only. -/
structure Piece where
  before : Gap
  item : Option Item
  behind : Gap

def Piece.text (piece : Piece) : List Char :=
  piece.before.text ++ ((piece.item.map Item.text).getD [] ++ piece.behind.text)

/-- The text between braces. -/
def inside (pieces : List Piece) : List Char :=
  [','].intercalate (pieces.map Piece.text)

def items (pieces : List Piece) : List Item :=
  pieces.filterMap Piece.item

/-- What a clause binds besides a default. -/
inductive Bindings where
  | braces (pieces : List Piece)
  /-- `* as name` -/
  | wildcard (gap : Gap) (space : Space) (name : Identifier)

namespace Bindings

def text : Bindings → List Char
  | .braces pieces => '\x7b' :: (inside pieces ++ ['\x7d'])
  | .wildcard gap space name => '*' :: (gap.text ++ ("as".toList ++ (space.text ++ name.text)))

def way : Bindings → ImportKind
  | .braces _ => .named
  | .wildcard _ _ _ => .wildcard

def endsInWord : Bindings → Bool
  | .braces _ => false
  | .wildcard _ _ _ => true

end Bindings

inductive Clause where
  | default (name : Identifier)
  | bindings (bound : Bindings)
  /-- A default and, behind a comma with blanks around it, other bindings. -/
  | both (name : Identifier) (before behind : Gap) (bound : Bindings)

namespace Clause

def text : Clause → List Char
  | .default name => name.text
  | .bindings bound => bound.text
  | .both name before behind bound =>
      name.text ++ (before.text ++ ',' :: (behind.text ++ bound.text))

def endsInWord : Clause → Bool
  | .default _ => true
  | .bindings bound | .both _ _ _ bound => bound.endsInWord

/-- The ways in which something is imported. -/
def ways : Clause → List ImportKind
  | .default _ => [.default]
  | .bindings bound => [bound.way]
  | .both _ _ _ bound => [.default, bound.way]

/-- There are braces and nothing else, and all their items pass a test. -/
def allItems (test : Item → Bool) : Clause → Bool
  | .bindings (.braces pieces) => !(items pieces).isEmpty && (items pieces).all test
  | _ => false

/-- The ways that are read off the text of a clause. -/
def waysRead : Clause → List ImportKind
  | .both _ _ _ (.wildcard _ _ _) => [.default]
  | clause => clause.ways

end Clause

/-- An import statement with a clause. -/
structure Line where
  space : Space
  modifier : Option Space
  clause : Clause
  before : Gap
  behind : Gap
  quoted : Quoted
  /-- A word at the end of the clause stands apart from `from`. -/
  separated : clause.endsInWord = true → before.text ≠ []

namespace Line

def text (line : Line) : List Char :=
  "import".toList ++ (line.space.text ++ (typeText line.modifier ++ (line.clause.text ++
    (line.before.text ++ ("from".toList ++ (line.behind.text ++ line.quoted.text))))))

/-- The statement imports types only: it says so itself, or each of its items does. -/
def typeOnly (line : Line) : Bool :=
  line.modifier.isSome || line.clause.allItems (·.modifier.isSome)

def kinds (line : Line) : List ImportKind :=
  (if line.typeOnly then .type else .value) :: line.clause.ways

/-- The kinds that are read off the text of the clause. -/
def kindsRead (line : Line) : List ImportKind :=
  (if line.modifier.isSome || line.clause.allItems Item.looksTyped then .type else .value) ::
    line.clause.waysRead

end Line

/-! ## Marks -/

theorem notMem_gap (gap : Gap) (hc : c ∈ marks) : c ∉ gap.text := by
  have hmarks : ∀ c ∈ marks, (!Text.isBlank c) = true := List.all_eq_true.mp (by decide)
  intro hmem
  have hblank := hmarks c hc
  rw [gap.isBlank c hmem] at hblank
  cases hblank

theorem notMem_keywords (hc : c ∈ marks) : c ∉ "type".toList ∧ c ∉ "as".toList := by
  have hletters : ∀ c ∈ "type".toList ++ "as".toList, (!marks.contains c) = true :=
    List.all_eq_true.mp (by decide)
  have hnone : c ∉ "type".toList ++ "as".toList := fun hmem => by simpa [hc] using hletters c hmem
  exact ⟨fun hmem => hnone (List.mem_append_left _ hmem),
    fun hmem => hnone (List.mem_append_right _ hmem)⟩

theorem Identifier.notMem (name : Identifier) (hc : c ∈ marks) : c ∉ name.text :=
  fun hmem => (name.isPlain c hmem).2 hc

theorem notMem_typeText (modifier : Option Space) (hc : c ∈ marks) : c ∉ typeText modifier := by
  cases modifier with
  | none => exact List.not_mem_nil
  | some space =>
      rw [typeText, List.mem_append, not_or]
      exact ⟨(notMem_keywords hc).1, notMem_gap space.toGap hc⟩

theorem Item.notMem (item : Item) (hc : c ∈ marks) : c ∉ item.text := by
  have hnew : c ∉ item.newName := by
    unfold newName
    split
    next => exact List.not_mem_nil
    next before behind other _ =>
      simp only [List.mem_append, not_or]
      exact ⟨notMem_gap before.toGap hc, (notMem_keywords hc).2, notMem_gap behind.toGap hc,
        other.notMem hc⟩
  simp only [text, List.mem_append, not_or]
  exact ⟨notMem_typeText item.modifier hc, item.name.notMem hc, hnew⟩

theorem Piece.notMem (piece : Piece) (hc : c ∈ marks) : c ∉ piece.text := by
  have hitem : c ∉ (piece.item.map Item.text).getD [] := by
    cases piece.item with
    | none => exact List.not_mem_nil
    | some item => exact item.notMem hc
  simp only [text, List.mem_append, not_or]
  exact ⟨notMem_gap piece.before hc, hitem, notMem_gap piece.behind hc⟩

theorem notMem_inside (pieces : List Piece) (hc : c ∈ marks) (hcomma : c ≠ ',') :
    c ∉ inside pieces := by
  induction pieces with
  | nil => exact List.not_mem_nil
  | cons piece pieces ih =>
      cases pieces with
      | nil => simpa [inside] using piece.notMem hc
      | cons other pieces =>
          rw [inside, List.map_cons, List.map_cons, List.intercalate_cons_cons]
          simp only [List.mem_append, List.mem_singleton, not_or]
          exact ⟨⟨piece.notMem hc, hcomma⟩, ih⟩

/-- The marks that clauses are free of. -/
def foreign : List Char :=
  ['\'', '"', '\x60', '/', '(', ')']

theorem mem_marks_of_mem_foreign (hc : c ∈ foreign) :
    c ∈ marks ∧ c ≠ ',' ∧ c ≠ '*' ∧ c ≠ '\x7b' ∧ c ≠ '\x7d' := by
  simp only [foreign, List.mem_cons, List.not_mem_nil, or_false] at hc
  rcases hc with rfl | rfl | rfl | rfl | rfl | rfl <;> decide

theorem Bindings.notMem (bound : Bindings) (hc : c ∈ foreign) : c ∉ bound.text := by
  obtain ⟨hc, hcomma, hstar, hopen, hclose⟩ := mem_marks_of_mem_foreign hc
  cases bound with
  | braces pieces =>
      simp only [text, List.mem_cons, List.mem_append, List.not_mem_nil, or_false, not_or]
      exact ⟨hopen, notMem_inside pieces hc hcomma, hclose⟩
  | wildcard gap space name =>
      simp only [text, List.mem_cons, List.mem_append, not_or]
      exact ⟨hstar, notMem_gap gap hc, (notMem_keywords hc).2, notMem_gap space.toGap hc,
        name.notMem hc⟩

theorem Clause.notMem (clause : Clause) (hc : c ∈ foreign) : c ∉ clause.text := by
  obtain ⟨hmark, hcomma, -⟩ := mem_marks_of_mem_foreign hc
  cases clause with
  | default name => exact name.notMem hmark
  | bindings bound => exact bound.notMem hc
  | both name before behind bound =>
      simp only [text, List.mem_cons, List.mem_append, not_or]
      exact ⟨name.notMem hmark, notMem_gap before hmark, hcomma, notMem_gap behind hmark,
        bound.notMem hc⟩

/-! ## Ends -/

theorem Identifier.solid (name : Identifier) : Text.Solid name.text :=
  .of_forall name.ne_nil fun c hc => (name.isPlain c hc).1

theorem Item.solid (item : Item) : Text.Solid item.text := by
  have htype : Text.Solid "type".toList := .of_all (by simp) (by decide)
  have hname : Text.Solid (item.name.text ++ item.newName) := by
    unfold newName
    split
    next => simpa using item.name.solid
    next before behind other _ =>
      simpa using item.name.solid.between other.solid
        (before.text ++ ("as".toList ++ behind.text))
  cases hmodifier : item.modifier with
  | none => simpa [text, hmodifier, typeText] using hname
  | some space => simpa [text, hmodifier, typeText] using htype.between hname space.text

theorem Bindings.solid (bound : Bindings) : Text.Solid bound.text := by
  cases bound with
  | braces pieces =>
      have hopen : Text.Solid ['\x7b'] := .of_all (by simp) (by decide)
      have hclose : Text.Solid ['\x7d'] := .of_all (by simp) (by decide)
      exact hopen.between hclose (inside pieces)
  | wildcard gap space name =>
      have hstar : Text.Solid ['*'] := .of_all (by simp) (by decide)
      simpa [text] using hstar.between name.solid (gap.text ++ ("as".toList ++ space.text))

theorem Clause.solid (clause : Clause) : Text.Solid clause.text := by
  cases clause with
  | default name => exact name.solid
  | bindings bound => exact bound.solid
  | both name before behind bound =>
      simpa [text] using name.solid.between bound.solid (before.text ++ ',' :: behind.text)

theorem Clause.readable (clause : Clause) : Readable clause.text where
  solid := clause.solid
  head := by
    have hname : ∀ (name : Identifier) rest, ∀ c ∈ (name.text ++ rest).head?,
        (isIdentifierChar c || c == '*' || c == '\x7b') = true := by
      intro name rest c hc
      rw [List.head?_append_of_ne_nil _ name.ne_nil] at hc
      simp [name.starts c hc]
    have hbound : ∀ bound : Bindings, ∀ c ∈ bound.text.head?,
        (isIdentifierChar c || c == '*' || c == '\x7b') = true := by
      intro bound
      cases bound with
      | braces _ | wildcard _ _ _ =>
          rintro c ⟨⟩
          decide
    cases clause with
    | default name => simpa [text] using hname name []
    | bindings bound => exact hbound bound
    | both name before behind bound => exact hname name _
  notQuote c hc := by
    have hquotes : ∀ c ∈ ['\'', '"'], c ∈ foreign :=
      List.forall_mem_cons.mpr ⟨by decide, List.forall_mem_singleton.mpr (by decide)⟩
    simpa using fun hmem => clause.notMem (hquotes c hmem) hc

end FreeForm

end ImportRules.Source
