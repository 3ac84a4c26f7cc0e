import ImportRules.Proofs.Source.ClauseKinds
import ImportRules.Proofs.Text.WordBlank
/-!
# Clauses of statements among those with any names

A name of a statement is a name, and a single space is a choice of blanks. So the clauses of imports
are clauses with any names between any blanks, with the same texts. They are read as they are meant:
their names are no reserved words, and the blank behind each modifier is a space. What is known of
the texts of such clauses holds of statements then, and only the star of an export without a name is
looked at by itself.
-/

namespace ImportRules.Source

variable {c : Char}

/-! ## Characters -/

theorem isIdentifierChar_of_isNameChar (hc : isNameChar c = true) : isIdentifierChar c = true := by
  simp only [isNameChar, Char.isAlphanum, Bool.or_eq_true, beq_iff_eq] at hc
  rcases hc with ((hc | hc) | rfl) | rfl
  · simp [isIdentifierChar, Text.isWord_of_isAlpha hc]
  · have hbounds : 48 ≤ c.toNat ∧ c.toNat ≤ 57 := by
      simpa [Char.isDigit, UInt32.le_iff_toNat_le] using hc
    have hascii : c.toNat < 128 := by omega
    simp [isIdentifierChar, Text.isWord, hascii, Text.isAsciiWord, Char.isAlphanum, hc]
  · decide
  · decide

theorem isBlank_of_isIdentifierChar (hc : isIdentifierChar c = true) : Text.isBlank c = false := by
  rcases Bool.or_eq_true_iff.mp hc with hc | hc
  · exact Text.isBlank_of_isWord hc
  · rw [beq_iff_eq.mp hc]
    decide

theorem isIdentifierChar_of_isBlank (hc : Text.isBlank c = true) : isIdentifierChar c = false := by
  by_contra hword
  rw [isBlank_of_isIdentifierChar (Bool.not_eq_false _ ▸ hword)] at hc
  cases hc

/-! ## Names and items -/

namespace Name

theorem notMem (name : Name) (hc : isNameChar c = false) : c ∉ name.text := by
  intro hmem
  rw [name.isName c hmem] at hc
  cases hc

theorem isIdentifierChar (name : Name) : ∀ c ∈ name.text, isIdentifierChar c = true :=
  fun c hc => isIdentifierChar_of_isNameChar (name.isName c hc)

def free (name : Name) : FreeForm.Identifier where
  text := name.text
  ne_nil := name.ne_nil
  starts c hc := name.isIdentifierChar c (List.mem_of_mem_head? hc)
  isPlain c hc := by
    have hmarks : FreeForm.marks.all (!isNameChar ·) = true := by decide
    refine ⟨isBlank_of_isIdentifierChar (name.isIdentifierChar c hc), fun hmark => ?_⟩
    exact name.notMem ((Bool.not_eq_true' _).mp (List.all_eq_true.mp hmarks c hmark)) hc

end Name

/-- The blanks behind `type`, where it is a keyword of a statement. -/
def modifier (typeOnly : Bool) : Option FreeForm.Space :=
  if typeOnly then some .single else none

theorem typeText_modifier (typeOnly : Bool) :
    FreeForm.typeText (modifier typeOnly) = if typeOnly then "type ".toList else [] := by
  cases typeOnly <;> rfl

namespace Item

def free (item : Item) : FreeForm.Item where
  modifier := modifier item.typeOnly
  name := item.name.free
  renamed := item.renamed.map fun other => (.single, .single, other.free)

theorem text_free (item : Item) : item.free.text = item.text := by
  obtain ⟨typeOnly, name, renamed⟩ := item
  cases typeOnly <;> cases renamed <;> rfl

/-- No name of a statement is taken for a modifier. -/
theorem looksTyped_free (item : Item) : item.free.looksTyped = item.typeOnly := by
  obtain ⟨typeOnly, name, renamed⟩ := item
  cases typeOnly with
  | true => rfl
  | false =>
      cases renamed with
      | none => rfl
      | some other =>
          have hname : (name.free.text == "type".toList) = false :=
            beq_eq_false_iff_ne.mpr fun htype : name.text = "type".toList =>
              name.notReserved (htype ▸ (by decide))
          exact Bool.and_eq_false_iff.mpr (.inl hname)

end Item

/-! ## Braces -/

def Piece.free (piece : Piece) : FreeForm.Piece where
  before := piece.before
  item := piece.item.map Item.free
  behind := piece.behind

theorem Piece.text_free (piece : Piece) : piece.free.text = piece.text := by
  obtain ⟨before, item, behind⟩ := piece
  cases item with
  | none => rfl
  | some item => simp [free, FreeForm.Piece.text, text, item.text_free]

namespace Braces

def pieces (braces : Braces) : List FreeForm.Piece :=
  (braces.first :: braces.others).map Piece.free

theorem inside_pieces (braces : Braces) : FreeForm.inside braces.pieces = braces.inside := by
  have htexts : FreeForm.Piece.text ∘ Piece.free = Piece.text := funext Piece.text_free
  obtain ⟨first, others⟩ := braces
  rw [FreeForm.inside, pieces, List.map_map, htexts, inside]
  induction others generalizing first with
  | nil => simp
  | cons other others ih => simp_all

theorem items_pieces (braces : Braces) :
    FreeForm.items braces.pieces = braces.items.map Item.free := by
  rw [FreeForm.items, pieces, List.filterMap_map, items, List.map_filterMap]
  rfl

theorem allItems_pieces (braces : Braces) :
    (FreeForm.Clause.bindings (.braces braces.pieces)).allItems FreeForm.Item.looksTyped =
      braces.typesOnly := by
  rw [FreeForm.Clause.allItems, items_pieces, List.isEmpty_map, List.all_map, typesOnly]
  exact congrArg _ (congrArg braces.items.all (funext Item.looksTyped_free))

end Braces

/-! ## Clauses -/

namespace Clause

/-- A clause of a statement as one with any names between any blanks. -/
structure Embeds (clause : Clause) (free : FreeForm.Clause) : Prop where
  text : free.text = clause.text
  ways : free.waysRead = clause.ways
  types : free.allItems FreeForm.Item.looksTyped = clause.typesOnly

theorem eq_all_or_embeds (clause : Clause) : clause = .all ∨ ∃ free, clause.Embeds free := by
  have hbraces : ∀ braces : Braces,
      (FreeForm.Bindings.braces braces.pieces).text = braces.text := by
    intro braces
    rw [FreeForm.Bindings.text, braces.inside_pieces, Braces.text]
  cases clause with
  | default name => exact .inr ⟨.default name.free, rfl, rfl, rfl⟩
  | named braces =>
      exact .inr ⟨.bindings (.braces braces.pieces), hbraces braces, rfl, braces.allItems_pieces⟩
  | both name braces =>
      refine .inr ⟨.both name.free ⟨[], List.forall_mem_nil _⟩ FreeForm.Space.single.toGap
        (.braces braces.pieces), ?_, rfl, rfl⟩
      rw [FreeForm.Clause.text, hbraces]
      rfl
  | wildcard name =>
      exact .inr
        ⟨.bindings (.wildcard FreeForm.Space.single.toGap .single name.free), rfl, rfl, rfl⟩
  | all => exact .inl rfl

/-- What holds of a star and of the texts of all clauses with any names holds of the texts of
statements. -/
theorem text_cases {motive : List Char → Prop} (all : motive ['*'])
    (free : ∀ clause : FreeForm.Clause, motive clause.text) (clause : Clause) :
    motive clause.text := by
  rcases clause.eq_all_or_embeds with rfl | ⟨other, hother⟩
  · exact all
  · exact hother.text ▸ free other

theorem notMem (clause : Clause) (hc : c ∈ FreeForm.foreign) : c ∉ clause.text := by
  refine @text_cases (c ∉ ·) ?_ (fun other => other.notMem hc) clause
  intro hstar
  obtain rfl := List.mem_singleton.mp hstar
  exact absurd hc (by decide)

theorem readable (clause : Clause) : Readable clause.text := by
  refine text_cases ⟨.of_all (by simp) (by decide), ?_, ?_⟩ FreeForm.Clause.readable clause
  · rintro c ⟨⟩
    decide
  · exact List.forall_mem_singleton.mpr (by decide)

theorem solid (clause : Clause) : Text.Solid clause.text :=
  clause.readable.solid

/-- The kinds that are read off a clause are those that it was written for. -/
theorem clauseKinds_text (clause : Clause) (typeOnly : Bool) :
    clauseKinds clause.text typeOnly =
      (if typeOnly || clause.typesOnly then .type else .value) :: clause.ways := by
  rcases clause.eq_all_or_embeds with rfl | ⟨free, hfree⟩
  · cases typeOnly <;> decide
  · rw [← hfree.text, free.clauseKinds_text, hfree.ways, hfree.types]

end Clause

end ImportRules.Source
