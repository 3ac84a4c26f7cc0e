import ImportRules.Text.Blank
import ImportRules.Text.Word
import Mathlib.Data.List.Perm.Basic
/-!
# Word characters are not blank

No character that may stand in a word is blank. For ASCII this is seen character by character;
beyond it, because no range in the tables of the word characters meets a range of blanks. The
tables are evaluated as they stand: what unions and joined ranges add to them is no new character.
-/

namespace ImportRules.Text

namespace CharSet

/-- One of the ranges holds the code point; they need not be in order. -/
def Covers (ranges : List (Nat × Nat)) (point : Nat) : Prop :=
  ∃ range ∈ ranges, range.1 ≤ point ∧ point ≤ range.2

variable {ranges : List (Nat × Nat)} {point low high : Nat}

theorem covers_cons {range : Nat × Nat} :
    Covers (range :: ranges) point ↔ (range.1 ≤ point ∧ point ≤ range.2) ∨ Covers ranges point := by
  simp [Covers]

theorem covers_of_holds (hholds : holds point ranges = true) : Covers ranges point := by
  induction ranges with
  | nil => cases hholds
  | cons range rest ih =>
      obtain ⟨low, high⟩ := range
      simp only [holds, Bool.and_eq_true, Bool.or_eq_true, decide_eq_true_eq] at hholds
      obtain ⟨hlow, hhigh | hrest⟩ := hholds
      · exact covers_cons.mpr (.inl ⟨hlow, hhigh⟩)
      · exact covers_cons.mpr (.inr (ih hrest))

/-- Joining ranges that overlap or touch adds no code point. -/
theorem covers_of_joinFrom (hcovers : Covers (joinFrom low high ranges) point) :
    Covers ((low, high) :: ranges) point := by
  induction ranges generalizing low high with
  | nil => exact hcovers
  | cons range rest ih =>
      obtain ⟨low', high'⟩ := range
      rw [joinFrom] at hcovers
      simp only [covers_cons]
      split at hcovers
      next htouch =>
        rcases covers_cons.mp (ih hcovers) with hjoined | hrest
        · dsimp only at hjoined
          omega
        · exact .inr (.inr hrest)
      next =>
        rcases covers_cons.mp hcovers with hfirst | hrest
        · exact .inl hfirst
        · exact .inr (covers_cons.mp (ih hrest))

theorem covers_of_ofRanges (hcovers : Covers (ofRanges ranges).ranges point) :
    Covers ranges point := by
  have hsorted : Covers (ranges.mergeSort fun p q => p.1 ≤ q.1) point := by
    rw [ofRanges] at hcovers
    dsimp only at hcovers
    split at hcovers
    next => exact absurd hcovers (by simp [Covers])
    next hsort => exact hsort ▸ covers_of_joinFrom hcovers
  obtain ⟨range, hrange, hpoint⟩ := hsorted
  exact ⟨range, List.mem_mergeSort.mp hrange, hpoint⟩

theorem covers_of_unions {sets : List CharSet} (hcovers : Covers (unions sets).ranges point) :
    ∃ set ∈ sets, Covers set.ranges point := by
  obtain ⟨range, hrange, hpoint⟩ := covers_of_ofRanges hcovers
  obtain ⟨set, hset, hrange⟩ := List.mem_flatMap.mp hrange
  exact ⟨set, hset, range, hrange, hpoint⟩

/-- None of the ranges that a table lists meets one of the given ranges. -/
def tableAvoids (avoided : List (Nat × Nat)) (table : List Char) : Bool :=
  ((words table).flatMap ofWord).all fun range =>
    avoided.all fun other => other.2 < range.1 || range.2 < other.1

/-- The set has no code point in common with the given ranges. -/
def Avoids (avoided : List (Nat × Nat)) (set : CharSet) : Prop :=
  ∀ point, Covers set.ranges point → ¬Covers avoided point

variable {avoided : List (Nat × Nat)}

theorem avoids_unions {sets : List CharSet} (hsets : ∀ set ∈ sets, set.Avoids avoided) :
    (unions sets).Avoids avoided := by
  intro point hcovers
  obtain ⟨set, hset, hcovers⟩ := covers_of_unions hcovers
  exact hsets set hset point hcovers

theorem avoids_union {s t : CharSet} (hs : s.Avoids avoided) (ht : t.Avoids avoided) :
    (s.union t).Avoids avoided := by
  intro point hcovers
  obtain ⟨range, hrange, hpoint⟩ := covers_of_ofRanges hcovers
  rcases List.mem_append.mp hrange with hrange | hrange
  · exact hs point ⟨range, hrange, hpoint⟩
  · exact ht point ⟨range, hrange, hpoint⟩

/-- The characters are given apart from the table because only a list of characters can be
evaluated. -/
theorem avoids_ofTable {table : String} {letters : List Char}
    (htable : String.ofList letters = table) (havoids : tableAvoids avoided letters = true) :
    (ofTable table).Avoids avoided := by
  rintro point hcovers ⟨other, hother, hlow, hhigh⟩
  obtain ⟨range, hrange, hfirst, hlast⟩ := covers_of_ofRanges hcovers
  rw [← htable, String.toList_ofList] at hrange
  have hapart := List.all_eq_true.mp (List.all_eq_true.mp havoids range hrange) other hother
  simp only [Bool.or_eq_true, decide_eq_true_eq] at hapart
  omega

end CharSet

/-- The code points of the blank characters. -/
def blankRanges : List (Nat × Nat) :=
  [(0x09, 0x0D), (0x20, 0x20), (0x85, 0x85), (0xA0, 0xA0), (0x1680, 0x1680), (0x2000, 0x200A),
    (0x2028, 0x2029), (0x202F, 0x202F), (0x205F, 0x205F), (0x3000, 0x3000)]

theorem covers_blankRanges {c : Char} (hc : isBlank c = true) :
    CharSet.Covers blankRanges c.toNat := by
  simp only [isBlank, Bool.or_eq_true, Bool.and_eq_true, decide_eq_true_eq, beq_iff_eq] at hc
  simp only [blankRanges, CharSet.covers_cons]
  omega

/-- The categories of the characters that words are made of. -/
def wordCategories : List Category :=
  Category.letterNumber :: Category.letters ++
    [.nonspacingMark, .spacingMark, .enclosingMark, .decimalNumber, .connectorPunctuation]

set_option maxRecDepth 100000 in
/-- The tables of these categories list no blank. -/
theorem avoids_set {category : Category} (hcategory : category ∈ wordCategories) :
    category.set.Avoids blankRanges := by
  simp only [wordCategories, Category.letters, List.cons_append, List.nil_append, List.mem_cons,
    List.not_mem_nil, or_false] at hcategory
  rcases hcategory with rfl | rfl | rfl | rfl | rfl | rfl | rfl | rfl | rfl | rfl | rfl <;>
    exact CharSet.avoids_ofTable rfl (by decide +kernel)

set_option maxRecDepth 100000 in
theorem avoids_otherAlphabetic : Trait.otherAlphabetic.Avoids blankRanges :=
  CharSet.avoids_ofTable rfl (by decide +kernel)

theorem avoids_joinControl : Trait.joinControl.Avoids blankRanges :=
  CharSet.avoids_ofTable rfl (by decide +kernel)

theorem avoids_sets {categories : List Category} (hcategories : categories ⊆ wordCategories) :
    (Category.sets categories).Avoids blankRanges := by
  refine CharSet.avoids_unions ?_
  intro set hset
  obtain ⟨category, hcategory, rfl⟩ := List.mem_map.mp hset
  exact avoids_set (hcategories hcategory)

theorem avoids_wordSet : wordSet.Avoids blankRanges := by
  have halphabetic : Trait.alphabetic.Avoids blankRanges :=
    CharSet.avoids_union (avoids_sets (List.subset_append_left _ _)) avoids_otherAlphabetic
  refine CharSet.avoids_unions ?_
  simpa using ⟨halphabetic, avoids_joinControl, avoids_sets (List.subset_append_right _ _)⟩

/-- A character that may stand in a word is not blank. -/
theorem isBlank_of_isWord {c : Char} (hc : isWord c = true) : isBlank c = false := by
  rw [isWord] at hc
  split at hc
  next hascii =>
    have hchars : ∀ n < 128,
        isAsciiWord (Char.ofNat n) = true → isBlank (Char.ofNat n) = false := by decide
    have hc' := hchars c.toNat hascii
    rw [Char.ofNat_toNat] at hc'
    exact hc' hc
  next =>
    rw [← Bool.not_eq_true]
    intro hblank
    exact avoids_wordSet c.toNat (CharSet.covers_of_holds hc) (covers_blankRanges hblank)

/-- ASCII letters may stand in words. -/
theorem isWord_of_isAlpha {c : Char} (hc : c.isAlpha = true) : isWord c = true := by
  have hascii : c.toNat < 128 := by
    have hbounds : 65 ≤ c.toNat ∧ c.toNat ≤ 90 ∨ 97 ≤ c.toNat ∧ c.toNat ≤ 122 := by
      delta Char.isAlpha Char.isUpper Char.isLower at hc
      simpa [UInt32.le_iff_toNat_le] using hc
    omega
  simp [isWord, hascii, isAsciiWord, Char.isAlphanum, hc]

end ImportRules.Text
