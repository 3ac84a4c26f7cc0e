import ImportRules.Proofs.Text.ByteOrder
import ImportRules.Source.Imports
import Mathlib.Data.List.Forall2
/-!
# Blanking comments in place

Every character is either kept or overwritten with as many spaces as it has bytes, and newlines are
always kept. So no byte of the text moves. In the outcome no comment starts any more: what stands
behind a slash in the code is still there or has become a space, so that removing a comment cannot
make a new one. A text in which no comment starts is left alone, so blanking twice is blanking once.
-/

namespace ImportRules.Source

variable {text blanked rest : List Char} {c quote : Char} {region : Region}

/-! ## Bytes stay where they are -/

/-- What blanking may make of a text, character by character. -/
inductive Blanked : List Char → List Char → Prop
  | nil : Blanked [] []
  | keep (c : Char) {text blanked : List Char} (hrest : Blanked text blanked) :
      Blanked (c :: text) (c :: blanked)
  | blank {c : Char} {text blanked : List Char} (hc : c ≠ '\n') (hrest : Blanked text blanked) :
      Blanked (c :: text) (blankOut c ++ blanked)

theorem blanked_blankFrom (region : Region) (text : List Char) :
    Blanked text (blankFrom region text) := by
  fun_induction blankFrom region text with
  | case1 => exact .nil
  | case2 rest ih => exact .blank (by decide) (.blank (by decide) ih)
  | case3 rest ih => exact .blank (by decide) (.blank (by decide) ih)
  | case4 c rest _ _ ih => exact .keep c ih
  | case5 rest ih => exact .keep '\n' ih
  | case6 c rest hc ih => exact .blank hc ih
  | case7 rest ih => exact .blank (by decide) (.blank (by decide) ih)
  | case8 c rest _ ih =>
      split
      next => exact .keep c ih
      next hc => exact .blank hc ih
  | case9 quote c rest ih => exact .keep '\\' (.keep c ih)
  | case10 quote rest _ ih => exact .keep '\\' ih
  | case11 quote c rest _ _ ih => exact .keep c ih

/-- A byte is kept or becomes a space, which a newline does not. -/
def ByteBlanked (before after : UInt8) : Prop :=
  after = before ∨ after = ' '.toUInt8 ∧ before ≠ '\n'.toUInt8

theorem newline_notMem_utf8EncodeChar (hc : c ≠ '\n') :
    '\n'.toUInt8 ∉ String.utf8EncodeChar c := by
  have hval : c.toNat ≠ 10 := fun heq => hc (Char.toNat_inj.mp heq)
  have hbyte : '\n'.toUInt8.toNat = 10 := rfl
  unfold String.utf8EncodeChar
  simp only [Char.toNat_val]
  split_ifs <;> simp [← UInt8.toNat_inj, hbyte] <;> omega

theorem flatMap_blankOut (c : Char) :
    (blankOut c).flatMap String.utf8EncodeChar = List.replicate c.utf8Size ' '.toUInt8 := by
  have hspace : String.utf8EncodeChar ' ' = [' '.toUInt8] := rfl
  simp [blankOut, List.flatMap_replicate, hspace]

theorem forall₂_blankOut (hc : c ≠ '\n') :
    List.Forall₂ ByteBlanked (String.utf8EncodeChar c)
      ((blankOut c).flatMap String.utf8EncodeChar) := by
  rw [flatMap_blankOut, List.forall₂_iff_get]
  refine ⟨by simp, fun i hbefore hafter => .inr ⟨by simp, ?_⟩⟩
  intro hnewline
  exact newline_notMem_utf8EncodeChar hc (hnewline ▸ List.get_mem _ _)

theorem Blanked.bytes (hblanked : Blanked text blanked) :
    List.Forall₂ ByteBlanked (text.flatMap String.utf8EncodeChar)
      (blanked.flatMap String.utf8EncodeChar) := by
  induction hblanked with
  | nil => exact .nil
  | keep c hrest ih =>
      rw [List.flatMap_cons, List.flatMap_cons]
      exact List.rel_append (List.forall₂_same.mpr fun byte _ => .inl rfl) ih
  | blank hc hrest ih =>
      rw [List.flatMap_cons, List.flatMap_append]
      exact List.rel_append (forall₂_blankOut hc) ih

/-- Byte by byte: newlines stay in place, and every other byte stays or becomes a space. -/
theorem getElem?_of_forall₂ {before after : List UInt8}
    (hbytes : List.Forall₂ ByteBlanked before after) (i : Nat) :
    (after[i]? = some '\n'.toUInt8 ↔ before[i]? = some '\n'.toUInt8) ∧
      (after[i]? = before[i]? ∨ after[i]? = some ' '.toUInt8) := by
  induction hbytes generalizing i with
  | nil => simp
  | cons hbyte hrest ih =>
      cases i with
      | zero =>
          rcases hbyte with rfl | ⟨rfl, hbefore⟩
          · simp
          · have hspace : ' '.toUInt8 ≠ '\n'.toUInt8 := by decide
            simp [hbefore, hspace]
      | succ i => simpa using ih i

/-! ## Nothing is left to blank -/

/-- A comment starts at the beginning of the text. -/
def OpensComment (text : List Char) : Prop :=
  ['/', '/'] <+: text ∨ ['/', '*'] <+: text

/-- No comment starts in a text that begins in a given region. -/
inductive CommentFree : Region → List Char → Prop
  | nil (region : Region) : CommentFree region []
  | code {c : Char} {rest : List Char} (hopen : ¬OpensComment (c :: rest))
      (hrest : CommentFree (if isQuote c then .literal c else .code) rest) :
      CommentFree .code (c :: rest)
  | escape {quote c : Char} {rest : List Char} (hrest : CommentFree (.literal quote) rest) :
      CommentFree (.literal quote) ('\\' :: c :: rest)
  | lastEscape (quote : Char) : CommentFree (.literal quote) ['\\']
  | literal {quote c : Char} {rest : List Char} (hc : c ≠ '\\')
      (hrest : CommentFree (behindLiteralChar quote c) rest) :
      CommentFree (.literal quote) (c :: rest)

/-- The region that a blanked text begins in: comments have become code. -/
def Region.uncommented : Region → Region
  | .lineComment | .blockComment => .code
  | region => region

theorem uncommented_behindLiteralChar (quote c : Char) :
    (behindLiteralChar quote c).uncommented = behindLiteralChar quote c := by
  rw [behindLiteralChar]
  split <;> rfl

theorem Blanked.head (hblanked : Blanked text blanked) :
    blanked.head? = text.head? ∨ blanked.head? = some ' ' := by
  cases hblanked with
  | nil => exact .inl rfl
  | keep c hrest => exact .inl rfl
  | @blank c text blanked hc hrest =>
      have hsize : c.utf8Size ≠ 0 := c.utf8Size_pos.ne'
      exact .inr (by simp [blankOut, List.head?_append, List.head?_replicate, hsize])

theorem opensComment_cons_iff :
    OpensComment (c :: rest) ↔ c = '/' ∧ (rest.head? = some '/' ∨ rest.head? = some '*') := by
  cases rest with
  | nil => simp [OpensComment]
  | cons d rest => simp [OpensComment, eq_comm, ← and_or_left]

/-- Blanking what stands behind a character of the code does not make it open a comment. -/
theorem Blanked.not_opensComment (hblanked : Blanked text blanked)
    (hopen : ¬OpensComment (c :: text)) : ¬OpensComment (c :: blanked) := by
  rw [opensComment_cons_iff] at hopen ⊢
  rintro ⟨hslash, hnext⟩
  rcases hblanked.head with hhead | hhead
  · exact hopen ⟨hslash, hhead ▸ hnext⟩
  · simp [hhead] at hnext

/-- Code goes on behind a character that neither opens a comment nor a string. -/
theorem CommentFree.cons (hslash : c ≠ '/') (hquote : isQuote c = false)
    (hrest : CommentFree .code rest) : CommentFree .code (c :: rest) :=
  .code (by simp [opensComment_cons_iff, hslash]) (by rwa [hquote])

theorem CommentFree.space (hrest : CommentFree .code rest) : CommentFree .code (' ' :: rest) :=
  hrest.cons (by decide) rfl

theorem CommentFree.blankOut (c : Char) (hrest : CommentFree .code rest) :
    CommentFree .code (blankOut c ++ rest) := by
  rw [Source.blankOut]
  induction c.utf8Size with
  | zero => exact hrest
  | succ size ih => exact ih.space

/-- No comment starts in the outcome. -/
theorem commentFree_blankFrom (region : Region) (text : List Char) :
    CommentFree region.uncommented (blankFrom region text) := by
  fun_induction blankFrom region text with
  | case1 region => exact .nil _
  | case2 rest ih => exact ih.space.space
  | case3 rest ih => exact ih.space.space
  | case4 c rest hline hblock ih =>
      have hopen : ¬OpensComment (c :: rest) := by
        rw [opensComment_cons_iff, List.head?_eq_some_iff, List.head?_eq_some_iff]
        rintro ⟨hslash, ⟨tail, htail⟩ | ⟨tail, htail⟩⟩
        · exact hline tail hslash htail
        · exact hblock tail hslash htail
      refine .code ((blanked_blankFrom _ rest).not_opensComment hopen) ?_
      split at ih
      next hquote => rwa [if_pos hquote]
      next hquote => rwa [if_neg hquote]
  | case5 rest ih => exact ih.cons (by decide) rfl
  | case6 c rest _ ih => exact ih.blankOut c
  | case7 rest ih => exact ih.space.space
  | case8 c rest _ ih =>
      split
      next hnewline => exact ih.cons (by simp [hnewline]) (by simp [hnewline, isQuote])
      next => exact ih.blankOut c
  | case9 quote c rest ih => exact .escape ih
  | case10 quote rest hlast ih =>
      cases rest with
      | nil => exact .lastEscape quote
      | cons c rest => exact (hlast c rest rfl rfl).elim
  | case11 quote c rest _ hescape ih =>
      rw [uncommented_behindLiteralChar] at ih
      exact .literal hescape ih

/-- A text without comments is left alone. -/
theorem CommentFree.blankFrom_eq (htext : CommentFree region text) :
    blankFrom region text = text := by
  induction htext with
  | nil region => cases region <;> rfl
  | @code c rest hopen hrest ih =>
      rw [opensComment_cons_iff] at hopen
      rw [blankFrom, ih]
      · rintro tail rfl rfl
        exact hopen ⟨rfl, .inl rfl⟩
      · rintro tail rfl rfl
        exact hopen ⟨rfl, .inr rfl⟩
  | escape hrest ih => rw [blankFrom, ih]
  | lastEscape quote => rfl
  | literal hc hrest ih =>
      rw [blankFrom, if_neg hc, ih]
      exact fun _ _ hescape => absurd hescape hc

theorem blankComments_eq_iff : blankComments text = text ↔ CommentFree .code text := by
  constructor
  · intro heq
    exact heq ▸ commentFree_blankFrom .code text
  · exact CommentFree.blankFrom_eq

theorem blankComments_blankComments (text : List Char) :
    blankComments (blankComments text) = blankComments text :=
  blankComments_eq_iff.mpr (commentFree_blankFrom .code text)

/-- The bytes of the blanked text stand where they stood, newlines included, and each is what it was
or a space. What is left holds no comment, only texts with a comment are changed, and blanking it
again or looking for imports in it makes no difference. -/
theorem blankComments_in_place (text : String) :
    let blanked := String.ofList (blankComments text.toList)
    (Text.bytes blanked).length = (Text.bytes text).length ∧
      (∀ i : Nat, (Text.bytes blanked)[i]? = some '\n'.toUInt8 ↔
        (Text.bytes text)[i]? = some '\n'.toUInt8) ∧
      (∀ i : Nat, (Text.bytes blanked)[i]? = (Text.bytes text)[i]? ∨
        (Text.bytes blanked)[i]? = some ' '.toUInt8) ∧
      CommentFree .code blanked.toList ∧
      (blanked = text ↔ CommentFree .code text.toList) ∧
      blankComments blanked.toList = blanked.toList ∧
      imports blanked.toList = imports text.toList := by
  intro blanked
  have hchars : blanked.toList = blankComments text.toList := String.toList_ofList
  have hbytes : List.Forall₂ ByteBlanked (Text.bytes text) (Text.bytes blanked) := by
    rw [Text.bytes_eq_flatMap, Text.bytes_eq_flatMap, hchars]
    exact (blanked_blankFrom .code text.toList).bytes
  have htwice := blankComments_blankComments text.toList
  have hsame : blanked = text ↔ CommentFree .code text.toList := by
    rw [← String.toList_inj, hchars]
    exact blankComments_eq_iff
  rw [hchars]
  refine ⟨hbytes.length_eq.symm, fun i => (getElem?_of_forall₂ hbytes i).1,
    fun i => (getElem?_of_forall₂ hbytes i).2, commentFree_blankFrom .code _, hsame, htwice, ?_⟩
  rw [imports, imports, htwice]

end ImportRules.Source
