import ImportRules.Proofs.Diagram.Sheet
import ImportRules.Proofs.Regex.Preference
/-!
# How spelled names and arrows are read

On the names, shafts and arrows of a sheet, the expressions of a line prefer to read exactly what
was written, provided that what follows cannot be taken for more of it.
-/

namespace ImportRules.Diagram

open Regex

variable {p : Place} {text word rest : List Char}

/-! ## Names -/

/-- What stands between two marks is read by an expression that stops at the closing one. -/
theorem prefers_delimited {first last : Char} {inner : Regex}
    (hafter : p.after = first :: text ++ [last] ++ rest)
    (hinner : ∀ q : Place, q.after = text ++ last :: rest → inner.Prefers q (q.past text)) :
    (Regex.sequence [.char first, inner, .char last]).Prefers p
      (p.past (first :: text ++ [last])) := by
  have hafter : p.after = [first] ++ (text ++ ([last] ++ rest)) := by simpa using hafter
  rw [List.cons_append, Place.past_cons, Place.past_append]
  refine (prefers_char hafter).andThen hafter fun hopen => ?_
  exact (hinner _ hopen).andThen hopen prefers_char

theorem prefers_name_bracketed (hne : text ≠ []) (hunclosed : ']' ∉ text)
    (hafter : p.after = bracketed text ++ rest) :
    Diagram.name.Prefers p (p.past (bracketed text)) := by
  have hbracketed := prefers_delimited hafter fun q hq =>
    prefers_many1_one hq hne (forall_mem_noneOf.mpr hunclosed) (by simp)
  exact hbracketed.choice [] _ (by simp)

theorem prefers_bareName (hword : IsAlias word) (hafter : p.after = word ++ rest)
    (hrest : ∀ c ∈ rest.head?, (Text.isWord c || c == '.') = false) :
    bareName.Prefers p (p.past word) := by
  cases word with
  | nil => exact hword.elim
  | cons c tail =>
      have hnext : (p.past [c]).after = tail ++ rest := Place.after_past_of_append hafter
      rw [Place.past_cons]
      exact (prefers_one hafter hword.1).seq (prefers_many_one hnext hword.2 hrest)

theorem ends_delimited {first last : Char} {inner : Regex}
    (hhead : ∀ c ∈ p.after.head?, c ≠ first) :
    (Regex.sequence [.char first, inner, .char last]).ends p = [] := by
  refine ends_eq_nil_of_head rfl ?_
  intro c hc
  simp [Regex.sequence, startsWith, isNullable, Regex.char, hhead c hc]

theorem IsAlias.head_append (hword : IsAlias word) (rest : List Char) :
    ∀ c ∈ (word ++ rest).head?, (c.isAlpha || c == '_') = true := by
  cases word with
  | nil => exact hword.elim
  | cons c tail => simpa using hword.1

theorem IsAlias.head_ne (hword : IsAlias word) (rest : List Char) :
    ∀ c ∈ (word ++ rest).head?, c ≠ '[' ∧ c ≠ '"' := by
  intro c hc
  have hc := hword.head_append rest c hc
  constructor <;> rintro rfl <;> exact absurd hc (by decide)

/-- A bare name is taken neither for a name in brackets nor for one in quotes. -/
theorem prefers_name_bare (hword : IsAlias word) (hafter : p.after = word ++ rest)
    (hrest : ∀ c ∈ rest.head?, (Text.isWord c || c == '.') = false) :
    Diagram.name.Prefers p (p.past word) := by
  have hhead : ∀ c ∈ p.after.head?, c ≠ '[' ∧ c ≠ '"' := hafter ▸ hword.head_ne rest
  refine Prefers.alt_right (Prefers.alt_right (prefers_bareName hword hafter hrest) ?_) ?_
  · exact ends_delimited fun c hc => (hhead c hc).2
  · exact ends_delimited fun c hc => (hhead c hc).1

/-- A mention of a component is its alias or its name in brackets. -/
theorem Component.mention_cases (component : Component) (byAlias : Bool) :
    component.alias? = some (component.mention byAlias) ∨
      component.mention byAlias = bracketed component.name := by
  unfold mention
  split
  next halias => exact .inl halias
  next => exact .inr rfl

/-- A mention of a component is read as a whole where a space or nothing follows it. -/
theorem Component.prefers_mention (component : Component) (byAlias : Bool)
    (hafter : p.after = component.mention byAlias ++ rest) (hrest : ∀ c ∈ rest.head?, c = ' ') :
    Diagram.name.Prefers p (p.past (component.mention byAlias)) := by
  rcases component.mention_cases byAlias with halias | hbracketed
  · refine prefers_name_bare (component.isAlias _ halias) hafter ?_
    intro c hc
    rw [hrest c hc]
    decide
  · rw [hbracketed] at hafter ⊢
    exact prefers_name_bracketed component.isName.ne_nil component.isName.unclosed hafter

/-! ## Arrows -/

theorem Shaft.prefers (shaft : Shaft) (hafter : p.after = shaft.run ++ rest)
    (hrest : ∀ c ∈ rest.head?, c ∉ ['-', '.']) :
    Diagram.shaft.Prefers p (p.past shaft.run) := by
  refine prefers_many1_one hafter shaft.ne_nil ?_ ?_
  · intro c hc
    exact List.contains_iff_mem.mpr (shaft.dashed c hc)
  · intro c hc
    rw [← Bool.not_eq_true, List.contains_iff_mem]
    exact hrest c hc

/-! ### Hints -/

theorem hint_eq : hint = Regex.choice (directions.map literal ++
    [Regex.sequence [.char '[', .many (.noneOf [']']), .char ']']]) := rfl

/-- No direction begins with one that is tried before it. -/
theorem pairwise_directions :
    directions.Pairwise fun earlier later => ¬earlier.toList <+: later.toList := by
  decide

theorem directions_spelling : ∀ word ∈ directions, word.toList ≠ [] ∧ '-' ∉ word.toList ∧
    '.' ∉ word.toList ∧ '\n' ∉ word.toList := by
  decide

theorem dash_not_mem_direction {word : String} {c : Char} (hword : word ∈ directions)
    (hc : c ∈ ['-', '.']) : c ∉ word.toList := by
  obtain ⟨-, hhyphen, hdot, -⟩ := directions_spelling word hword
  rcases List.mem_pair.mp hc with rfl | rfl
  · exact hhyphen
  · exact hdot

/-- A text that lacks a character cannot reach beyond it. -/
theorem prefix_of_prefix_append {part front behind : List Char} {c : Char} (hc : c ∉ part)
    (hpart : part <+: front ++ c :: behind) : part <+: front := by
  rcases List.prefix_or_prefix_of_prefix hpart (List.prefix_append front _) with hshort | hlong
  · exact hshort
  · obtain ⟨more, rfl⟩ := hlong
    cases more with
    | nil => simp
    | cons d more =>
        obtain ⟨hd, -⟩ := List.cons_prefix_cons.mp ((List.prefix_append_right_inj front).mp hpart)
        exact absurd (hd ▸ List.mem_append_right front List.mem_cons_self) hc

theorem prefers_direction {word : String} {c : Char} (hword : word ∈ directions)
    (hafter : p.after = word.toList ++ c :: rest) (hc : c ∈ ['-', '.']) :
    hint.Prefers p (p.past word.toList) := by
  obtain ⟨before, behind, hsplit⟩ := List.append_of_mem hword
  have hearlier : ∀ earlier ∈ before, (literal earlier).ends p = [] := by
    intro earlier hearlier
    have hmem : earlier ∈ directions := hsplit ▸ List.mem_append_left _ hearlier
    -- An earlier direction cannot reach into the shaft, so it would be a part of this one.
    have hpairwise := pairwise_directions
    rw [hsplit, List.pairwise_append] at hpairwise
    refine ends_eq_nil ?_
    intro letters hletters hahead
    rw [mem_words_literal.mp hletters, hafter] at hahead
    exact hpairwise.2.2 earlier hearlier word List.mem_cons_self
      (prefix_of_prefix_append (dash_not_mem_direction hmem hc) hahead)
  rw [hint_eq, hsplit, List.map_append, List.map_cons, List.append_assoc, List.cons_append]
  exact (prefers_literal hafter).choice _ _ (by simpa using hearlier)

theorem prefers_style (hunclosed : ']' ∉ text) (hafter : p.after = bracketed text ++ rest) :
    hint.Prefers p (p.past (bracketed text)) := by
  have hbracketed := prefers_delimited hafter fun q hq =>
    prefers_many_one hq (forall_mem_noneOf.mpr hunclosed) (by simp)
  have hdirections : ∀ word ∈ directions,
      (literal word).isNullable = false ∧ (literal word).startsWith '[' = false := by decide
  rw [hint_eq]
  refine hbracketed.choice _ [] ?_
  intro other hother
  obtain ⟨word, hword, rfl⟩ := List.mem_map.mp hother
  obtain ⟨hnullable, hstart⟩ := hdirections word hword
  exact ends_eq_nil_of_head hnullable (by simpa [hafter, bracketed] using hstart)

/-- A hint is read as a whole where a shaft follows it. -/
theorem Hint.prefers (h : Hint) (shaft : Shaft) (hafter : p.after = h.text ++ (shaft.run ++ rest)) :
    hint.Prefers p (p.past h.text) := by
  cases h with
  | direction word hword =>
      obtain ⟨c, run, hrun⟩ := List.exists_cons_of_ne_nil shaft.ne_nil
      rw [hrun] at hafter
      exact prefers_direction hword hafter (shaft.dashed c (hrun ▸ List.mem_cons_self))
  | style text hunclosed _ => exact prefers_style hunclosed hafter

/-- A hint does not go on like a shaft. -/
theorem Hint.head_text_append (h : Hint) (rest : List Char) :
    ∀ c ∈ (h.text ++ rest).head?, c ∉ ['-', '.'] := by
  cases h with
  | direction word hword =>
      obtain ⟨d, tail, htail⟩ := List.exists_cons_of_ne_nil (directions_spelling word hword).1
      intro c hc hdash
      have hd : d = c := by simpa [Hint.text, htail] using hc
      exact dash_not_mem_direction hword hdash (by simp [htail, hd])
  | style text _ _ => simp [Hint.text, bracketed]

/-! ### Bodies and heads -/

/-- What ends the body of an arrow: it goes on neither like a shaft nor like a hint with a shaft
behind it. -/
structure EndsBody (rest : List Char) : Prop where
  dash : ∀ c ∈ rest.head?, c ∉ ['-', '.']
  hint : ∀ q : Place, q.after = rest → (Regex.seq hint shaft).ends q = []

/-- A head or a blank ends the body of an arrow. -/
theorem endsBody_of_head
    (hrest : ∀ c ∈ rest.head?, (Regex.seq hint shaft).startsWith c = false ∧ c ∉ ['-', '.']) :
    EndsBody rest where
  dash c hc := (hrest c hc).2
  hint _ hafter := ends_eq_nil_of_head rfl fun c hc => (hrest c (hafter ▸ hc)).1

/-- The body of an arrow is read as a whole where it ends. -/
theorem Body.prefers (body : Body) {tip : Regex} {stop : Place}
    (hafter : p.after = body.text ++ rest) (hrest : EndsBody rest)
    (htip : tip.Prefers (p.past body.text) stop) :
    (Regex.seq Diagram.shaft (.seq (.optional (.seq hint Diagram.shaft)) tip)).Prefers p stop := by
  obtain ⟨first, more?⟩ := body
  cases more? with
  | none =>
      rw [Body.text, List.append_nil] at hafter htip
      refine (first.prefers hafter hrest.dash).andThen hafter fun hnext => ?_
      exact (prefers_optional_none (hrest.hint _ hnext)).seq htip
  | some more =>
      obtain ⟨h, second⟩ := more
      simp only [Body.text, List.append_assoc] at hafter
      rw [Body.text, Place.past_append, Place.past_append] at htip
      refine (first.prefers hafter (h.head_text_append _)).andThen hafter fun hhint => ?_
      have hmore := (h.prefers second hhint).andThen hhint fun hsecond =>
        second.prefers hsecond hrest.dash
      exact hmore.optional.seq htip

theorem Body.head_text_append (body : Body) (rest : List Char) :
    ∀ c ∈ (body.text ++ rest).head?, c ∈ ['-', '.'] := by
  obtain ⟨d, tail, htail⟩ := List.exists_cons_of_ne_nil body.shaft.ne_nil
  have hd : d ∈ ['-', '.'] := body.shaft.dashed d (htail ▸ List.mem_cons_self)
  simpa [Body.text, htail] using hd

theorem Body.head_stem_append (body : Body) (leftward : Bool) (rest : List Char) :
    ∀ c ∈ (body.stem leftward ++ rest).head?, c ∈ ['<', '-', '.'] := by
  cases leftward with
  | true => simp [stem]
  | false =>
      intro c hc
      have hstem : body.stem false ++ rest = body.text ++ ('>' :: rest) := by simp [stem]
      rw [hstem] at hc
      exact List.mem_cons_of_mem '<' (body.head_text_append _ c hc)

/-- An arrow that points left is read as a whole where its body ends and no other head follows. -/
theorem Body.prefers_leftward (body : Body) (hafter : p.after = body.stem true ++ rest)
    (hrest : EndsBody rest) (hhead : '>' ∉ rest.head?) :
    arrow.Prefers p (p.past (body.stem true)) := by
  have hstem : body.stem true = '<' :: body.text := rfl
  rw [hstem] at hafter ⊢
  rw [Place.past_cons]
  refine (prefers_char hafter).optional.andThen hafter fun hbody => ?_
  have htip : (Regex.char '>').ends ((p.past ['<']).past body.text) = [] := by
    refine ends_eq_nil_of_head rfl ?_
    intro c hc
    rw [Place.after_past_of_append hbody] at hc
    exact beq_eq_false_iff_ne.mpr fun hsame => hhead (hsame ▸ hc)
  exact body.prefers hbody hrest (prefers_optional_none htip)

/-- An arrow that points right is read up to its head, whatever follows. -/
theorem Body.prefers_rightward (body : Body) (hafter : p.after = body.stem false ++ rest) :
    arrow.Prefers p (p.past (body.stem false)) := by
  have hstem : body.stem false = body.text ++ ['>'] := rfl
  rw [hstem] at hafter ⊢
  rw [List.append_assoc] at hafter
  have hhead : (p.past body.text).after = '>' :: rest := Place.after_past_of_append hafter
  have hbegin : (Regex.char '<').ends p = [] := by
    refine ends_eq_nil_of_head rfl ?_
    intro c hc
    rw [hafter] at hc
    rcases List.mem_pair.mp (body.head_text_append _ c hc) with rfl | rfl <;> rfl
  have hend : EndsBody ('>' :: rest) := endsBody_of_head (by simp; decide)
  rw [Place.past_append]
  exact (prefers_optional_none hbegin).seq
    (body.prefers hafter hend (prefers_char hhead).optional)

/-- An arrow is read as a whole, with its head, where a space follows it. -/
theorem Arrow.prefers_stem (drawn : Arrow) (hafter : p.after = drawn.stem ++ ' ' :: rest) :
    arrow.Prefers p (p.past drawn.stem) := by
  rw [stem] at hafter ⊢
  cases hleftward : drawn.leftward with
  | true =>
      rw [hleftward] at hafter
      have hspace : EndsBody (' ' :: rest) := endsBody_of_head (by simp; decide)
      exact drawn.body.prefers_leftward hafter hspace (by simp)
  | false =>
      rw [hleftward] at hafter
      exact drawn.body.prefers_rightward hafter

end ImportRules.Diagram
