import ImportRules.Proofs.Source.FreeForm
/-!
# What a clause says about the ways it imports

The kinds are read off the text of a clause. Braces are found behind the name in front of them and
are cut into their items at the commas. An item is taken for a type by the word that it starts with.
-/

namespace ImportRules.Source

/-! ## Braces and what stands before them -/

section

variable {text : List Char}

theorem splitBraces_of_notMem (htext : '\x7b' ∉ text) : splitBraces text = (text, none) := by
  have hall : ∀ c ∈ text, (c != '\x7b') = true := fun c hc => by
    simpa using fun heq : c = '\x7b' => htext (heq ▸ hc)
  have hdrop : text.dropWhile (· != '\x7b') = [] := by
    rw [← List.append_nil text, List.dropWhile_append_of_pos hall]
    rfl
  rw [splitBraces, hdrop]

theorem splitBraces_append (htext : '\x7b' ∉ text) (inside : List Char) :
    splitBraces (text ++ '\x7b' :: (inside ++ ['\x7d'])) = (text, some inside) := by
  have hall : ∀ c ∈ text, (c != '\x7b') = true := fun c hc => by
    simpa using fun heq : c = '\x7b' => htext (heq ▸ hc)
  have hclosed : Text.trimEnd (· != '\x7d') (inside ++ ['\x7d']) = inside ++ ['\x7d'] :=
    Text.trimEnd_eq_self (by simp)
  have hdrop : (text ++ '\x7b' :: (inside ++ ['\x7d'])).dropWhile (· != '\x7b') =
      '\x7b' :: (inside ++ ['\x7d']) := by
    rw [List.dropWhile_append_of_pos hall]
    rfl
  have htake : (text ++ '\x7b' :: (inside ++ ['\x7d'])).takeWhile (· != '\x7b') = text := by
    rw [List.takeWhile_append_of_pos hall]
    simp
  rw [splitBraces, hdrop, htake]
  simp [hclosed]

/-- What stands before the braces, if no comma is behind it. -/
theorem trim_head_of_last (htext : Text.Solid text)
    (hlast : ∀ c ∈ text.getLast?, (c == ',') = false) :
    Text.trim (Text.trimEnd (· == ',') (Text.trim text)) = text := by
  rw [htext.trim_eq, Text.trimEnd_eq_self hlast, htext.trim_eq]

theorem trim_head (htext : Text.Solid text) (hcomma : ',' ∉ text) :
    Text.trim (Text.trimEnd (· == ',') (Text.trim text)) = text := by
  apply trim_head_of_last htext
  intro c hc
  simpa using fun heq : c = ',' => hcomma (heq ▸ List.mem_of_mem_getLast? hc)

/-- What stands before the braces, without the comma behind it. -/
theorem trim_head_comma {before behind : List Char} (htext : Text.Solid text) (hcomma : ',' ∉ text)
    (hbefore : ∀ c ∈ before, Text.isBlank c = true)
    (hbehind : ∀ c ∈ behind, Text.isBlank c = true) :
    Text.trim (Text.trimEnd (· == ',') (Text.trim (text ++ (before ++ ',' :: behind)))) =
      text := by
  have hblank : Text.trimEnd Text.isBlank (before ++ ',' :: behind) = before ++ [','] := by
    have hlast : ∀ c ∈ (before ++ [',']).getLast?, Text.isBlank c = false := by
      intro c hc
      rw [List.getLast?_concat, Option.mem_some_iff] at hc
      rw [← hc]
      decide
    rw [List.append_cons, Text.trimEnd_append hlast, Text.trimEnd_eq_nil hbehind, List.append_nil]
  have hlast : ∀ c ∈ (text ++ before).getLast?, (c == ',') = false := by
    intro c hc
    apply beq_eq_false_iff_ne.mpr
    rintro rfl
    rcases List.mem_append.mp (List.mem_of_mem_getLast? hc) with hc | hc
    · exact hcomma hc
    · exact absurd (hbefore _ hc) (by decide)
  rw [htext.trim_append, hblank, ← List.append_assoc, Text.trimEnd_concat rfl,
    Text.trimEnd_eq_self hlast, htext.trim_append, Text.trimEnd_eq_nil hbefore, List.append_nil]

end

namespace FreeForm

/-! ## Items in braces -/

/-- A text starts with `type` and a space if its first word is `type` and a space follows. -/
theorem isPrefixOf_word {word rest : List Char} (hword : ∀ c ∈ word, (!Text.isBlank c) = true)
    (hrest : ∀ c ∈ rest.head?, Text.isBlank c = true) :
    "type ".toList.isPrefixOf (word ++ rest) =
      (word == "type".toList && rest.head? == some ' ') := by
  apply Bool.eq_iff_iff.mpr
  rw [List.isPrefixOf_iff_prefix, Bool.and_eq_true, beq_iff_eq, beq_iff_eq]
  constructor
  · rintro ⟨more, hmore⟩
    have htype : "type".toList ++ ' ' :: more = word ++ rest := hmore
    cases rest with
    | nil =>
        have hmem : ' ' ∈ word := by
          rw [← List.append_nil word, ← htype]
          exact List.mem_append_right _ List.mem_cons_self
        exact absurd (hword ' ' hmem) (by decide)
    | cons d rest =>
        have hletters : ∀ c ∈ "type".toList, (!Text.isBlank c) = true :=
          List.all_eq_true.mp (by decide)
        obtain ⟨hsame, hspace, -⟩ := Text.append_cons_inj hletters hword (by decide)
          (congrArg not (hrest d rfl)) htype
        exact ⟨hsame.symm, congrArg some hspace.symm⟩
  · rintro ⟨rfl, hspace⟩
    obtain ⟨more, rfl⟩ := List.head?_eq_some_iff.mp hspace
    exact ⟨more, rfl⟩

theorem Space.head_append (space : Space) (rest : List Char) :
    (space.text ++ rest).head? = space.text.head? :=
  List.head?_append_of_ne_nil _ space.ne_nil

theorem Space.isBlank_head (space : Space) : ∀ c ∈ space.text.head?, Text.isBlank c = true :=
  fun c hc => space.isBlank c (List.mem_of_mem_head? hc)

theorem Item.isPrefixOf_text (item : Item) :
    "type ".toList.isPrefixOf item.text = item.looksTyped := by
  have hname : ∀ c ∈ item.name.text, (!Text.isBlank c) = true :=
    fun c hc => congrArg not (item.name.isPlain c hc).1
  have htype : ∀ c ∈ "type".toList, (!Text.isBlank c) = true := List.all_eq_true.mp (by decide)
  rw [text, looksTyped]
  cases item.modifier with
  | some space =>
      rw [typeText, List.append_assoc, isPrefixOf_word htype, space.head_append]
      · simp
      · rw [space.head_append]
        exact space.isBlank_head
  | none =>
      rw [typeText, List.nil_append, newName]
      cases item.renamed with
      | none =>
          rw [isPrefixOf_word hname]
          · simp
          · simp
      | some renamed =>
          obtain ⟨before, behind, other⟩ := renamed
          rw [isPrefixOf_word hname, before.head_append]
          rw [before.head_append]
          exact before.isBlank_head

theorem Piece.trim_text (piece : Piece) :
    Text.trim piece.text = (piece.item.map Item.text).getD [] := by
  refine Text.trim_between piece.before.isBlank piece.behind.isBlank ?_
  cases piece.item with
  | none => exact .inl rfl
  | some item => exact .inr item.solid

/-- Trimmed and without those that are blank, the pieces between commas are the items. -/
theorem filter_map_trim (pieces : List Piece) :
    ((pieces.map Piece.text).map Text.trim).filter (!·.isEmpty) =
      (items pieces).map Item.text := by
  induction pieces with
  | nil => rfl
  | cons piece pieces ih =>
      have htrim := piece.trim_text
      cases hitem : piece.item with
      | none =>
          rw [hitem] at htrim
          simpa [items, hitem, htrim] using ih
      | some item =>
          rw [hitem] at htrim
          simpa [items, hitem, htrim, item.solid.ne_nil] using ih

/-- The items that are found in braces. -/
theorem items_inside (pieces : List Piece) :
    (((inside pieces).splitOn ',').map Text.trim).filter (!·.isEmpty) =
      (items pieces).map Item.text := by
  by_cases hnil : pieces = []
  · rw [hnil]
    rfl
  · have hcomma : ∀ text ∈ pieces.map Piece.text, ',' ∉ text := by
      intro text htext
      obtain ⟨piece, -, rfl⟩ := List.mem_map.mp htext
      exact piece.notMem (by decide)
    rw [inside, List.splitOn_intercalate ',' hcomma (by simpa using hnil)]
    exact filter_map_trim pieces

/-! ## Kinds -/

theorem Identifier.head?_ne_star (name : Identifier) (rest : List Char) :
    ((name.text ++ rest).head? == some '*') = false := by
  apply beq_eq_false_iff_ne.mpr
  rw [List.head?_append_of_ne_nil _ name.ne_nil]
  exact fun hstar => name.notMem (by decide) (List.mem_of_mem_head? hstar)

/-- Braces are found behind what stands before them, wherever a wildcard is not. -/
theorem Bindings.splitBraces_append (bound : Bindings) {text : List Char} (htext : '\x7b' ∉ text) :
    splitBraces (text ++ bound.text) =
      match bound with
      | .braces pieces => (text, some (inside pieces))
      | .wildcard _ _ _ => (text ++ bound.text, none) := by
  cases bound with
  | braces pieces => exact Source.splitBraces_append htext (inside pieces)
  | wildcard gap space name =>
      apply splitBraces_of_notMem
      simp only [Bindings.text, List.mem_append, List.mem_cons, not_or]
      exact ⟨htext, by decide, notMem_gap gap (by decide), by decide,
        notMem_gap space.toGap (by decide), name.notMem (by decide)⟩

theorem getLast_wildcard (front : List Char) (gap : Gap) (space : Space) (name : Identifier) :
    ∀ c ∈ (front ++ (Bindings.wildcard gap space name).text).getLast?, (c == ',') = false := by
  intro c hc
  have hend : front ++ (Bindings.wildcard gap space name).text =
      (front ++ '*' :: (gap.text ++ ("as".toList ++ space.text))) ++ name.text := by
    simp [Bindings.text]
  rw [hend, List.getLast?_append_of_ne_nil _ name.ne_nil] at hc
  apply beq_eq_false_iff_ne.mpr
  rintro rfl
  exact name.notMem (by decide) (List.mem_of_mem_getLast? hc)

theorem Clause.clauseKinds_text (clause : Clause) (typeOnly : Bool) :
    clauseKinds clause.text typeOnly =
      (if typeOnly || clause.allItems Item.looksTyped then .type else .value) ::
        clause.waysRead := by
  have hcomma : ∀ name : Identifier, ',' ∉ name.text := fun name => name.notMem (by decide)
  have hbrace : ∀ name : Identifier, '\x7b' ∉ name.text := fun name => name.notMem (by decide)
  have hstar : ∀ name : Identifier, (name.text.head? == some '*') = false := by
    intro name
    simpa using name.head?_ne_star []
  rw [clauseKinds, clause.solid.trim_eq]
  cases clause with
  | default name =>
      simp [text, splitBraces_of_notMem (hbrace name), trim_head name.solid (hcomma name), hstar,
        name.ne_nil, allItems, waysRead, ways]
  | bindings bound =>
      have hsplit := bound.splitBraces_append List.not_mem_nil
      rw [List.nil_append] at hsplit
      cases bound with
      | braces pieces =>
          have hhead : Text.trim (Text.trimEnd (· == ',') (Text.trim [])) = [] := rfl
          have htypes : ((items pieces).map Item.text).all ("type ".toList.isPrefixOf ·) =
              (items pieces).all Item.looksTyped := by
            rw [List.all_map]
            exact congrArg (items pieces).all (funext Item.isPrefixOf_text)
          simp only [text, hsplit, hhead, Option.getD_some, items_inside, htypes]
          simp [allItems, waysRead, ways, Bindings.way]
      | wildcard gap space name =>
          have hhead := trim_head_of_last (Bindings.wildcard gap space name).solid
            (getLast_wildcard [] gap space name)
          simp only [text, hsplit, hhead]
          simp [Bindings.text, allItems, waysRead, ways, Bindings.way]
  | both name before behind bound =>
      have htext : (both name before behind bound).text =
          (name.text ++ (before.text ++ ',' :: behind.text)) ++ bound.text := by
        simp [text]
      have hopen : '\x7b' ∉ name.text ++ (before.text ++ ',' :: behind.text) := by
        simp only [List.mem_append, List.mem_cons, not_or]
        exact ⟨hbrace name, notMem_gap before (by decide), by decide,
          notMem_gap behind (by decide)⟩
      have hsplit := bound.splitBraces_append hopen
      cases bound with
      | braces pieces =>
          have hhead := trim_head_comma name.solid (hcomma name) before.isBlank behind.isBlank
          simp only [htext, hsplit, hhead]
          simp [hstar, name.ne_nil, allItems, waysRead, ways, Bindings.way]
      | wildcard gap space other =>
          have hhead := trim_head_of_last (htext ▸ (both name before behind _).solid)
            (getLast_wildcard _ gap space other)
          have hstar := name.head?_ne_star
            (before.text ++ ',' :: behind.text ++ (Bindings.wildcard gap space other).text)
          rw [← List.append_assoc] at hstar
          simp only [htext, hsplit, hhead, hstar]
          simp [name.ne_nil, allItems, waysRead]

end FreeForm

end ImportRules.Source
