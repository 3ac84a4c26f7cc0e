import ImportRules.Proofs.SliceSize
/-!
# The grammar of slice globs

A slice glob is cut into lexemes from left to right: each is the first of `(**)`, `(*)` and `**`
that the rest starts with, or else one character. Which globs are accepted, and what is wrong with
the others, depends on the lexemes alone. A parenthesis that is a lexeme of its own is stray, and
the first stray one is named; without any there must be exactly one capture. What is left to be
refused are globs of more than ten thousand characters that take too much memory.
-/

namespace ImportRules

namespace SliceGlob

/-! ## Lexemes -/

/-- The lexemes of more than one character, in the order in which they are tried. -/
def signs : List (List Char) :=
  ["(**)".toList, "(*)".toList, "**".toList]

/-- The first lexeme of a glob. -/
def lexeme (glob : List Char) : List Char :=
  (signs.find? (·.isPrefixOf glob)).getD (glob.take 1)

/-- The lexemes of a glob, from left to right. -/
def lexemes : List Char → List (List Char)
  | [] => []
  | c :: rest => lexeme (c :: rest) :: lexemes (rest.drop ((lexeme (c :: rest)).length - 1))
termination_by glob => glob.length

/-- A parenthesis that belongs to no capture. -/
def isStray (lexeme : List Char) : Bool :=
  lexeme == ['('] || lexeme == [')']

def isCaptureLexeme (lexeme : List Char) : Bool :=
  lexeme == "(**)".toList || lexeme == "(*)".toList

/-- The part that a lexeme stands for. A character that is no sign stands for itself. -/
def Token.ofLexeme : List Char → Token
  | ['(', '*', '*', ')'] => .capturePath
  | ['(', '*', ')'] => .captureSegment
  | ['*', '*'] => .anyText
  | ['*'] => .anyRun
  | ['?'] => .anyChar
  | lexeme => .char (lexeme.headD ' ')

theorem Token.ofLexeme_char {c : Char} (hstar : c ≠ '*') (hmark : c ≠ '?') :
    Token.ofLexeme [c] = .char c := by
  rw [Token.ofLexeme] <;> simp [hstar, hmark]

theorem Token.isCapture_ofLexeme (lexeme : List Char) :
    (Token.ofLexeme lexeme).isCapture = isCaptureLexeme lexeme := by
  fun_cases Token.ofLexeme lexeme with
  | case6 lexeme hpath hsegment =>
      have hneither : isCaptureLexeme lexeme = false := by
        simpa [isCaptureLexeme] using ⟨hpath, hsegment⟩
      exact hneither.symm
  | _ => rfl

theorem captures_map_ofLexeme (lexemes : List (List Char)) :
    captures (lexemes.map Token.ofLexeme) = lexemes.countP isCaptureLexeme := by
  rw [captures, List.countP_map]
  exact List.countP_congr fun lexeme _ => by simp [Token.isCapture_ofLexeme]

/-! ## Cutting a glob -/

theorem lexemes_cons_of_lexeme {glob first rest : List Char} (hglob : glob = first ++ rest)
    (hne : first ≠ []) (hfirst : lexeme glob = first) :
    lexemes glob = first :: lexemes rest := by
  obtain ⟨c, more, rfl⟩ := List.exists_cons_of_ne_nil hne
  rw [hglob, List.cons_append] at hfirst ⊢
  rw [lexemes, hfirst, List.length_cons, Nat.add_sub_cancel, List.drop_left]

/-- A glob that starts with no sign is cut behind its first character. -/
theorem lexemes_char {c : Char} {rest : List Char}
    (hpath : ∀ more, c = '(' → rest = '*' :: '*' :: ')' :: more → False)
    (hsegment : ∀ more, c = '(' → rest = '*' :: ')' :: more → False)
    (htext : ∀ more, c = '*' → rest = '*' :: more → False) :
    lexemes (c :: rest) = [c] :: lexemes rest := by
  have hsigns : ∀ sign ∈ signs, ¬sign <+: c :: rest := by
    simp only [signs, List.forall_mem_cons]
    refine ⟨?_, ?_, ?_, by simp⟩ <;> rintro ⟨more, heq⟩ <;> cases heq
    · exact hpath more rfl rfl
    · exact hsegment more rfl rfl
    · exact htext more rfl rfl
  have hnone : signs.find? (·.isPrefixOf (c :: rest)) = none := by
    simpa using hsigns
  have hlexeme : lexeme (c :: rest) = [c] := by
    rw [lexeme, hnone]
    rfl
  exact lexemes_cons_of_lexeme rfl (List.cons_ne_nil _ _) hlexeme

/-- Either no lexeme of the glob is stray and its parts are what they stand for, or the reader stops
at the first one that is. -/
def ReadByLexemes (glob : List Char) : Prop :=
  tokens glob = .ok ((lexemes glob).map Token.ofLexeme) ∧ (lexemes glob).find? isStray = none ∨
    ∃ paren, tokens glob = .error paren ∧ (lexemes glob).find? isStray = some [paren]

theorem ReadByLexemes.cons {glob rest : List Char} (first : List Char)
    (hlexemes : lexemes glob = first :: lexemes rest) (hfirst : isStray first = false)
    (htokens : tokens glob = (tokens rest).map (Token.ofLexeme first :: ·))
    (hrest : ReadByLexemes rest) : ReadByLexemes glob := by
  have hfind : (lexemes glob).find? isStray = (lexemes rest).find? isStray := by
    rw [hlexemes, List.find?_cons_of_neg (by simp [hfirst])]
  rcases hrest with ⟨hparts, hnone⟩ | ⟨paren, herror, hstray⟩
  · left
    rw [hfind, htokens, hparts, hlexemes]
    exact ⟨rfl, hnone⟩
  · right
    rw [hfind, htokens, herror]
    exact ⟨paren, rfl, hstray⟩

theorem readByLexemes (glob : List Char) : ReadByLexemes glob := by
  -- Each case of the reader cuts off the lexeme that its pattern shows.
  fun_induction tokens glob with
  | case1 =>
      left
      rw [lexemes]
      exact ⟨rfl, rfl⟩
  | case2 rest ih =>
      refine .cons "(**)".toList ?_ rfl (by rw [tokens]; rfl) ih
      exact lexemes_cons_of_lexeme rfl (by decide) rfl
  | case3 rest ih =>
      refine .cons "(*)".toList ?_ rfl (by rw [tokens]; rfl) ih
      exact lexemes_cons_of_lexeme rfl (by decide) rfl
  | case4 rest ih =>
      refine .cons "**".toList ?_ rfl (by rw [tokens]; rfl) ih
      exact lexemes_cons_of_lexeme rfl (by decide) rfl
  | case5 rest hnext ih =>
      refine .cons ['*'] (lexemes_char ?_ ?_ ?_) rfl (by rw [tokens]; rfl; exact hnext) ih
      all_goals simp_all
  | case6 rest ih =>
      refine .cons ['?'] (lexemes_char ?_ ?_ ?_) rfl (by rw [tokens]; rfl) ih
      all_goals simp
  | case7 c rest hpath hsegment htext hstar hmark hparen =>
      refine .inr ⟨c, ?_, ?_⟩
      · rw [tokens, if_pos hparen]
        all_goals assumption
      · rw [lexemes_char hpath hsegment htext]
        rcases hparen with rfl | rfl <;> rfl
  | case8 c rest hpath hsegment htext hstar hmark hparen ih =>
      have hfirst : isStray [c] = false := by simpa [isStray] using hparen
      refine .cons [c] (lexemes_char hpath hsegment htext) hfirst ?_ ih
      rw [tokens, if_neg hparen, Token.ofLexeme_char hstar hmark]
      all_goals assumption

end SliceGlob

namespace SlicePattern

open SliceGlob

/-- What reading a glob comes to, by its lexemes. -/
theorem ofGlob_cases (text : String) :
    text = "" ∧ ofGlob text = .error .empty ∨
      text ≠ "" ∧ (∃ paren, (lexemes text.toList).find? isStray = some [paren] ∧
        ofGlob text =
          .error (.invalidGlob text s!"`{paren}` is only allowed in `(*)` or `(**)`")) ∨
      text ≠ "" ∧ (lexemes text.toList).find? isStray = none ∧
        ofGlob text =
          if (lexemes text.toList).countP isCaptureLexeme ≠ 1 then
            .error (.captureGroups text ((lexemes text.toList).countP isCaptureLexeme))
          else if (parsed ((lexemes text.toList).map Token.ofLexeme)).fitsMemory then
            .ok ⟨text, .glob (regex ((lexemes text.toList).map Token.ofLexeme))⟩
          else .error (.invalidGlob text tooLarge) := by
  rw [ofGlob]
  by_cases hempty : text = ""
  · exact .inl ⟨hempty, if_pos (String.isEmpty_iff.mpr hempty)⟩
  · rw [if_neg (mt String.isEmpty_iff.mp hempty)]
    right
    rcases readByLexemes text.toList with ⟨hparts, hnone⟩ | ⟨paren, herror, hstray⟩
    · refine .inr ⟨hempty, hnone, ?_⟩
      rw [hparts]
      simp only [captures_map_ofLexeme, ofText?_written]
      cases (parsed ((lexemes text.toList).map Token.ofLexeme)).fitsMemory <;> rfl
    · refine .inl ⟨hempty, paren, hstray, ?_⟩
      rw [herror]

/-- The lexemes of a glob decide what reading it comes to. Its parts can always be written as an
expression with as many groups as there are captures, and unless the glob is very long this is small
enough. -/
theorem ofGlob_grammar (text : String) :
    let stray := (lexemes text.toList).find? isStray
    let found := (lexemes text.toList).countP isCaptureLexeme
    let parts := (lexemes text.toList).map Token.ofLexeme
    let fits := (Expression.ofText? (written parts)).isSome
    (ofGlob text = .error .empty ↔ text = "") ∧
      (∀ raw reason, ofGlob text = .error (.invalidGlob raw reason) ↔
        raw = text ∧ ((∃ paren, stray = some [paren] ∧
            reason = s!"`{paren}` is only allowed in `(*)` or `(**)`") ∨
          stray = none ∧ found = 1 ∧ fits = false ∧ reason = tooLarge)) ∧
      (∀ raw count, ofGlob text = .error (.captureGroups raw count) ↔
        raw = text ∧ text ≠ "" ∧ stray = none ∧ count = found ∧ found ≠ 1) ∧
      (∀ pattern, ofGlob text = .ok pattern ↔
        stray = none ∧ found = 1 ∧ fits = true ∧ pattern = ⟨text, .glob (regex parts)⟩) ∧
      (stray = none → found = 1 → text.length ≤ 10000 → fits = true) ∧
      ∃ parsed : Expression,
        Expression.ofText? (written parts) = (if parsed.fitsMemory then some parsed else none) ∧
          parsed.groups = List.range' 1 found ∧
          (found ≤ 1 → parsed.Reads = (regex parts).Reads) := by
  intro stray found parts fits
  have hfound : captures parts = found := captures_map_ofLexeme _
  have hfits : fits = (parsed parts).fitsMemory := by
    simp only [fits, ofText?_written]
    cases (parsed parts).fitsMemory <;> rfl
  have hsmall : stray = none → found = 1 → text.length ≤ 10000 → fits = true := by
    intro hnone hone hlength
    rcases readByLexemes text.toList with ⟨hparts, -⟩ | ⟨paren, -, hstray⟩
    · exact isSome_ofText?_written hparts (hfound.trans hone) (String.length_toList ▸ hlength)
    · rw [show stray = some [paren] from hstray] at hnone
      cases hnone
  have hwritten : ∃ parsed : Expression,
      Expression.ofText? (written parts) = (if parsed.fitsMemory then some parsed else none) ∧
        parsed.groups = List.range' 1 found ∧
        (found ≤ 1 → parsed.Reads = (regex parts).Reads) := by
    rw [← hfound]
    exact ⟨parsed parts, ofText?_written parts, groups_parsed parts, reads_parsed⟩
  rcases ofGlob_cases text with
    ⟨rfl, hread⟩ | ⟨hempty, paren, hstray, hread⟩ | ⟨hempty, hnone, hread⟩
  · refine ⟨?_, ?_, ?_, ?_, hsmall, hwritten⟩ <;> simp [hread, stray, found, lexemes]
  · refine ⟨?_, fun raw reason => ?_, ?_, ?_, hsmall, hwritten⟩
    case refine_2 =>
      have hparen : stray = some [paren] := hstray
      simp [hread, hparen, eq_comm (a := text), eq_comm (b := reason)]
    all_goals simp [hread, hempty, stray, hstray]
  · by_cases hone : found = 1
    · rw [if_neg (not_ne_iff.mpr hone), ← hfits] at hread
      cases hsize : fits with
      | true =>
          rw [hsize, if_pos rfl] at hread
          refine ⟨?_, ?_, ?_, ?_, fun _ _ _ => rfl, hwritten⟩ <;>
            simp [hread, hempty, stray, hnone, hone, parts, eq_comm]
      | false =>
          rw [hsize, if_neg Bool.false_ne_true] at hread
          refine ⟨?_, ?_, ?_, ?_, hsize ▸ hsmall, hwritten⟩ <;>
            simp [hread, hempty, stray, hnone, hone, eq_comm]
    · rw [if_pos hone] at hread
      refine ⟨?_, ?_, ?_, ?_, hsmall, hwritten⟩ <;>
        simp [hread, hempty, stray, hnone, hone, found, eq_comm (a := text), eq_comm (b := found)]

/-- A glob with a capture between other parts. -/
theorem ofGlob_grammar_within_path :
    (lexemes "src/(**)/*.ts".toList).countP isCaptureLexeme = 1 ∧
      (∃ pattern, ofGlob "src/(**)/*.ts" = .ok pattern) ∧
      ∃ parsed : Expression, parsed.groups = [1] ∧
        parsed.Reads = (regex ((lexemes "src/(**)/*.ts".toList).map Token.ofLexeme)).Reads := by
  have hone : (lexemes "src/(**)/*.ts".toList).countP isCaptureLexeme = 1 := by cbv
  have hnone : (lexemes "src/(**)/*.ts".toList).find? isStray = none := by cbv
  obtain ⟨-, -, -, haccepts, hsmall, parsed, -, hgroups, hreads⟩ := ofGlob_grammar "src/(**)/*.ts"
  rw [hone] at hgroups
  have hpattern := (haccepts _).mpr ⟨hnone, hone, hsmall hnone hone (by decide), rfl⟩
  exact ⟨hone, ⟨_, hpattern⟩, parsed, hgroups, hreads hone.le⟩

end SlicePattern

end ImportRules
