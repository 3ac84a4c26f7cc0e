import ImportRules.Proofs.Json.Rows
import ImportRules.Proofs.Source.Comments
import ImportRules.Source.Aliases
/-!
# Comments and superfluous commas in settings files

A settings file may have comments wherever JSON has blanks, and a comma before a closing bracket.
Cleaning such a text gives a row of the same tokens, and leaves a text alone that is JSON already.
So the settings are the same with and without them.
-/

namespace ImportRules.Source

open Json (Blanks Spells Token Row)

variable {text rest filling spelling blanks : List Char} {token : Token} {c : Char}

/-- Blanks and comments, as they may stand between two tokens. -/
inductive Filling : List Char → Prop
  | nil : Filling []
  | space {c : Char} {rest : List Char} (hc : Json.isSpace c = true) (hrest : Filling rest) :
      Filling (c :: rest)
  | lineComment {body rest : List Char} (hbody : '\n' ∉ body) (hrest : Filling rest) :
      Filling ('/' :: '/' :: (body ++ '\n' :: rest))
  | blockComment {body rest : List Char} (hbody : ¬ ['*', '/'] <:+: body) (hrest : Filling rest) :
      Filling ('/' :: '*' :: (body ++ '*' :: '/' :: rest))

/-- Blanks and comments at the end of a text, where the line of a comment need not end. -/
inductive LastFilling : List Char → Prop
  | filling {filling : List Char} (hfilling : Filling filling) : LastFilling filling
  | lineComment {filling body : List Char} (hfilling : Filling filling) (hbody : '\n' ∉ body) :
      LastFilling (filling ++ '/' :: '/' :: body)

/-- The second text has the tokens of the first one in the same spelling, but any blanks and
comments between them, and it may have one more comma before a closing bracket. -/
inductive Relaxed : List Char → List Char → Prop
  | finish {blanks filling : List Char} (hblanks : Blanks blanks) (hfilling : LastFilling filling) :
      Relaxed blanks filling
  | token {blanks filling spelling rest rest' : List Char} {token : Token} (hblanks : Blanks blanks)
      (hfilling : Filling filling)
      (hnext : Json.nextToken? (spelling ++ rest) = some (token, rest))
      (hrest : Relaxed rest rest') :
      Relaxed (blanks ++ (spelling ++ rest)) (filling ++ (spelling ++ rest'))
  | comma {blanks filling filling' rest rest' : List Char} {c : Char} (hblanks : Blanks blanks)
      (hfilling : Filling filling) (hfilling' : Filling filling') (hc : c = ']' ∨ c = '\x7d')
      (hrest : Relaxed rest rest') :
      Relaxed (blanks ++ c :: rest) (filling ++ ',' :: (filling' ++ c :: rest'))

/-! ## Characters that stay -/

/-- Characters that mean nothing to the cleaning. -/
def IsPlain (c : Char) : Prop :=
  c ≠ '/' ∧ c ≠ ',' ∧ isQuote c = false

theorem IsPlain.isCode {plain : List Char} (hplain : ∀ c ∈ plain, IsPlain c) :
    ∀ c ∈ plain, c ≠ '/' ∧ isQuote c = false :=
  fun c hc => ⟨(hplain c hc).1, (hplain c hc).2.2⟩

theorem isPlain_of_isSpace (hc : Json.isSpace c = true) : IsPlain c := by
  simp only [Json.isSpace, Bool.or_eq_true, beq_iff_eq] at hc
  rcases hc with ((rfl | rfl) | rfl) | rfl <;> simp [IsPlain, isQuote]

theorem dropTrailingCommas_plain {plain : List Char} (hplain : ∀ c ∈ plain, IsPlain c)
    (rest : List Char) :
    dropTrailingCommas false (plain ++ rest) = plain ++ dropTrailingCommas false rest := by
  induction plain with
  | nil => rfl
  | cons c plain ih =>
      obtain ⟨⟨-, hcomma, hquote⟩, hplain⟩ := List.forall_mem_cons.mp hplain
      have hdouble : (c == '"') = false := by
        simp only [isQuote, Bool.or_eq_false_iff] at hquote
        exact hquote.1.1
      rw [List.cons_append, dropTrailingCommas, if_neg (by simp [hcomma]), hdouble, ih hplain,
        List.cons_append]

/-! ## Strings -/

theorem blankFrom_inside {inner : List Char} (hinner : Json.Inside inner) (rest : List Char) :
    blankFrom (.literal '"') (inner ++ '"' :: rest) = inner ++ '"' :: blankFrom .code rest := by
  induction hinner with
  | nil => simp [blankFrom, behindLiteralChar]
  | escaped c _ ih => simp [blankFrom, ih]
  | @plain c text hc _ ih =>
      simp only [Json.isUnescaped, Bool.and_eq_true, bne_iff_ne, decide_eq_true_eq] at hc
      obtain ⟨⟨hquote, hslash⟩, hcontrol⟩ := hc
      have hnewline : c ≠ '\n' := by rintro rfl; revert hcontrol; decide
      rw [List.cons_append, blankFrom, if_neg hslash]
      · simp [behindLiteralChar, hquote, hnewline, ih]
      · simp [hslash]

theorem dropTrailingCommas_inside {inner : List Char} (hinner : Json.Inside inner)
    (rest : List Char) :
    dropTrailingCommas true (inner ++ '"' :: rest) =
      inner ++ '"' :: dropTrailingCommas false rest := by
  induction hinner with
  | nil => simp [dropTrailingCommas]
  | escaped c _ ih => simp [dropTrailingCommas, ih]
  | @plain c text hc _ ih =>
      simp only [Json.isUnescaped, Bool.and_eq_true, bne_iff_ne] at hc
      have hopen : (c != '"') = true := bne_iff_ne.mpr hc.1.1
      rw [List.cons_append, dropTrailingCommas, hopen, ih, List.cons_append]
      simp [hc.1.2]

/-! ## Tokens -/

theorem isPlain_of_isDigit (hc : c.isDigit = true) : IsPlain c := by
  refine ⟨?_, ?_, ?_⟩
  · rintro rfl
    exact absurd hc (by decide)
  · rintro rfl
    exact absurd hc (by decide)
  · by_contra hquote
    simp only [isQuote, Bool.not_eq_false, Bool.or_eq_true, beq_iff_eq] at hquote
    rcases hquote with (rfl | rfl) | rfl <;> exact absurd hc (by decide)

theorem isPlain_of_isUnsigned {literal : List Char} (hliteral : Json.IsUnsigned literal) :
    ∀ c ∈ literal, IsPlain c := by
  obtain ⟨whole, fraction, exponent, hwhole, hfraction, hexponent, rfl⟩ := hliteral
  have hdigits : ∀ digits, Json.IsDigits digits → ∀ c ∈ digits, IsPlain c :=
    fun digits hdigits c hc => isPlain_of_isDigit (hdigits.2 c hc)
  have hmark : ∀ c ∈ ['.', 'e', 'E', '+', '-'], IsPlain c := by simp [IsPlain, isQuote]
  intro c hc
  simp only [List.mem_append] at hc
  rcases hc with (hc | hc) | hc
  · rcases hwhole with rfl | ⟨hwhole, -⟩
    · exact isPlain_of_isDigit (by simp_all)
    · exact hdigits _ hwhole c hc
  · rcases hfraction with rfl | ⟨digits, hfraction, rfl⟩
    · cases hc
    · rcases List.mem_cons.mp hc with rfl | hc
      · exact hmark _ (by simp)
      · exact hdigits _ hfraction c hc
  · rcases hexponent with rfl | ⟨letter, sign, digits, hletter, hsign, hexponent, rfl⟩
    · cases hc
    · rcases List.mem_cons.mp hc with rfl | hc
      · exact hmark _ (by grind)
      · rcases List.mem_append.mp hc with hc | hc
        · exact hmark _ (by grind)
        · exact hdigits _ hexponent c hc

theorem spelling_cases (hspells : Spells token spelling) :
    token = .comma ∧ spelling = [','] ∨
      (∃ inner, Json.Inside inner ∧ spelling = '"' :: (inner ++ ['"'])) ∨
        ∀ c ∈ spelling, IsPlain c := by
  cases hspells with
  | comma => exact .inl ⟨rfl, rfl⟩
  | string hparts => exact .inr (.inl ⟨_, .of_stringParts? hparts, rfl⟩)
  | number hliteral =>
      refine .inr (.inr ?_)
      rcases hliteral with hunsigned | ⟨unsigned, hunsigned, rfl⟩
      · exact isPlain_of_isUnsigned hunsigned
      · refine List.forall_mem_cons.mpr ⟨by simp [IsPlain, isQuote], ?_⟩
        exact isPlain_of_isUnsigned hunsigned
  | _ => exact .inr (.inr (by simp [IsPlain, isQuote]))

theorem blankFrom_spelling (hspells : Spells token spelling) (rest : List Char) :
    blankFrom .code (spelling ++ rest) = spelling ++ blankFrom .code rest := by
  rcases spelling_cases hspells with ⟨-, rfl⟩ | ⟨inner, hinner, rfl⟩ | hplain
  · exact blankFrom_code_cons (by decide) rfl rest
  · have hinside := blankFrom_inside hinner rest
    simp only [List.cons_append, List.append_assoc, List.nil_append]
    rw [blankFrom, ← hinside]
    · rfl
    · simp
    · simp
  · exact blankFrom_code_append (IsPlain.isCode hplain) rest

theorem dropTrailingCommas_spelling (hspells : Spells token spelling) (htoken : token ≠ .comma)
    (rest : List Char) :
    dropTrailingCommas false (spelling ++ rest) = spelling ++ dropTrailingCommas false rest := by
  rcases spelling_cases hspells with ⟨rfl, -⟩ | ⟨inner, hinner, rfl⟩ | hplain
  · exact absurd rfl htoken
  · simp [dropTrailingCommas, dropTrailingCommas_inside hinner]
  · exact dropTrailingCommas_plain hplain rest

/-! ## Comments -/

theorem blanks_blankOut (c : Char) : Blanks (blankOut c) := by
  intro d hd
  rw [List.eq_of_mem_replicate hd]
  rfl

theorem blankFrom_lineComment {body : List Char} (hbody : '\n' ∉ body) (rest : List Char) :
    blankFrom .lineComment (body ++ rest) =
      body.flatMap blankOut ++ blankFrom .lineComment rest := by
  induction body with
  | nil => rfl
  | cons c body ih =>
      simp only [List.mem_cons, not_or] at hbody
      obtain ⟨hc, hbody⟩ := hbody
      rw [List.cons_append, blankFrom, if_neg (Ne.symm hc), ih hbody, List.flatMap_cons,
        List.append_assoc]

theorem blanks_flatMap_blankOut (body : List Char) : Blanks (body.flatMap blankOut) := by
  intro c hc
  obtain ⟨d, -, hc⟩ := List.mem_flatMap.mp hc
  exact blanks_blankOut d c hc

theorem exists_blankFrom_blockComment {body : List Char} (hbody : ¬ ['*', '/'] <:+: body) :
    ∃ blanks, Blanks blanks ∧ ∀ rest, blankFrom .blockComment (body ++ '*' :: '/' :: rest) =
      blanks ++ blankFrom .code rest := by
  induction body with
  | nil => exact ⟨[' ', ' '], by simp [Blanks, Json.isSpace], fun rest => by simp [blankFrom]⟩
  | cons c body ih =>
      obtain ⟨blanks, hblanks, hread⟩ := ih fun hinfix => hbody (List.infix_cons hinfix)
      have hc : Blanks (if c = '\n' then [c] else blankOut c) := by
        split_ifs with hc
        · simp [hc, Blanks, Json.isSpace]
        · exact blanks_blankOut c
      refine ⟨_, hc.append hblanks, fun rest => ?_⟩
      rw [List.cons_append, blankFrom, hread, List.append_assoc]
      -- the comment does not end here, since its end does not occur in its body
      rintro behind rfl heq
      cases body with
      | nil => simp at heq
      | cons d body =>
          obtain ⟨rfl, -⟩ := List.cons.inj heq
          exact hbody ⟨[], body, rfl⟩

theorem exists_blankFrom_filling (hfilling : Filling filling) :
    ∃ blanks, Blanks blanks ∧
      ∀ rest, blankFrom .code (filling ++ rest) = blanks ++ blankFrom .code rest := by
  have hmark : Blanks [' ', ' '] := by simp [Blanks, Json.isSpace]
  induction hfilling with
  | nil => exact ⟨[], by simp [Blanks], fun rest => rfl⟩
  | @space c more hc _ ih =>
      obtain ⟨blanks, hblanks, hread⟩ := ih
      refine ⟨c :: blanks, List.forall_mem_cons.mpr ⟨hc, hblanks⟩, fun rest => ?_⟩
      obtain ⟨hslash, -, hquote⟩ := isPlain_of_isSpace hc
      rw [List.cons_append, blankFrom_code_cons hslash hquote, hread, List.cons_append]
  | @lineComment body more hbody _ ih =>
      obtain ⟨blanks, hblanks, hread⟩ := ih
      have hline : Blanks ('\n' :: blanks) := List.forall_mem_cons.mpr ⟨rfl, hblanks⟩
      refine ⟨_, hmark.append ((blanks_flatMap_blankOut body).append hline), fun rest => ?_⟩
      simp [blankFrom, blankFrom_lineComment hbody, hread]
  | blockComment hbody _ ih =>
      obtain ⟨blanks, hblanks, hread⟩ := ih
      obtain ⟨inside, hinside, hcomment⟩ := exists_blankFrom_blockComment hbody
      refine ⟨_, hmark.append (hinside.append hblanks), fun rest => ?_⟩
      simp [blankFrom, hcomment, hread]

theorem blanks_blankFrom_lastFilling (hfilling : LastFilling filling) :
    Blanks (blankFrom .code filling) := by
  cases hfilling with
  | filling hfilling =>
      obtain ⟨blanks, hblanks, hread⟩ := exists_blankFrom_filling hfilling
      have hend := hread []
      rw [List.append_nil, blankFrom, List.append_nil] at hend
      rwa [hend]
  | @lineComment filling body hfilling hbody =>
      obtain ⟨blanks, hblanks, hread⟩ := exists_blankFrom_filling hfilling
      have hbody := blankFrom_lineComment hbody []
      rw [List.append_nil, blankFrom, List.append_nil] at hbody
      have hmark : Blanks [' ', ' '] := by simp [Blanks, Json.isSpace]
      have hcomment := hblanks.append (hmark.append (blanks_flatMap_blankOut body))
      simpa [hread, blankFrom, hbody] using hcomment

/-! ## The cleaned text -/

/-- A closing bracket comes next, but for blanks and comments. -/
def ClosesAhead (text : List Char) : Prop :=
  (Text.trimBlankStart (blankFrom .code text)).head? = some '\x7d' ∨
    (Text.trimBlankStart (blankFrom .code text)).head? = some ']'

theorem trimBlankStart_blanks (hblanks : Blanks blanks) (text : List Char) :
    Text.trimBlankStart (blanks ++ text) = Text.trimBlankStart text :=
  List.dropWhile_append_of_pos fun c hc => Json.isBlank_of_isSpace (hblanks c hc)

theorem closesAhead_filling (hfilling : Filling filling) (rest : List Char) :
    ClosesAhead (filling ++ rest) ↔ ClosesAhead rest := by
  obtain ⟨blanks, hblanks, hread⟩ := exists_blankFrom_filling hfilling
  rw [ClosesAhead, hread, trimBlankStart_blanks hblanks, ClosesAhead]

theorem not_closesAhead_lastFilling (hfilling : LastFilling filling) : ¬ ClosesAhead filling := by
  have htrim := trimBlankStart_blanks (blanks_blankFrom_lastFilling hfilling) []
  rw [List.append_nil] at htrim
  rw [ClosesAhead, htrim]
  simp [Text.trimBlankStart]

theorem closesAhead_spelling (hspells : Spells token spelling) (rest : List Char) :
    ClosesAhead (spelling ++ rest) ↔ token.closes = true := by
  rw [ClosesAhead, blankFrom_spelling hspells]
  obtain ⟨c, more, rfl, hblank, harray, hobject⟩ := hspells.exists_cons
  have hhead : (Text.trimBlankStart (c :: more ++ blankFrom .code rest)).head? = some c := by
    simp [Text.trimBlankStart, hblank]
  rw [hhead]
  constructor
  · rintro (hc | hc)
    · rw [hobject (Option.some.inj hc)]
      rfl
    · rw [harray (Option.some.inj hc)]
      rfl
  · intro hcloses
    cases hspells <;> simp_all [Token.closes]

theorem plainJson_blanks (hblanks : Blanks blanks) (rest : List Char) :
    plainJson (blanks ++ rest) = blanks ++ plainJson rest := by
  have hplain : ∀ c ∈ blanks, IsPlain c := fun c hc => isPlain_of_isSpace (hblanks c hc)
  rw [plainJson, blankComments, blankFrom_code_append (IsPlain.isCode hplain),
    dropTrailingCommas_plain hplain]
  rfl

theorem exists_plainJson_filling (hfilling : Filling filling) :
    ∃ blanks, Blanks blanks ∧ ∀ rest, plainJson (filling ++ rest) = blanks ++ plainJson rest := by
  obtain ⟨blanks, hblanks, hread⟩ := exists_blankFrom_filling hfilling
  refine ⟨blanks, hblanks, fun rest => ?_⟩
  rw [plainJson, blankComments, hread,
    dropTrailingCommas_plain fun c hc => isPlain_of_isSpace (hblanks c hc)]
  rfl

theorem blanks_plainJson_lastFilling (hfilling : LastFilling filling) :
    Blanks (plainJson filling) := by
  have hblanks := blanks_blankFrom_lastFilling hfilling
  have hdrop := dropTrailingCommas_plain (fun c hc => isPlain_of_isSpace (hblanks c hc)) []
  rw [List.append_nil, dropTrailingCommas, List.append_nil] at hdrop
  rwa [plainJson, blankComments, hdrop]

theorem plainJson_spelling (hspells : Spells token spelling) (htoken : token ≠ .comma)
    (rest : List Char) : plainJson (spelling ++ rest) = spelling ++ plainJson rest := by
  rw [plainJson, blankComments, blankFrom_spelling hspells,
    dropTrailingCommas_spelling hspells htoken]
  rfl

theorem plainJson_comma_of_closesAhead (hcloses : ClosesAhead rest) :
    plainJson (',' :: rest) = plainJson rest := by
  rw [plainJson, blankComments, blankFrom_code_cons (by decide) rfl, dropTrailingCommas,
    if_pos ⟨rfl, hcloses⟩]
  rfl

theorem plainJson_comma (hcloses : ¬ ClosesAhead rest) :
    plainJson (',' :: rest) = ',' :: plainJson rest := by
  rw [plainJson, blankComments, blankFrom_code_cons (by decide) rfl, dropTrailingCommas,
    if_neg fun h => hcloses h.2]
  rfl

/-! ## Rows of tokens -/

theorem Filling.of_blanks (hblanks : Blanks blanks) : Filling blanks := by
  induction blanks with
  | nil => exact .nil
  | cons c blanks ih =>
      obtain ⟨hc, hblanks⟩ := List.forall_mem_cons.mp hblanks
      exact .space hc (ih hblanks)

theorem closes_of_closesAhead_row {tokens : List Token} (hrow : Row tokens text)
    (hcloses : ClosesAhead text) : ∃ token ∈ tokens.head?, token.closes = true := by
  cases hrow with
  | last hblanks =>
      exact absurd hcloses (not_closesAhead_lastFilling (.filling (.of_blanks hblanks)))
  | next hblanks hspells =>
      rw [closesAhead_filling (.of_blanks hblanks), closesAhead_spelling hspells] at hcloses
      exact ⟨_, rfl, hcloses⟩

/-- A text that is JSON already is left alone. -/
theorem plainJson_of_row {tokens : List Token} (hrow : Row tokens text)
    (hchain : tokens.IsChain Token.Follows) : plainJson text = text := by
  induction hrow with
  | last hblanks =>
      have hread := plainJson_blanks hblanks []
      rw [List.append_nil] at hread
      rw [hread]
      exact List.append_nil _
  | @next token tokens blanks spelling rest hblanks hspells _ hrow ih =>
      obtain ⟨hnext, htail⟩ := List.isChain_cons.mp hchain
      rw [plainJson_blanks hblanks]
      by_cases htoken : token = .comma
      · subst htoken
        cases hspells
        have hopen : ¬ ClosesAhead rest := by
          intro hcloses
          obtain ⟨other, hother, hcloses⟩ := closes_of_closesAhead_row hrow hcloses
          rw [(hnext other hother).behind_comma rfl] at hcloses
          cases hcloses
        rw [List.singleton_append, plainJson_comma hopen, ih htail]
      · rw [plainJson_spelling hspells htoken, ih htail]

namespace Relaxed

variable {relaxed : List Char} {tokens : List Token}

theorem spells_of_nextToken? (hnext : Json.nextToken? (spelling ++ rest) = some (token, rest)) :
    Spells token spelling := by
  obtain ⟨other, hspells, heq⟩ := Json.nextToken?_eq_some hnext
  rwa [List.append_cancel_right heq]

theorem tokens?_cons (hblanks : Blanks blanks)
    (hnext : Json.nextToken? (spelling ++ rest) = some (token, rest))
    (hread : Json.tokens? (blanks ++ (spelling ++ rest)) = some tokens) :
    ∃ more, Json.tokens? rest = some more ∧ tokens = token :: more := by
  rw [Json.tokens?_append_of_blanks hblanks, Json.tokens?_of_nextToken? hnext] at hread
  obtain ⟨more, hmore, heq⟩ := Option.map_eq_some_iff.mp hread
  exact ⟨more, hmore, heq.symm⟩

/-- The token of a closing bracket. -/
theorem exists_closing (hc : c = ']' ∨ c = '\x7d') (rest : List Char) :
    ∃ token, Json.nextToken? ([c] ++ rest) = some (token, rest) ∧ token.closes = true := by
  rcases hc with rfl | rfl
  · exact ⟨.closeArray, rfl, rfl⟩
  · exact ⟨.closeObject, rfl, rfl⟩

theorem closes_of_closesAhead (hrelaxed : Relaxed text relaxed) (hcloses : ClosesAhead relaxed)
    (hread : Json.tokens? text = some tokens) : ∃ token ∈ tokens.head?, token.closes = true := by
  cases hrelaxed with
  | finish _ hfilling => exact absurd hcloses (not_closesAhead_lastFilling hfilling)
  | token hblanks hfilling hnext _ =>
      obtain ⟨more, -, rfl⟩ := tokens?_cons hblanks hnext hread
      rw [closesAhead_filling hfilling,
        closesAhead_spelling (spells_of_nextToken? hnext)] at hcloses
      exact ⟨_, rfl, hcloses⟩
  | comma _ hfilling _ _ _ =>
      rw [closesAhead_filling hfilling, ← List.singleton_append,
        closesAhead_spelling .comma] at hcloses
      cases hcloses

/-- The cleaned text is a row of the tokens of the text that was relaxed. -/
theorem row_plainJson (hrelaxed : Relaxed text relaxed) (hread : Json.tokens? text = some tokens)
    (hchain : tokens.IsChain Token.Follows) : Row tokens (plainJson relaxed) := by
  induction hrelaxed generalizing tokens with
  | finish hblanks hfilling =>
      rw [Json.tokens?_of_blanks hblanks] at hread
      cases hread
      exact .last (blanks_plainJson_lastFilling hfilling)
  | @token blanks filling spelling rest rest' token hblanks hfilling hnext hrest ih =>
      obtain ⟨more, hmore, rfl⟩ := tokens?_cons hblanks hnext hread
      obtain ⟨hfollows, htail⟩ := List.isChain_cons.mp hchain
      obtain ⟨blanks', hblanks', hplain⟩ := exists_plainJson_filling hfilling
      have hspells := spells_of_nextToken? hnext
      have hrow := ih hmore htail
      have hspelling : plainJson (spelling ++ rest') = spelling ++ plainJson rest' := by
        by_cases htoken : token = .comma
        · subst htoken
          cases hspells
          refine plainJson_comma fun hcloses => ?_
          obtain ⟨other, hother, hcloses⟩ := hrest.closes_of_closesAhead hcloses hmore
          rw [(hfollows other hother).behind_comma rfl] at hcloses
          cases hcloses
        · exact plainJson_spelling hspells htoken rest'
      rw [hplain, hspelling]
      refine .next hblanks' hspells (fun hnumber => ?_) hrow
      exact hrow.endsNumber fun other hother => (hfollows other hother).behind_number hnumber
  | @comma blanks filling filling' rest rest' c hblanks hfilling hfilling' hc hrest ih =>
      obtain ⟨token, hnext, hcloses⟩ := exists_closing hc rest
      obtain ⟨more, hmore, rfl⟩ := tokens?_cons hblanks hnext hread
      obtain ⟨-, htail⟩ := List.isChain_cons.mp hchain
      obtain ⟨blanks', hblanks', hplain⟩ := exists_plainJson_filling hfilling
      obtain ⟨blanks'', hblanks'', hplain'⟩ := exists_plainJson_filling hfilling'
      have hspells := spells_of_nextToken? hnext
      have hahead : ClosesAhead (filling' ++ c :: rest') := by
        rw [closesAhead_filling hfilling']
        exact (closesAhead_spelling hspells rest').mpr hcloses
      have hbracket : plainJson (c :: rest') = [c] ++ plainJson rest' :=
        plainJson_spelling hspells (by rintro rfl; cases hcloses) rest'
      rw [hplain, plainJson_comma_of_closesAhead hahead, hplain', hbracket, ← List.append_assoc]
      refine .next (hblanks'.append hblanks'') hspells (fun hnumber => ?_) (ih hmore htail)
      cases token <;> simp_all [Token.closes, Token.isNumber]

end Relaxed

/-- Comments and a comma before a closing bracket do not change the settings in a text that is JSON,
and JSON is left alone by the cleaning. -/
theorem AliasTable.ofText?_relaxed {text : List Char} (hjson : (Json.ofText? text).isSome) :
    plainJson text = text ∧ ∀ relaxed, Relaxed text relaxed →
      AliasTable.ofText? (String.ofList relaxed) = AliasTable.ofText? (String.ofList text) := by
  obtain ⟨value, hvalue⟩ := Option.isSome_iff_exists.mp hjson
  obtain ⟨tokens, htokens, hchain⟩ := Json.isChain_of_ofText? hvalue
  have hplain : plainJson text = text :=
    plainJson_of_row (Json.row_of_tokens? htokens hchain) hchain
  refine ⟨hplain, fun relaxed hrelaxed => ?_⟩
  have hread := (hrelaxed.row_plainJson htokens hchain).tokens?
  simp only [AliasTable.ofText?, Settings.ofText?, String.toList_ofList, Json.ofText?, hplain,
    htokens, hread]

theorem AliasTable.ofText?_relaxed_commented :
    (Json.ofText? "\x7b\"compilerOptions\":\x7b\"baseUrl\":\"a//,]\"\x7d\x7d".toList).isSome ∧
      Relaxed "\x7b\"compilerOptions\":\x7b\"baseUrl\":\"a//,]\"\x7d\x7d".toList
        "\x7b\"compilerOptions\":/*\",]*/\x7b\"baseUrl\":\"a//,]\",\x7d,//,\n\x7d".toList ∧
      AliasTable.ofText?
          "\x7b\"compilerOptions\":/*\",]*/\x7b\"baseUrl\":\"a//,]\",\x7d,//,\n\x7d" =
        AliasTable.ofText? "\x7b\"compilerOptions\":\x7b\"baseUrl\":\"a//,]\"\x7d\x7d" ∧
      AliasTable.ofText? "\x7b\"compilerOptions\":\x7b\"baseUrl\":\"a//,]\"\x7d\x7d" =
        some ⟨some "a/,]", []⟩ := by
  have hjson : (Json.ofText?
      "\x7b\"compilerOptions\":\x7b\"baseUrl\":\"a//,]\"\x7d\x7d".toList).isSome := by
    decide +kernel
  have hnone : Blanks [] := by simp [Blanks]
  have hline : Filling "//,\n".toList := @Filling.lineComment [','] [] (by decide) .nil
  have hblock : Filling "/*\",]*/".toList :=
    @Filling.blockComment ['"', ',', ']'] [] (by decide) .nil
  have hclosing : Relaxed "\x7d\x7d".toList ",\x7d,//,\n\x7d".toList :=
    .comma hnone .nil .nil (.inr rfl)
      (@Relaxed.comma [] [] "//,\n".toList [] [] _ hnone .nil hline (.inr rfl)
        (.finish hnone (.filling .nil)))
  have hrelaxed : Relaxed "\x7b\"compilerOptions\":\x7b\"baseUrl\":\"a//,]\"\x7d\x7d".toList
      "\x7b\"compilerOptions\":/*\",]*/\x7b\"baseUrl\":\"a//,]\",\x7d,//,\n\x7d".toList :=
    @Relaxed.token [] [] "\x7b".toList _ _ _ hnone .nil rfl <|
    @Relaxed.token [] [] "\"compilerOptions\"".toList _ _ _ hnone .nil rfl <|
    @Relaxed.token [] [] ":".toList _ _ _ hnone .nil rfl <|
    @Relaxed.token [] _ "\x7b".toList _ _ _ hnone hblock rfl <|
    @Relaxed.token [] [] "\"baseUrl\"".toList _ _ _ hnone .nil rfl <|
    @Relaxed.token [] [] ":".toList _ _ _ hnone .nil rfl <|
    @Relaxed.token [] [] "\"a//,]\"".toList _ _ _ hnone .nil rfl hclosing
  exact ⟨hjson, hrelaxed, (AliasTable.ofText?_relaxed hjson).2 _ hrelaxed, by decide +kernel⟩

end ImportRules.Source
