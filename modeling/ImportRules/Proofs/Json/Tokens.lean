import ImportRules.Json.Token
import ImportRules.Text.Blank
import Mathlib.Data.List.TakeWhile
/-!
# How tokens are spelled

Every token has its spellings, and reading a token takes one of them off a text. Only a number could
be read on into what follows it; any other token ends by itself. The tokens of a text are read one
after the other, and the blanks between them do not matter.
-/

namespace ImportRules.Json

variable {text rest other : List Char} {c : Char}

/-- The text goes on with nothing that would make a number longer. -/
def EndsNumber (rest : List Char) : Prop :=
  ∀ c ∈ rest.head?, c.isDigit = false ∧ c ≠ '.' ∧ c ≠ 'e' ∧ c ≠ 'E'

/-! ## Numbers -/

def IsDigits (digits : List Char) : Prop :=
  digits ≠ [] ∧ ∀ c ∈ digits, c.isDigit = true

def IsWhole (whole : List Char) : Prop :=
  whole = ['0'] ∨ IsDigits whole ∧ whole.head? ≠ some '0'

def IsFraction (fraction : List Char) : Prop :=
  fraction = [] ∨ ∃ digits, IsDigits digits ∧ fraction = '.' :: digits

def IsExponent (exponent : List Char) : Prop :=
  exponent = [] ∨ ∃ c sign digits, (c = 'e' ∨ c = 'E') ∧ (sign = [] ∨ sign = ['+'] ∨ sign = ['-']) ∧
    IsDigits digits ∧ exponent = c :: (sign ++ digits)

/-- The spelling of a number without its sign. -/
def IsUnsigned (literal : List Char) : Prop :=
  ∃ whole fraction exponent, IsWhole whole ∧ IsFraction fraction ∧ IsExponent exponent ∧
    literal = whole ++ fraction ++ exponent

/-- The spelling of a number. -/
def IsNumber (literal : List Char) : Prop :=
  IsUnsigned literal ∨ ∃ unsigned, IsUnsigned unsigned ∧ literal = '-' :: unsigned

theorem IsDigits.exists_cons {digits : List Char} (hdigits : IsDigits digits) :
    ∃ c more, digits = c :: more ∧ c.isDigit = true := by
  obtain ⟨c, more, rfl⟩ := List.exists_cons_of_ne_nil hdigits.1
  exact ⟨c, more, rfl, hdigits.2 c List.mem_cons_self⟩

theorem digits?_eq_some {digits : List Char} (hread : digits? text = some (digits, rest)) :
    text = digits ++ rest ∧ IsDigits digits := by
  unfold digits? at hread
  split at hread
  next => cases hread
  next hne =>
    cases hread
    refine ⟨(List.takeWhile_append_dropWhile ..).symm, hne, ?_⟩
    intro c hc
    exact List.mem_takeWhile_imp hc

theorem digits?_append {digits : List Char} (hdigits : IsDigits digits)
    (hrest : ∀ c ∈ rest.head?, c.isDigit = false) :
    digits? (digits ++ rest) = some (digits, rest) := by
  have htake : (digits ++ rest).takeWhile Char.isDigit = digits := by
    rw [List.takeWhile_append_of_pos hdigits.2]
    cases rest with
    | nil => simp
    | cons c rest => simp [hrest c rfl]
  have hdrop : (digits ++ rest).dropWhile Char.isDigit = rest := by
    rw [List.dropWhile_append_of_pos hdigits.2]
    cases rest with
    | nil => rfl
    | cons c rest => simp [hrest c rfl]
  obtain ⟨c, more, rfl, -⟩ := hdigits.exists_cons
  simp only [digits?, htake, hdrop]

theorem wholePart?_eq_some {whole : List Char} (hread : wholePart? text = some (whole, rest)) :
    text = whole ++ rest ∧ IsWhole whole := by
  unfold wholePart? at hread
  split at hread
  next => cases hread; exact ⟨rfl, .inl rfl⟩
  next hzero =>
    obtain ⟨rfl, hdigits⟩ := digits?_eq_some hread
    refine ⟨rfl, .inr ⟨hdigits, ?_⟩⟩
    obtain ⟨c, more, rfl, -⟩ := hdigits.exists_cons
    intro hhead
    cases hhead
    exact hzero _ rfl

theorem wholePart?_append {whole : List Char} (hwhole : IsWhole whole)
    (hrest : ∀ c ∈ rest.head?, c.isDigit = false) :
    wholePart? (whole ++ rest) = some (whole, rest) := by
  rcases hwhole with rfl | ⟨hdigits, hhead⟩
  · rfl
  · rw [← digits?_append hdigits hrest]
    obtain ⟨c, more, rfl, -⟩ := hdigits.exists_cons
    unfold wholePart?
    split
    next heq => simp_all
    next => rfl

theorem fraction?_eq_some {fraction : List Char} (hread : fraction? text = some (fraction, rest)) :
    text = fraction ++ rest ∧ IsFraction fraction := by
  unfold fraction? at hread
  split at hread
  next =>
    obtain ⟨⟨digits, behind⟩, hbehind, heq⟩ := Option.map_eq_some_iff.mp hread
    cases heq
    obtain ⟨rfl, hdigits⟩ := digits?_eq_some hbehind
    exact ⟨rfl, .inr ⟨digits, hdigits, rfl⟩⟩
  next => cases hread; exact ⟨rfl, .inl rfl⟩

theorem fraction?_append {fraction : List Char} (hfraction : IsFraction fraction)
    (hrest : ∀ c ∈ rest.head?, c.isDigit = false ∧ c ≠ '.') :
    fraction? (fraction ++ rest) = some (fraction, rest) := by
  rcases hfraction with rfl | ⟨digits, hdigits, rfl⟩
  · unfold fraction?
    split
    next heq => exact absurd rfl (hrest '.' (by simpa using congrArg List.head? heq)).2
    next => rfl
  · simp [fraction?, digits?_append hdigits fun c hc => (hrest c hc).1]

theorem exponent?_eq_some {exponent : List Char} (hread : exponent? text = some (exponent, rest)) :
    text = exponent ++ rest ∧ IsExponent exponent := by
  unfold exponent? at hread
  split at hread
  next c tail =>
    split at hread
    next hc =>
      split at hread
      all_goals
        obtain ⟨⟨digits, behind⟩, hbehind, heq⟩ := Option.map_eq_some_iff.mp hread
        cases heq
        obtain ⟨rfl, hdigits⟩ := digits?_eq_some hbehind
      · exact ⟨rfl, .inr ⟨c, ['+'], digits, hc, by simp, hdigits, rfl⟩⟩
      · exact ⟨rfl, .inr ⟨c, ['-'], digits, hc, by simp, hdigits, rfl⟩⟩
      · exact ⟨rfl, .inr ⟨c, [], digits, hc, by simp, hdigits, rfl⟩⟩
    next => cases hread; exact ⟨rfl, .inl rfl⟩
  next => cases hread; exact ⟨rfl, .inl rfl⟩

theorem exponent?_append {exponent : List Char} (hexponent : IsExponent exponent)
    (hrest : EndsNumber rest) : exponent? (exponent ++ rest) = some (exponent, rest) := by
  rcases hexponent with rfl | ⟨c, sign, digits, hc, hsign, hdigits, rfl⟩
  · cases rest with
    | nil => rfl
    | cons c rest => simp [exponent?, hrest c rfl]
  · have hread := digits?_append hdigits fun c hc => (hrest c hc).1
    obtain ⟨d, more, rfl, hd⟩ := hdigits.exists_cons
    have hplus : d ≠ '+' := by rintro rfl; exact absurd hd (by decide)
    have hminus : d ≠ '-' := by rintro rfl; exact absurd hd (by decide)
    simp only [List.cons_append] at hread
    rcases hsign with rfl | rfl | rfl
    · simp only [List.nil_append, List.cons_append]
      rw [exponent?, if_pos hc]
      · simp [hread]
      · simp [hplus]
      · simp [hminus]
    · simp [exponent?, hc, hread]
    · simp [exponent?, hc, hread]

theorem IsExponent.head_append {exponent : List Char} (hexponent : IsExponent exponent)
    (hrest : EndsNumber rest) : ∀ c ∈ (exponent ++ rest).head?, c.isDigit = false ∧ c ≠ '.' := by
  rcases hexponent with rfl | ⟨d, sign, digits, hd, -, -, rfl⟩
  · exact fun c hc => ⟨(hrest c hc).1, (hrest c hc).2.1⟩
  · rcases hd with rfl | rfl <;> simp

theorem IsFraction.head_append {fraction : List Char} (hfraction : IsFraction fraction)
    (hrest : ∀ c ∈ rest.head?, c.isDigit = false) :
    ∀ c ∈ (fraction ++ rest).head?, c.isDigit = false := by
  rcases hfraction with rfl | ⟨digits, -, rfl⟩
  · exact hrest
  · simp

theorem unsigned?_eq_some {literal : List Char} (hread : unsigned? text = some (literal, rest)) :
    text = literal ++ rest ∧ IsUnsigned literal := by
  simp only [unsigned?, Option.bind_eq_bind, Option.bind_eq_some_iff, Option.some.injEq,
    Prod.mk.injEq, Prod.exists] at hread
  obtain ⟨whole, _, hread, fraction, _, hread', exponent, _, hread'', rfl, rfl⟩ := hread
  obtain ⟨rfl, hwhole⟩ := wholePart?_eq_some hread
  obtain ⟨rfl, hfraction⟩ := fraction?_eq_some hread'
  obtain ⟨rfl, hexponent⟩ := exponent?_eq_some hread''
  exact ⟨by simp, whole, fraction, exponent, hwhole, hfraction, hexponent, rfl⟩

theorem unsigned?_append {literal : List Char} (hliteral : IsUnsigned literal)
    (hrest : EndsNumber rest) : unsigned? (literal ++ rest) = some (literal, rest) := by
  obtain ⟨whole, fraction, exponent, hwhole, hfraction, hexponent, rfl⟩ := hliteral
  have hdot := hexponent.head_append hrest
  have hdigit := hfraction.head_append fun c hc => (hdot c hc).1
  simp [unsigned?, wholePart?_append hwhole hdigit, fraction?_append hfraction hdot,
    exponent?_append hexponent hrest]

theorem IsUnsigned.exists_cons {literal : List Char} (hliteral : IsUnsigned literal) :
    ∃ c more, literal = c :: more ∧ c.isDigit = true := by
  obtain ⟨whole, fraction, exponent, hwhole | ⟨hdigits, -⟩, -, -, rfl⟩ := hliteral
  · exact ⟨'0', fraction ++ exponent, by simp [hwhole], rfl⟩
  · obtain ⟨c, more, rfl, hc⟩ := hdigits.exists_cons
    exact ⟨c, more ++ fraction ++ exponent, by simp, hc⟩

theorem number?_eq_some {literal : List Char} (hread : number? text = some (literal, rest)) :
    text = literal ++ rest ∧ IsNumber literal := by
  unfold number? at hread
  split at hread
  next =>
    obtain ⟨⟨unsigned, behind⟩, hbehind, heq⟩ := Option.map_eq_some_iff.mp hread
    cases heq
    obtain ⟨rfl, hunsigned⟩ := unsigned?_eq_some hbehind
    exact ⟨rfl, .inr ⟨unsigned, hunsigned, rfl⟩⟩
  next =>
    obtain ⟨rfl, hunsigned⟩ := unsigned?_eq_some hread
    exact ⟨rfl, .inl hunsigned⟩

theorem number?_append {literal : List Char} (hliteral : IsNumber literal)
    (hrest : EndsNumber rest) : number? (literal ++ rest) = some (literal, rest) := by
  rcases hliteral with hunsigned | ⟨unsigned, hunsigned, rfl⟩
  · have hread := unsigned?_append hunsigned hrest
    obtain ⟨c, more, rfl, hc⟩ := hunsigned.exists_cons
    have hminus : c ≠ '-' := by rintro rfl; exact absurd hc (by decide)
    unfold number?
    split
    next heq => simp_all
    next => exact hread
  · simp [number?, unsigned?_append hunsigned hrest]

theorem IsNumber.exists_cons {literal : List Char} (hliteral : IsNumber literal) :
    ∃ c more, literal = c :: more ∧ (c.isDigit = true ∨ c = '-') := by
  rcases hliteral with hunsigned | ⟨unsigned, -, rfl⟩
  · obtain ⟨c, more, rfl, hc⟩ := hunsigned.exists_cons
    exact ⟨c, more, rfl, .inl hc⟩
  · exact ⟨'-', unsigned, rfl, .inr rfl⟩

/-! ## Strings -/

/-- A text without quotes and newlines that are not escaped. -/
inductive Inside : List Char → Prop
  | nil : Inside []
  | escaped (c : Char) {text : List Char} (hrest : Inside text) : Inside ('\\' :: c :: text)
  | plain {c : Char} {text : List Char} (hc : isUnescaped c = true) (hrest : Inside text) :
      Inside (c :: text)

theorem isUnescaped_of_isHexDigit (hc : isHexDigit c = true) : isUnescaped c = true := by
  have hbounds : 48 ≤ c.toNat ∧ c.toNat ≤ 57 ∨ 97 ≤ c.toNat ∧ c.toNat ≤ 102 ∨
      65 ≤ c.toNat ∧ c.toNat ≤ 70 := by
    simp only [isHexDigit, Bool.or_eq_true, Bool.and_eq_true, decide_eq_true_eq, Char.le_def,
      Char.isDigit, UInt32.le_iff_toNat_le] at hc
    exact or_assoc.mp hc
  have hquote : c ≠ '"' := by rintro rfl; revert hbounds; decide
  have hescape : c ≠ '\\' := by rintro rfl; revert hbounds; decide
  simp only [isUnescaped, Bool.and_eq_true, bne_iff_ne, decide_eq_true_eq]
  exact ⟨⟨hquote, hescape⟩, by omega⟩

theorem Inside.of_stringParts? {parts : List StringPart} (hparts : stringParts? text = some parts) :
    Inside text := by
  fun_induction stringParts? text generalizing parts with
  | case1 => exact .nil
  | case2 a b c d rest ih =>
      simp only [Option.bind_eq_bind, Option.bind_eq_some_iff] at hparts
      obtain ⟨n, hn, more, hmore, -⟩ := hparts
      have hdigits : ∀ x ∈ [a, b, c, d], isUnescaped x = true := by
        intro x hx
        refine isUnescaped_of_isHexDigit ?_
        by_cases hall : [a, b, c, d].all isHexDigit
        · exact List.all_eq_true.mp hall x hx
        · simp [hex4?, hall] at hn
      simp only [List.forall_mem_cons] at hdigits
      obtain ⟨ha, hb, hc, hd, -⟩ := hdigits
      exact .escaped 'u' (.plain ha (.plain hb (.plain hc (.plain hd (ih hmore)))))
  | case3 c rest _ ih =>
      simp only [Option.bind_eq_bind, Option.bind_eq_some_iff] at hparts
      obtain ⟨_, -, more, hmore, -⟩ := hparts
      exact .escaped c (ih hmore)
  | case4 c rest _ _ hc ih =>
      simp only [Option.bind_eq_bind, Option.bind_eq_some_iff] at hparts
      obtain ⟨more, hmore, -⟩ := hparts
      exact .plain hc (ih hmore)
  | case5 => cases hparts

theorem upToQuote?_eq_some {inner : List Char} (hread : upToQuote? text = some (inner, rest)) :
    text = inner ++ '"' :: rest := by
  fun_induction upToQuote? text generalizing inner with
  | case1 => cases hread
  | case2 c tail ih =>
      obtain ⟨⟨inner, behind⟩, hinner, heq⟩ := Option.map_eq_some_iff.mp hread
      cases heq
      rw [ih hinner]
      rfl
  | case3 => cases hread; rfl
  | case4 c tail _ _ ih =>
      obtain ⟨⟨inner, behind⟩, hinner, heq⟩ := Option.map_eq_some_iff.mp hread
      cases heq
      rw [ih hinner]
      rfl

theorem upToQuote?_append (htext : Inside text) (rest : List Char) :
    upToQuote? (text ++ '"' :: rest) = some (text, rest) := by
  induction htext with
  | nil => simp [upToQuote?]
  | escaped c _ ih => simp [upToQuote?, ih]
  | @plain c text hc _ ih =>
      simp only [isUnescaped, Bool.and_eq_true, bne_iff_ne] at hc
      rw [List.cons_append, upToQuote?, if_neg hc.1.1, ih]
      · rfl
      · simp [hc.1.2]

theorem stringBody?_eq_some {content : Option (List Char)}
    (hread : stringBody? text = some (content, rest)) :
    ∃ inner parts, stringParts? inner = some parts ∧ content = joinParts? parts ∧
      text = inner ++ '"' :: rest := by
  simp only [stringBody?, Option.bind_eq_bind, Option.bind_eq_some_iff, Option.some.injEq,
    Prod.mk.injEq, Prod.exists] at hread
  obtain ⟨inner, _, hinner, parts, hparts, rfl, rfl⟩ := hread
  exact ⟨inner, parts, hparts, rfl, upToQuote?_eq_some hinner⟩

theorem stringBody?_append {parts : List StringPart} (hparts : stringParts? text = some parts)
    (rest : List Char) : stringBody? (text ++ '"' :: rest) = some (joinParts? parts, rest) := by
  simp [stringBody?, upToQuote?_append (.of_stringParts? hparts), hparts]

/-! ## Tokens -/

/-- The spellings of a token. -/
inductive Spells : Token → List Char → Prop
  | openArray : Spells .openArray ['[']
  | closeArray : Spells .closeArray [']']
  | openObject : Spells .openObject ['\x7b']
  | closeObject : Spells .closeObject ['\x7d']
  | comma : Spells .comma [',']
  | colon : Spells .colon [':']
  | nullWord : Spells .null ['n', 'u', 'l', 'l']
  | trueWord : Spells (.bool true) ['t', 'r', 'u', 'e']
  | falseWord : Spells (.bool false) ['f', 'a', 'l', 's', 'e']
  | string {inner : List Char} {parts : List StringPart}
      (hparts : stringParts? inner = some parts) :
      Spells (.string ((joinParts? parts).map String.ofList)) ('"' :: (inner ++ ['"']))
  | number {literal : List Char} (hliteral : IsNumber literal) :
      Spells (.number (String.ofList literal)) literal

variable {token : Token} {spelling : List Char}

def Token.isNumber : Token → Bool
  | .number _ => true
  | _ => false

theorem nextToken?_eq_some (hread : nextToken? text = some (token, rest)) :
    ∃ spelling, Spells token spelling ∧ text = spelling ++ rest := by
  unfold nextToken? at hread
  split at hread
  case h_1 => cases hread; exact ⟨_, .openArray, rfl⟩
  case h_2 => cases hread; exact ⟨_, .closeArray, rfl⟩
  case h_3 => cases hread; exact ⟨_, .openObject, rfl⟩
  case h_4 => cases hread; exact ⟨_, .closeObject, rfl⟩
  case h_5 => cases hread; exact ⟨_, .comma, rfl⟩
  case h_6 => cases hread; exact ⟨_, .colon, rfl⟩
  case h_7 =>
    obtain ⟨⟨content, behind⟩, hbody, heq⟩ := Option.map_eq_some_iff.mp hread
    cases heq
    obtain ⟨inner, parts, hparts, rfl, rfl⟩ := stringBody?_eq_some hbody
    exact ⟨_, .string hparts, by simp⟩
  case h_8 => cases hread; exact ⟨_, .nullWord, rfl⟩
  case h_9 => cases hread; exact ⟨_, .trueWord, rfl⟩
  case h_10 => cases hread; exact ⟨_, .falseWord, rfl⟩
  case h_11 =>
    obtain ⟨⟨literal, behind⟩, hliteral, heq⟩ := Option.map_eq_some_iff.mp hread
    cases heq
    obtain ⟨rfl, hnumber⟩ := number?_eq_some hliteral
    exact ⟨_, .number hnumber, rfl⟩

theorem nextToken?_of_number (hc : c.isDigit = true ∨ c = '-') :
    nextToken? (c :: text) = (number? (c :: text)).map fun (literal, rest) =>
      (.number (String.ofList literal), rest) := by
  have hother : ∀ d ∈ ['[', ']', '\x7b', '\x7d', ',', ':', '"', 'n', 't', 'f'], c ≠ d := by
    rintro d hd rfl
    revert hc
    revert c
    simp
  simp only [List.forall_mem_cons] at hother
  unfold nextToken?
  split <;> simp_all

theorem Spells.nextToken? (hspells : Spells token spelling)
    (hrest : token.isNumber = true → EndsNumber rest) :
    nextToken? (spelling ++ rest) = some (token, rest) := by
  cases hspells with
  | string hparts => simp [Json.nextToken?, stringBody?_append hparts]
  | number hliteral =>
      have hread := number?_append hliteral (hrest rfl)
      obtain ⟨c, more, rfl, hc⟩ := hliteral.exists_cons
      rw [List.cons_append] at hread ⊢
      simp [nextToken?_of_number hc, hread]
  | _ => rfl

theorem isBlank_of_isSpace (hc : isSpace c = true) : Text.isBlank c = true := by
  simp only [isSpace, Bool.or_eq_true, beq_iff_eq] at hc
  rcases hc with ((rfl | rfl) | rfl) | rfl <;> rfl

theorem isBlank_of_isDigit (hc : c.isDigit = true) : Text.isBlank c = false := by
  have hbounds : 48 ≤ c.toNat ∧ c.toNat ≤ 57 := by
    simpa [Char.isDigit, UInt32.le_iff_toNat_le] using hc
  simp only [Text.isBlank, Bool.or_eq_false_iff, Bool.and_eq_false_iff, decide_eq_false_iff_not,
    beq_eq_false_iff_ne]
  omega

/-- A token starts with a character that is not blank, and brackets start only as such. -/
theorem Spells.exists_cons (hspells : Spells token spelling) :
    ∃ c more, spelling = c :: more ∧ Text.isBlank c = false ∧
      (c = ']' → token = .closeArray) ∧ (c = '\x7d' → token = .closeObject) := by
  cases hspells with
  | number hliteral =>
      obtain ⟨c, more, rfl, hc⟩ := hliteral.exists_cons
      refine ⟨c, more, rfl, ?_, ?_, ?_⟩
      · rcases hc with hc | rfl
        · exact isBlank_of_isDigit hc
        · decide
      · rintro rfl
        exact absurd hc (by decide)
      · rintro rfl
        exact absurd hc (by decide)
  | _ => exact ⟨_, _, rfl, by decide, by simp, by simp⟩

/-! ## Rows of tokens -/

/-- Nothing but blanks as they may stand between tokens. -/
def Blanks (text : List Char) : Prop :=
  ∀ c ∈ text, isSpace c = true

variable {blanks : List Char} {tokens : List Token}

theorem Blanks.append (hblanks : Blanks blanks) (hrest : Blanks rest) : Blanks (blanks ++ rest) :=
  List.forall_mem_append.mpr ⟨hblanks, hrest⟩

theorem Blanks.endsNumber (hblanks : Blanks blanks) (hrest : EndsNumber rest) :
    EndsNumber (blanks ++ rest) := by
  cases blanks with
  | nil => exact hrest
  | cons c blanks =>
      intro d hd
      cases hd
      have hspace := hblanks c List.mem_cons_self
      simp only [isSpace, Bool.or_eq_true, beq_iff_eq] at hspace
      rcases hspace with ((rfl | rfl) | rfl) | rfl <;> decide

theorem Spells.dropWhile_isSpace (hspells : Spells token spelling) (rest : List Char) :
    (spelling ++ rest).dropWhile isSpace = spelling ++ rest := by
  obtain ⟨c, more, rfl, hblank, -⟩ := hspells.exists_cons
  have hspace : isSpace c ≠ true := by
    intro hspace
    rw [isBlank_of_isSpace hspace] at hblank
    cases hblank
  rw [List.cons_append, List.dropWhile_cons_of_neg hspace]

/-- How many tokens may be read at most does not matter if the length of the text allows them. -/
theorem tokensWithin?_of_le {bound : Nat} (hbound : text.length ≤ bound) :
    tokensWithin? bound text = tokens? text := by
  have hstep : ∀ (least bound more : Nat) (text : List Char), text.length ≤ bound →
      text.length ≤ more → bound ≤ least → tokensWithin? bound text = tokensWithin? more text := by
    intro least
    induction least with
    | zero =>
        intro bound more text hbound _ hleast
        obtain rfl : text = [] := List.length_eq_zero_iff.mp (by omega)
        simp [tokensWithin?]
    | succ least ih =>
        intro bound more text hbound hmore hleast
        rw [tokensWithin?, tokensWithin?]
        cases hdrop : text.dropWhile isSpace with
        | nil => rfl
        | cons c tail =>
            have hlength : (c :: tail).length ≤ text.length :=
              hdrop ▸ (List.dropWhile_sublist _).length_le
            obtain ⟨bound, rfl⟩ : ∃ fewer, bound = fewer + 1 :=
              ⟨bound - 1, by simp at hlength; omega⟩
            obtain ⟨more, rfl⟩ : ∃ fewer, more = fewer + 1 := ⟨more - 1, by simp at hlength; omega⟩
            cases hnext : nextToken? (c :: tail) with
            | none => simp [hnext]
            | some read =>
                obtain ⟨token, rest⟩ := read
                obtain ⟨spelling, hspells, heq⟩ := nextToken?_eq_some hnext
                obtain ⟨_, _, rfl, -⟩ := hspells.exists_cons
                have hshorter : rest.length < (c :: tail).length := by
                  simp only [heq, List.cons_append, List.length_cons, List.length_append]
                  omega
                simp only [hnext, Option.bind_eq_bind, Option.bind_some]
                rw [ih bound more rest (by omega) (by omega) (by omega)]
  exact hstep bound bound text.length text hbound le_rfl le_rfl

theorem tokens?_append_of_blanks (hblanks : Blanks blanks) (text : List Char) :
    tokens? (blanks ++ text) = tokens? text := by
  have hbound : tokensWithin? (blanks ++ text).length text = tokens? text :=
    tokensWithin?_of_le (by simp)
  rw [← hbound, tokens?, tokensWithin?.eq_def, tokensWithin?.eq_def]
  simp only [List.dropWhile_append_of_pos hblanks]

theorem tokens?_of_blanks (hblanks : Blanks blanks) : tokens? blanks = some [] := by
  have hread := tokens?_append_of_blanks hblanks []
  rw [List.append_nil] at hread
  rw [hread]
  rfl

theorem tokens?_of_nextToken? (hnext : nextToken? text = some (token, rest)) :
    tokens? text = (tokens? rest).map (token :: ·) := by
  obtain ⟨spelling, hspells, rfl⟩ := nextToken?_eq_some hnext
  have hdrop := hspells.dropWhile_isSpace rest
  obtain ⟨c, more, rfl, -⟩ := hspells.exists_cons
  rw [List.cons_append] at hnext hdrop ⊢
  rw [tokens?, List.length_cons, tokensWithin?]
  simp only [hdrop, hnext, Option.bind_eq_bind, Option.bind_some]
  rw [tokensWithin?_of_le (by simp)]
  cases tokens? rest <;> rfl

end ImportRules.Json
