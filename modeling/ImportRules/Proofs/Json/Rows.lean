import ImportRules.Json.Reader
import ImportRules.Proofs.Json.Tokens
import Mathlib.Data.List.Chain
import Mathlib.Data.List.DropRight
/-!
# Rows of tokens

The tokens of a text that is accepted as JSON follow each other in an orderly way: behind a number
its value has ended, and behind a comma nothing is closed. So no blanks are needed between them, and
the text is a row of their spellings with blanks in between.
-/

namespace ImportRules.Json

variable {text rest blanks : List Char} {token other : Token} {tokens : List Token}

/-- Tokens that close a bracket. -/
def Token.closes : Token → Bool
  | .closeArray | .closeObject => true
  | _ => false

/-- Tokens that may stand behind a value inside of brackets. -/
def Token.endsValue : Token → Bool
  | .comma => true
  | token => token.closes

/-- What may stand behind a number and behind a comma. -/
structure Token.Follows (token next : Token) : Prop where
  behind_number : token.isNumber = true → next.endsValue = true
  behind_comma : token = .comma → next.closes = false

theorem follows_of_advance {state middle next : Expecting}
    (hfirst : advance state token = some middle)
    (hsecond : advance middle other = some next) : token.Follows other := by
  constructor
  · intro hnumber
    obtain ⟨value, stack, rfl⟩ : ∃ value stack, middle = .separator value stack := by
      cases token <;> simp [Token.isNumber] at hnumber
      cases state <;> simp [advance, startValue, startMember] at hfirst
      all_goals exact ⟨_, _, hfirst.symm⟩
    rw [advance.eq_def] at hsecond
    split at hsecond <;> simp_all [Token.endsValue, Token.closes]
  · rintro rfl
    rw [advance.eq_def] at hfirst
    split at hfirst <;> simp_all [startValue, startMember]
    all_goals
      subst hfirst
      cases other <;> simp_all [advance, startValue, startMember, Token.closes]

theorem isChain_follows {state final : Expecting}
    (hread : tokens.foldlM advance state = some final) :
    tokens.IsChain Token.Follows := by
  induction tokens generalizing state with
  | nil => exact .nil
  | cons token tokens ih =>
      rw [List.foldlM_cons] at hread
      obtain ⟨middle, hfirst, hread⟩ := Option.bind_eq_some_iff.mp hread
      refine List.isChain_cons.mpr ⟨fun other hother => ?_, ih hread⟩
      cases tokens with
      | nil => cases hother
      | cons head tail =>
          cases hother
          obtain ⟨next, hsecond, -⟩ := Option.bind_eq_some_iff.mp hread
          exact follows_of_advance hfirst hsecond

/-! ## The text of a row -/

/-- A text that is made of the spellings of tokens with blanks between them. -/
inductive Row : List Token → List Char → Prop
  | last {blanks : List Char} (hblanks : Blanks blanks) : Row [] blanks
  | next {token : Token} {tokens : List Token} {blanks spelling rest : List Char}
      (hblanks : Blanks blanks) (hspells : Spells token spelling)
      (hends : token.isNumber = true → EndsNumber rest) (hrest : Row tokens rest) :
      Row (token :: tokens) (blanks ++ (spelling ++ rest))

theorem Row.tokens? (hrow : Row tokens text) : tokens? text = some tokens := by
  induction hrow with
  | last hblanks => exact tokens?_of_blanks hblanks
  | next hblanks hspells hends _ ih =>
      rw [tokens?_append_of_blanks hblanks, tokens?_of_nextToken? (hspells.nextToken? hends), ih]
      rfl

/-- A row that starts with the end of a value can follow a number. -/
theorem Row.endsNumber (hrow : Row tokens text)
    (htokens : ∀ token ∈ tokens.head?, token.endsValue = true) : EndsNumber text := by
  cases hrow with
  | last hblanks =>
      have hend : EndsNumber [] := by simp [EndsNumber]
      simpa using hblanks.endsNumber hend
  | @next token _ _ _ _ hblanks hspells =>
      refine hblanks.endsNumber ?_
      have htoken := htokens token rfl
      cases hspells <;> simp [Token.endsValue, Token.closes] at htoken <;> simp [EndsNumber]

/-- A text with tokens is blank, or starts with blanks and the first token. -/
theorem tokens?_cases (hread : tokens? text = some tokens) :
    (Blanks text ∧ tokens = []) ∨
      ∃ blanks spelling rest token more, Blanks blanks ∧ text = blanks ++ (spelling ++ rest) ∧
        Spells token spelling ∧ tokens? rest = some more ∧ tokens = token :: more := by
  have hsplit : text = text.takeWhile isSpace ++ text.dropWhile isSpace :=
    (List.takeWhile_append_dropWhile ..).symm
  have hblanks : Blanks (text.takeWhile isSpace) := fun c hc => List.mem_takeWhile_imp hc
  cases hdrop : text.dropWhile isSpace with
  | nil =>
      rw [hdrop, List.append_nil] at hsplit
      rw [← hsplit] at hblanks
      rw [tokens?_of_blanks hblanks] at hread
      exact .inl ⟨hblanks, (Option.some.inj hread).symm⟩
  | cons c tail =>
      rw [hdrop] at hsplit
      rw [hsplit, tokens?_append_of_blanks hblanks] at hread
      cases hnext : nextToken? (c :: tail) with
      | none =>
          have hstart : (c :: tail).dropWhile isSpace = c :: tail := by
            rw [← hdrop]
            exact List.dropWhile_idempotent ..
          rw [tokens?, tokensWithin?] at hread
          simp only [hstart, List.length_cons, hnext] at hread
          cases hread
      | some read =>
          obtain ⟨token, rest⟩ := read
          rw [tokens?_of_nextToken? hnext] at hread
          obtain ⟨more, hmore, htokens⟩ := Option.map_eq_some_iff.mp hread
          obtain ⟨spelling, hspells, hspelling⟩ := nextToken?_eq_some hnext
          rw [hspelling] at hsplit
          exact .inr ⟨_, spelling, rest, token, more, hblanks, hsplit, hspells, hmore, htokens.symm⟩

theorem row_of_tokens? (hread : tokens? text = some tokens)
    (hchain : tokens.IsChain Token.Follows) : Row tokens text := by
  induction tokens generalizing text with
  | nil =>
      rcases tokens?_cases hread with ⟨hblanks, -⟩ | ⟨_, _, _, _, _, -, -, -, -, heq⟩
      · exact .last hblanks
      · cases heq
  | cons token tokens ih =>
      rcases tokens?_cases hread with
        ⟨-, heq⟩ | ⟨blanks, spelling, rest, _, _, hblanks, rfl, hspells, hrest, heq⟩
      · cases heq
      · cases heq
        obtain ⟨hnext, hchain⟩ := List.isChain_cons.mp hchain
        have hrow := ih hrest hchain
        refine .next hblanks hspells (fun hnumber => ?_) hrow
        exact hrow.endsNumber fun other hother => (hnext other hother).behind_number hnumber

theorem isChain_of_ofText? {value : Json} (hread : ofText? text = some value) :
    ∃ tokens, tokens? text = some tokens ∧ tokens.IsChain Token.Follows := by
  obtain ⟨tokens, htokens, hvalue⟩ := Option.bind_eq_some_iff.mp hread
  refine ⟨tokens, htokens, ?_⟩
  unfold ofTokens? at hvalue
  split at hvalue
  next hfold => exact isChain_follows hfold
  next => cases hvalue

end ImportRules.Json
