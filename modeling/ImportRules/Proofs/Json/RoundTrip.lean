import ImportRules.Json.Printer
import ImportRules.Json.Reader
import ImportRules.Proofs.Json.Tokens
/-!
# What is written is read back

The reader takes in a text one token at a time. Wherever it waits for a value, the text of a value
leads it to the place behind that value, whatever is still open and whatever follows. So the text of
a whole value is read as that value.
-/

namespace ImportRules.Json

variable {blanks text rest spelling : List Char} {token : Token} {state next : Expecting}
  {stack : List Open} {value : Json} {members : List (Option String × Json)}

/-! ## Strings -/

theorem hex4?_lowerHexDigit : ∀ n < 32,
    hex4? '0' '0' (lowerHexDigit (n / 16)) (lowerHexDigit (n % 16)) = some n := by
  decide

theorem stringParts?_escapeChar (c : Char) (text : List Char) :
    stringParts? (escapeChar c ++ text) = (stringParts? text).map (.char c :: ·) := by
  by_cases hsimple : c ∈ ['"', '\\', '\n', '\r', '\t', '\x08', '\x0c']
  · simp only [List.mem_cons, List.not_mem_nil, or_false] at hsimple
    rcases hsimple with rfl | rfl | rfl | rfl | rfl | rfl | rfl <;>
      cases hparts : stringParts? text <;> simp [escapeChar, stringParts?, simpleEscape?, hparts]
  simp only [List.mem_cons, List.not_mem_nil, or_false, not_or] at hsimple
  by_cases hcontrol : c.toNat < 32
  · -- the other control characters are written as numbers, which are no surrogates
    have hhex := hex4?_lowerHexDigit c.toNat hcontrol
    have hhigh : isHighSurrogate c.toNat = false := by simp [isHighSurrogate]; omega
    have hlow : isLowSurrogate c.toNat = false := by simp [isLowSurrogate]; omega
    have hpart : StringPart.ofNumber c.toNat = .char c := by simp [StringPart.ofNumber, hhigh, hlow]
    simp only [escapeChar, hsimple, hcontrol, if_true, if_false, List.cons_append, List.nil_append,
      stringParts?, hhex]
    cases stringParts? text <;> simp [hpart]
  · have hplain : isUnescaped c = true := by
      simp only [isUnescaped, Bool.and_eq_true, bne_iff_ne, decide_eq_true_eq]
      exact ⟨⟨hsimple.1, hsimple.2.1⟩, by omega⟩
    simp only [escapeChar, hsimple, hcontrol, if_false, List.cons_append, List.nil_append]
    rw [stringParts?, if_pos hplain]
    · cases stringParts? text <;> rfl
    · simp [hsimple.2.1]
    · simp [hsimple.2.1]

theorem stringParts?_flatMap_escapeChar (text : List Char) :
    stringParts? (text.flatMap escapeChar) = some (text.map .char) := by
  induction text with
  | nil => rfl
  | cons c text ih =>
      rw [List.flatMap_cons, stringParts?_escapeChar, ih]
      rfl

theorem joinParts?_map_char (text : List Char) : joinParts? (text.map .char) = some text := by
  induction text with
  | nil => rfl
  | cons c text ih =>
      rw [List.map_cons, joinParts?, ih]
      rfl

theorem spells_quoted (text : String) : Spells (.string (some text)) (quoted text) := by
  have hspells := Spells.string (stringParts?_flatMap_escapeChar text.toList)
  rw [joinParts?_map_char, Option.map_some, String.ofList_toList] at hspells
  exact hspells

/-! ## Values -/

/-- What the reader waits for behind a text. -/
def readOn (state : Expecting) (text : List Char) : Option Expecting :=
  (tokens? text).bind fun tokens => tokens.foldlM advance state

theorem ofText?_of_readOn (hread : readOn (.value []) text = some (.separator value [])) :
    ofText? text = some value := by
  obtain ⟨tokens, htokens, hfold⟩ := Option.bind_eq_some_iff.mp hread
  simp [ofText?, ofTokens?, htokens, hfold]

theorem readOn_blanks (hblanks : Blanks blanks) :
    readOn state (blanks ++ text) = readOn state text := by
  rw [readOn, tokens?_append_of_blanks hblanks, readOn]

theorem readOn_token (hspells : Spells token spelling)
    (hrest : token.isNumber = true → EndsNumber rest) (hadvance : advance state token = some next) :
    readOn state (spelling ++ rest) = readOn next rest := by
  rw [readOn, tokens?_of_nextToken? (hspells.nextToken? hrest), readOn]
  cases tokens? rest with
  | none => rfl
  | some tokens => simp [hadvance]

theorem readOn_mark {c : Char} (hspells : Spells token [c]) (htoken : token.isNumber = false)
    (hadvance : advance state token = some next) : readOn state (c :: rest) = readOn next rest :=
  readOn_token hspells (fun hnumber => by simp [htoken] at hnumber) hadvance

/-- Values that have a text: their numbers are spelled as numbers. -/
inductive Writable : Json → Prop
  | null : Writable .null
  | bool (value : Bool) : Writable (.bool value)
  | number {literal : String} (hliteral : IsNumber literal.toList) : Writable (.number literal)
  | string (text : String) : Writable (.string text)
  | array {items : List Json} (hitems : ∀ item ∈ items, Writable item) : Writable (.array items)
  | object {members : List (String × Json)} (hmembers : ∀ member ∈ members, Writable member.2) :
      Writable (.object members)

/-- The reader waits for a value, which may be the first item of an array. -/
inductive Awaits : Expecting → List Open → Prop
  | value (stack : List Open) : Awaits (.value stack) stack
  | firstItem (stack : List Open) : Awaits (.firstItem stack) (.array [] :: stack)

theorem Awaits.advance (hawaits : Awaits state stack) (htoken : token ≠ .closeArray) :
    advance state token = startValue stack token := by
  cases hawaits with
  | value => rfl
  | firstItem => cases token <;> first | rfl | exact absurd rfl htoken

/-- The text of a value leads the reader past that value. -/
def ReadsBack (value : Json) : Prop :=
  ∀ level state stack rest, Awaits state stack → EndsNumber rest →
    readOn state (print level value ++ rest) = readOn (.separator value stack) rest

theorem blanks_newline (level : Nat) : Blanks (newline level) := by
  intro c hc
  rcases List.mem_cons.mp hc with rfl | hc
  · rfl
  · rw [List.eq_of_mem_replicate hc]
    rfl

theorem endsNumber_printItems {level inner : Nat} {items : List Json} :
    EndsNumber (printItems inner items ++ (newline level ++ rest)) := by
  cases items <;> simp [EndsNumber, printItems, newline]

theorem endsNumber_printMembers {level inner : Nat} {members : List (String × Json)} :
    EndsNumber (printMembers inner members ++ (newline level ++ rest)) := by
  cases members <;> simp [EndsNumber, printMembers, newline]

/-- Behind an item of an array the reader takes in the others and closes the array. -/
theorem readOn_printItems (level inner : Nat) {items : List Json}
    (hitems : ∀ item ∈ items, ReadsBack item) (before : List Json) (value : Json) :
    readOn (.separator value (.array before :: stack))
        (printItems inner items ++ (newline level ++ ']' :: rest)) =
      readOn (.separator (.array (before.reverse ++ value :: items)) stack) rest := by
  induction items generalizing before value with
  | nil =>
      rw [printItems, List.nil_append, readOn_blanks (blanks_newline level)]
      refine readOn_mark .closeArray rfl ?_
      simp [advance]
  | cons item items ih =>
      obtain ⟨hitem, hitems⟩ := List.forall_mem_cons.mp hitems
      rw [printItems]
      simp only [List.cons_append, List.append_assoc]
      refine (readOn_mark .comma rfl rfl).trans ?_
      rw [readOn_blanks (blanks_newline inner),
        hitem inner _ _ _ (.value _) endsNumber_printItems, ih hitems]
      simp

/-- The members of an object as the reader keeps them. -/
def named (members : List (String × Json)) : List (Option String × Json) :=
  members.map fun (name, value) => (some name, value)

theorem closedObject_named (members : List (String × Json)) :
    closedObject (named members).reverse = .object members := by
  have hmap : members.mapM (fun member => some (member.1, member.2)) = some members := by
    simpa using List.mapM_pure (m := Option) (l := members) (f := id)
  simp [closedObject, named, List.mapM_map, Function.comp_def, hmap]

/-- A name and its colon lead the reader to the value. -/
theorem readOn_name (name : String) (hadvance : advance state (.string (some name)) =
    some (.colon members (some name) stack)) :
    readOn state (quoted name ++ ':' :: ' ' :: rest) =
      readOn (.value (.object members (some name) :: stack)) rest := by
  rw [readOn_token (spells_quoted name) (by simp [Token.isNumber]) hadvance]
  refine (readOn_mark .colon rfl rfl).trans ?_
  have hspace : Blanks [' '] := by simp [Blanks, isSpace]
  exact readOn_blanks hspace

/-- Behind a member of an object the reader takes in the others and closes the object. -/
theorem readOn_printMembers (level inner : Nat) {members : List (String × Json)}
    (hmembers : ∀ member ∈ members, ReadsBack member.2) (before : List (String × Json))
    (name : String) (value : Json) :
    readOn (.separator value (.object (named before).reverse (some name) :: stack))
        (printMembers inner members ++ (newline level ++ '\x7d' :: rest)) =
      readOn (.separator (.object (before ++ (name, value) :: members)) stack) rest := by
  induction members generalizing before name value with
  | nil =>
      rw [printMembers, List.nil_append, readOn_blanks (blanks_newline level)]
      refine readOn_mark .closeObject rfl ?_
      rw [← closedObject_named]
      simp [advance, named]
  | cons member members ih =>
      obtain ⟨other, inside⟩ := member
      obtain ⟨hmember : ReadsBack inside, hmembers⟩ := List.forall_mem_cons.mp hmembers
      rw [printMembers]
      simp only [List.cons_append, List.append_assoc, List.nil_append]
      refine (readOn_mark .comma rfl rfl).trans ?_
      rw [readOn_blanks (blanks_newline inner)]
      refine (readOn_name other rfl).trans ?_
      rw [hmember inner _ _ _ (.value _) endsNumber_printMembers]
      have hnext := ih hmembers (before ++ [(name, value)]) other inside
      simpa [named] using hnext

/-- A value of one token is read in one step. -/
theorem readsBack_of_token (hspells : ∀ level, Spells token (print level value))
    (hstart : ∀ stack, startValue stack token = some (.separator value stack)) :
    ReadsBack value := by
  intro level state stack rest hstate hrest
  have htoken : token ≠ .closeArray := by
    rintro rfl
    cases hstart stack
  refine readOn_token (hspells level) (fun _ => hrest) ?_
  rw [hstate.advance htoken, hstart]

theorem readsBack_array {items : List Json} (hitems : ∀ item ∈ items, ReadsBack item) :
    ReadsBack (.array items) := by
  intro level state stack rest hstate _
  have hopen : advance state .openArray = some (.firstItem stack) := hstate.advance (by simp)
  cases items with
  | nil =>
      rw [print]
      refine (readOn_mark .openArray rfl hopen).trans ?_
      exact readOn_mark .closeArray rfl rfl
  | cons item items =>
      obtain ⟨hitem, hitems⟩ := List.forall_mem_cons.mp hitems
      rw [print]
      simp only [List.cons_append, List.append_assoc, List.nil_append]
      refine (readOn_mark .openArray rfl hopen).trans ?_
      rw [readOn_blanks (blanks_newline _),
        hitem _ _ _ _ (.firstItem stack) endsNumber_printItems, readOn_printItems level _ hitems]
      rfl

theorem readsBack_object {members : List (String × Json)}
    (hmembers : ∀ member ∈ members, ReadsBack member.2) : ReadsBack (.object members) := by
  intro level state stack rest hstate _
  have hopen : advance state .openObject = some (.firstName stack) := hstate.advance (by simp)
  cases members with
  | nil =>
      rw [print]
      refine (readOn_mark .openObject rfl hopen).trans ?_
      exact readOn_mark .closeObject rfl rfl
  | cons member members =>
      obtain ⟨name, value⟩ := member
      obtain ⟨hmember : ReadsBack value, hmembers⟩ := List.forall_mem_cons.mp hmembers
      rw [print]
      simp only [List.cons_append, List.append_assoc, List.nil_append]
      refine (readOn_mark .openObject rfl hopen).trans ?_
      rw [readOn_blanks (blanks_newline _)]
      refine (readOn_name name rfl).trans ?_
      rw [hmember _ _ _ _ (.value _) endsNumber_printMembers]
      exact readOn_printMembers level _ hmembers [] name value

theorem Writable.readsBack (hvalue : Writable value) : ReadsBack value := by
  induction hvalue with
  | null => exact readsBack_of_token (fun _ => .nullWord) fun _ => rfl
  | bool value =>
      cases value with
      | false => exact readsBack_of_token (fun _ => .falseWord) fun _ => rfl
      | true => exact readsBack_of_token (fun _ => .trueWord) fun _ => rfl
  | @number literal hliteral =>
      have hspells := Spells.number hliteral
      rw [String.ofList_toList] at hspells
      exact readsBack_of_token (fun _ => hspells) fun _ => rfl
  | string text => exact readsBack_of_token (fun _ => spells_quoted text) fun _ => rfl
  | array _ ih => exact readsBack_array ih
  | object _ ih => exact readsBack_object ih

/-- The text of a value is read as that value, with blanks around it or not. -/
theorem Writable.ofText?_print (hvalue : Writable value) (hblanks : Blanks blanks) :
    ofText? (print 0 value ++ blanks) = some value := by
  have hend : EndsNumber [] := by simp [EndsNumber]
  have hends : EndsNumber blanks := by simpa using hblanks.endsNumber hend
  refine ofText?_of_readOn ?_
  rw [hvalue.readsBack 0 _ _ _ (.value []) hends, readOn, tokens?_of_blanks hblanks]
  rfl

end ImportRules.Json
