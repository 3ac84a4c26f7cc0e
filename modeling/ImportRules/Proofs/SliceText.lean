import ImportRules.Proofs.Expression.Composing
import ImportRules.Proofs.SliceMeaning
/-!
# Slice globs as written expressions

A slice glob can be written as a regular expression, part by part and with a backslash before every
character that is a sign there. Whatever the parts are and in whichever order they come, the reader
of expressions takes the text in: it is an expression with one group for each capture, numbered from
left to right, unless it stands for too large a machine. With at most one capture it reads what the
expression for the glob reads.
-/

namespace ImportRules.SliceGlob

open Expression (TakesIn ReadsAll Item)
open Text (CharSet)

/-! ## The parts as texts and as expressions -/

/-- Reads a character other than a slash. -/
def nonSlash : Expression :=
  .oneOf (CharSet.single '/').compl

def nonSlashes : Expression :=
  .repeated nonSlash 1 none true

/-- What a written part is read as, if its group gets the number `index`. -/
def Token.expression (last : Bool) (index : Nat) : Token → Expression
  | .capturePath =>
      .group index (.seq nonSlashes (.repeated (.seq (.literal ['/']) nonSlashes) 0 none last))
  | .captureSegment => .group index nonSlashes
  | .anyText => .repeated (.oneOf (CharSet.single '\n').compl) 0 none true
  | .anyRun => .repeated nonSlash 0 none true
  | .anyChar => nonSlash
  | .char c => .literal [c]

/-- How deep a written part is nested. -/
def Token.depth : Token → Nat
  | .capturePath => 7
  | .captureSegment => 3
  | .anyRun => 2
  | .anyText | .anyChar => 1
  | .char _ => 0

def Token.item (last : Bool) (index : Nat) (token : Token) : Item where
  expression := token.expression last index
  depth := token.depth

/-- What written parts are read as behind the given number of groups. -/
def partsItems : List Token → Nat → List Item
  | [], _ => []
  | token :: rest, count =>
      token.item rest.isEmpty (count + 1) ::
        partsItems rest (count + if token.isCapture then 1 else 0)

/-! ## Taking the parts in -/

theorem takesIn_nonSlash :
    TakesIn "[^/]".toList 0 fun _ => [{ expression := nonSlash, depth := 1 }] :=
  .step (List.cons_ne_nil _ _) fun _ _ _ _ _ _ => rfl

theorem takesIn_nonSlashes :
    TakesIn "[^/]+".toList 0 fun _ => [{ expression := nonSlashes, depth := 2 }] :=
  takesIn_nonSlash.greedyRounds (fun _ => rfl) (fun _ => by decide) .plus

theorem takesIn_further (last : Bool) :
    TakesIn (if last then "(?:/[^/]+)*" else "(?:/[^/]+)*?").toList 0 fun _ =>
      [{ expression := .repeated (.seq (.literal ['/']) nonSlashes) 0 none last, depth := 5 }] := by
  have hround : TakesIn "(?:/[^/]+)".toList 0 fun _ =>
      [{ expression := .seq (.literal ['/']) nonSlashes, depth := 4 }] :=
    ((TakesIn.char '/').append takesIn_nonSlashes (by decide)).plain fun _ =>
      show 3 < 250 by decide
  cases last with
  | true => exact hround.greedyRounds (fun _ => rfl) (fun _ => by decide) .star
  | false => exact hround.lazyRounds (fun _ => rfl) (fun _ => by decide) .star

theorem Token.takesIn (last : Bool) (token : Token) :
    TakesIn (token.written last) (if token.isCapture then 1 else 0) fun count =>
      [token.item last (count + 1)] := by
  cases token with
  | capturePath =>
      have hpath := takesIn_nonSlashes.append (takesIn_further last) (by cases last <;> decide)
      have hcapture := hpath.capture (by cases last <;> decide) fun _ => show 6 < 250 by decide
      cases last <;> exact hcapture
  | captureSegment =>
      exact takesIn_nonSlashes.capture (by decide) fun _ => show 2 < 250 by decide
  | anyText =>
      have hdot : TakesIn ['.'] 0 fun _ =>
          [{ expression := .oneOf (CharSet.single '\n').compl }] :=
        .step (List.cons_ne_nil _ _) fun _ _ _ _ _ _ => rfl
      exact hdot.greedyRounds (fun _ => rfl) (fun _ => by decide) .star
  | anyRun => exact takesIn_nonSlash.greedyRounds (fun _ => rfl) (fun _ => by decide) .star
  | anyChar => exact takesIn_nonSlash
  | char c => exact .char c

/-- No part turns a repetition before it into one with few rounds. -/
theorem Token.exists_written_eq_cons (last : Bool) (token : Token) :
    ∃ c more, token.written last = c :: more ∧ c ≠ '?' := by
  cases token with
  | capturePath => cases last <;> exact ⟨'(', _, rfl, by decide⟩
  | captureSegment => exact ⟨'(', _, rfl, by decide⟩
  | anyText => exact ⟨'.', _, rfl, by decide⟩
  | anyRun | anyChar => exact ⟨'[', _, rfl, by decide⟩
  | char c => exact Expression.exists_escaped_eq_cons c

theorem head?_partsWritten (parts : List Token) : (partsWritten parts).head? ≠ some '?' := by
  cases parts with
  | nil => simp [partsWritten]
  | cons token rest =>
      obtain ⟨c, more, hwritten, hc⟩ := token.exists_written_eq_cons rest.isEmpty
      rw [partsWritten, hwritten]
      exact fun heq => hc (Option.some.inj heq)

theorem takesIn_partsWritten (parts : List Token) :
    TakesIn (partsWritten parts) (captures parts) fun count =>
      (partsItems parts count).reverse := by
  induction parts with
  | nil => exact .nil
  | cons token rest ih =>
      have happend := (token.takesIn rest.isEmpty).append ih (head?_partsWritten rest)
      rw [captures_cons, Nat.add_comm, partsWritten]
      convert happend using 2
      simp [Expression.behind, partsItems]

/-! ## What is read -/

theorem depth_partsItems (parts : List Token) (count : Nat) :
    ∀ item ∈ partsItems parts count, item.depth ≤ 7 := by
  induction parts generalizing count with
  | nil => simp [partsItems]
  | cons token rest ih =>
      refine List.forall_mem_cons.mpr ⟨?_, ih _⟩
      cases token <;> simp [Token.item, Token.depth]

theorem Token.groups_expression (last : Bool) (index : Nat) (token : Token) :
    (token.expression last index).groups = if token.isCapture then [index] else [] := by
  cases token <;> rfl

/-- The groups have consecutive numbers, one for each capture. -/
theorem groupsOf_partsItems (parts : List Token) (count : Nat) :
    Expression.groupsOf ((partsItems parts count).map (·.expression)) =
      List.range' (count + 1) (captures parts) := by
  induction parts generalizing count with
  | nil => rfl
  | cons token rest ih =>
      rw [partsItems, List.map_cons, Expression.groupsOf_cons, ih, captures_cons, Token.item,
        Token.groups_expression]
      cases token.isCapture <;> rfl

theorem Token.reads_expression (last : Bool) (token : Token) :
    (token.expression last 1).Reads = (token.regex last).Reads := by
  have hnonSlash : nonSlash.Reads = (Regex.noneOf ['/']).Reads :=
    Expression.reads_oneOf_compl (by decide) (by decide)
  have hsegment : nonSlashes.Reads = segment.Reads :=
    Expression.reads_repeated_alike hnonSlash 1 none true
  cases token with
  | capturePath =>
      have hround := Expression.reads_seq_alike (Expression.reads_literal_char '/') hsegment
      have hfurther := Expression.reads_repeated_alike hround 0 none last
      exact Expression.reads_group_alike (Expression.reads_seq_alike hsegment hfurther) 1
  | captureSegment => exact Expression.reads_group_alike hsegment 1
  | anyText =>
      have hline := Expression.reads_oneOf_compl (c := '\n') (by decide) (by decide)
      exact Expression.reads_repeated_alike hline 0 none true
  | anyRun => exact Expression.reads_repeated_alike hnonSlash 0 none true
  | anyChar => exact hnonSlash
  | char c => exact Expression.reads_literal_char c

theorem Token.expression_of_not_isCapture {token : Token} (htoken : token.isCapture = false)
    (last : Bool) (index : Nat) : token.expression last index = token.expression last 1 := by
  cases token with
  | capturePath | captureSegment => cases htoken
  | _ => rfl

/-- As long as there is no second capture, the group that a capture is given is the first. -/
theorem readsAll_partsItems {parts : List Token} {count : Nat}
    (hcount : count + captures parts ≤ 1) :
    ReadsAll ((partsItems parts count).map (·.expression)) = (partsRegex parts).Reads := by
  induction parts generalizing count with
  | nil =>
      funext p q
      exact propext eq_comm
  | cons token rest ih =>
      rw [captures_cons] at hcount
      have hrest := @ih (count + if token.isCapture then 1 else 0) (by omega)
      have hfirst : token.expression rest.isEmpty (count + 1) =
          token.expression rest.isEmpty 1 := by
        by_cases hcapture : token.isCapture = true
        · rw [if_pos hcapture] at hcount
          rw [show count = 0 by omega]
        · exact Token.expression_of_not_isCapture (Bool.eq_false_iff.mpr hcapture) _ _
      rw [partsItems, List.map_cons, Expression.readsAll_cons, hrest, Token.item, hfirst,
        Token.reads_expression]
      rfl

/-- What the sign at the start of a written glob is read as. -/
def startItem : Item where
  expression := .anchor .textStart

/-- What a written slice glob is read as. -/
def parsed (parts : List Token) : Expression :=
  (Expression.row ((partsItems parts 0).reverse ++ [startItem])).expression

theorem map_expression_parsed (parts : List Token) :
    ((partsItems parts 0).reverse ++ [startItem]).reverse.map (·.expression) =
      .anchor .textStart :: (partsItems parts 0).map (·.expression) := by
  simp [startItem]

/-- A slice glob can be written as an expression. -/
theorem ofText?_written (parts : List Token) :
    Expression.ofText? (written parts) =
      if (parsed parts).fitsMemory then some (parsed parts) else none := by
  have hstart : TakesIn ['^'] 0 fun _ => [startItem] :=
    .step (List.cons_ne_nil _ _) fun _ _ _ _ _ _ => rfl
  have hwritten := hstart.append (takesIn_partsWritten parts) (head?_partsWritten parts)
  have hitems : ∀ item ∈ (partsItems parts 0).reverse ++ [startItem], item.depth ≤ 7 := by
    intro item hitem
    rcases List.mem_append.mp hitem with hitem | hitem
    · exact depth_partsItems parts 0 item (List.mem_reverse.mp hitem)
    · rw [List.mem_singleton.mp hitem]
      exact Nat.zero_le 7
  exact hwritten.ofText?_eq ((Expression.depth_row_le hitems).trans (by decide))

theorem groups_parsed (parts : List Token) :
    (parsed parts).groups = List.range' 1 (captures parts) := by
  rw [parsed, Expression.groups_row, map_expression_parsed, Expression.groupsOf_cons,
    groupsOf_partsItems]
  rfl

theorem reads_parsed {parts : List Token} (hone : captures parts ≤ 1) :
    (parsed parts).Reads = (regex parts).Reads := by
  have hparts : ReadsAll ((partsItems parts 0).map (·.expression)) = (partsRegex parts).Reads :=
    readsAll_partsItems (by omega)
  rw [parsed, Expression.reads_row, map_expression_parsed, Expression.readsAll_cons, hparts]
  rfl

end ImportRules.SliceGlob
