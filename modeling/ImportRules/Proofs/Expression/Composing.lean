import ImportRules.Expression.Reader
import ImportRules.Proofs.Expression.Meaning
import Mathlib.Tactic.FinCases
/-!
# Reading an expression part by part

What a reader of expressions makes of a text can be said part by part, as long as no switch is on.
A text is taken in as some items if a reader of a group body that comes to it goes on behind it
with these items and without having looked further. Characters, sets of characters, repetitions and
groups are taken in whatever stands before and behind them; only a question mark is never free, for
behind a repetition it asks for few rounds.
-/

namespace ImportRules.Expression

open Text (CharSet)
open Reading

variable {α β : Type} {state : ReadState}

/-! ## Runs of small readers -/

theorem bind_run (reading : Reading α) (next : α → Reading β) (state : ReadState) :
    (reading >>= next) state = (reading state).bind fun (result, state) => next result state := rfl

theorem pure_run (result : α) (state : ReadState) :
    (pure result : Reading α) state = some (result, state) := rfl

theorem modify_run (change : ReadState → ReadState) (state : ReadState) :
    (modify change : Reading PUnit) state = some (⟨⟩, change state) := rfl

theorem flags_run (state : ReadState) : Reading.flags state = some (state.flags, state) := rfl

theorem peek?_run (state : ReadState) : peek? state = some (state.rest.head?, state) := rfl

theorem advance_run (state : ReadState) :
    advance state = some (⟨⟩, { state with rest := state.rest.drop 1 }) := rfl

theorem skipBlanks_run (hflags : state.flags.ignoreBlanks = false) :
    skipBlanks state = some (⟨⟩, state) := by
  rw [skipBlanks, modify_run, hflags]
  rfl

theorem accept_run_of_head {text : String} {c : Char} (htext : text.toList.head? = some c)
    (hrest : state.rest.head? ≠ some c) : accept text state = some (false, state) := by
  have hcut : text.toList.isPrefixOf? state.rest = none := by
    apply Option.eq_none_iff_forall_ne_some.mpr
    intro rest hcut
    apply hrest
    rw [← List.isPrefixOf?_eq_some_iff_append_eq.mp hcut, List.head?_append, htext]
    rfl
  have hget : (get : Reading ReadState) state = some (state, state) := rfl
  simp only [accept, bind_run, hget, Option.bind_some, hcut, pure_run]

theorem enclose_run {depths : List Nat} (hdepth : depths.foldl max 0 < maxDepth) :
    enclose depths state = some (depths.foldl max 0 + 1, state) := by
  rw [enclose, if_pos (Nat.succ_le_of_lt hdepth)]
  rfl

/-- Items in a row, latest first, as one piece. -/
def row : List Item → Piece
  | [] => { expression := .empty }
  | [item] => item.toPiece
  | items => {
      expression := sequence (items.reverse.map (·.expression))
      depth := (items.map (·.depth)).foldl max 0 + 1 }

theorem inRow_run {items : List Item} (hdepth : (row items).depth ≤ maxDepth) :
    inRow items state = some (row items, state) := by
  rcases items with _ | ⟨item, _ | ⟨second, items⟩⟩
  · rfl
  · rfl
  · rw [inRow, bind_run, enclose_run hdepth]
    · rfl
    · simp
    · simp

theorem groups_row (items : List Item) :
    (row items).expression.groups = groupsOf (items.reverse.map (·.expression)) := by
  rcases items with _ | ⟨item, _ | ⟨second, items⟩⟩
  · rfl
  · simp [row]
  · exact groups_sequence _

theorem reads_row (items : List Item) :
    (row items).expression.Reads = ReadsAll (items.reverse.map (·.expression)) := by
  rcases items with _ | ⟨item, _ | ⟨second, items⟩⟩
  · rfl
  · exact (readsAll_singleton _).symm
  · exact reads_sequence _

theorem depth_row_le {items : List Item} {depth : Nat}
    (hitems : ∀ item ∈ items, item.depth ≤ depth) : (row items).depth ≤ depth + 1 := by
  rcases items with _ | ⟨item, _ | ⟨second, items⟩⟩
  · exact Nat.zero_le _
  · exact Nat.le_succ_of_le (hitems item List.mem_cons_self)
  · refine Nat.succ_le_succ (List.foldlRecOn _ _ (motive := (· ≤ depth)) (Nat.zero_le _) ?_)
    intro reached hreached next hnext
    obtain ⟨item, hitem, rfl⟩ := List.mem_map.mp hnext
    exact max_le hreached (hitems item hitem)

/-! ## Steps of a group body -/

section Steps

variable {fuel count index : Nat} {names : List (List Char)} {items : List Item}
  {done : List Piece} {text tail : List Char} {inner : Piece} {item : Item} {c : Char}

theorem groupBody_end (htail : tail.head? = none ∨ tail.head? = some ')')
    (hdepth : (row items).depth ≤ maxDepth) :
    groupBody (fuel + 1) items [] ⟨tail, {}, count, names⟩ =
      some (row items, ⟨tail, {}, count, names⟩) := by
  have hstep : groupBody (fuel + 1) items [] ⟨tail, {}, count, names⟩ =
      (inRow items >>= fun piece => firstOf [piece]) ⟨tail, {}, count, names⟩ := by
    cases tail with
    | nil => rfl
    | cons c tail =>
        obtain rfl : c = ')' := by simpa using htail
        rfl
  rw [hstep, bind_run, inRow_run hdepth]
  rfl

theorem ofSet_single (c : Char) : ofSet (.single c) = .literal [c] := by
  simp [ofSet, CharSet.single?, CharSet.single, CharSet.range]

/-- A character that is no sign stands for itself. -/
theorem groupBody_char (hc : isMeta c = false) :
    groupBody (fuel + 1) items done ⟨c :: tail, {}, count, names⟩ =
      groupBody fuel ({ expression := .literal [c] } :: items) done
        ⟨tail, {}, count, names⟩ := by
  rw [← ofSet_single]
  rw [isMeta, List.contains_eq_mem, decide_eq_false_iff_not] at hc
  -- None of the branches for signs is taken, in the group body or below it.
  simp only [List.mem_cons, not_or] at hc
  have hprimitive : primitive ⟨c :: tail, {}, count, names⟩ =
      literalChar c false ⟨tail, {}, count, names⟩ := by
    have hcurrent : current ⟨c :: tail, {}, count, names⟩ =
        some (c, ⟨c :: tail, {}, count, names⟩) := rfl
    simp only [primitive, bind_run, flags_run, hcurrent, Option.bind_some]
    simp [hc, bind_run, advance_run]
  have hstep : groupBody (fuel + 1) items done ⟨c :: tail, {}, count, names⟩ =
      (primitive >>= fun e => groupBody fuel ({ expression := e } :: items) done)
        ⟨c :: tail, {}, count, names⟩ := by
    simp only [groupBody, bind_run, skipBlanks_run, flags_run, peek?_run, Option.bind_some,
      List.head?_cons]
    simp [hc, bind_run]
  rw [hstep, bind_run, hprimitive]
  rfl

/-- A sign behind a backslash stands for itself. -/
theorem groupBody_escaped (hc : isMeta c = true) :
    groupBody (fuel + 1) items done ⟨'\\' :: c :: tail, {}, count, names⟩ =
      groupBody fuel ({ expression := .literal [c] } :: items) done
        ⟨tail, {}, count, names⟩ := by
  rw [← ofSet_single]
  rw [isMeta, List.contains_eq_mem, decide_eq_true_iff] at hc
  fin_cases hc <;> rfl

/-- The operators of repetitions without an upper bound, with the least number of rounds. -/
inductive Repeats : Char → Nat → Prop where
  | star : Repeats '*' 0
  | plus : Repeats '+' 1

theorem groupBody_repeat {operator : Char} {least : Nat} {few : Bool}
    (hoperator : Repeats operator least) (hitem : item.repeatable = true)
    (hdepth : item.depth < maxDepth)
    (hsign : accept "?" ⟨text, {}, count, names⟩ = some (few, ⟨tail, {}, count, names⟩)) :
    groupBody (fuel + 1) (item :: items) done ⟨operator :: text, {}, count, names⟩ =
      groupBody fuel
        ({ expression := repetition item.expression least none (!few)
           depth := item.depth + 1 } :: items) done ⟨tail, {}, count, names⟩ := by
  have hdepths : [item.depth].foldl max 0 < maxDepth := by simpa using hdepth
  have hrepeat : repeatItem operator item ⟨operator :: text, {}, count, names⟩ =
      some ({ expression := repetition item.expression least none (!few)
              depth := item.depth + 1 }, ⟨tail, {}, count, names⟩) := by
    cases hoperator <;>
      simp only [repeatItem, hitem, Bool.not_true, Bool.false_eq_true, Char.reduceBEq, ↓reduceIte,
        bind_run, pure_run, advance_run, flags_run, hsign, enclose_run hdepths, Option.bind_some,
        List.drop_one, List.tail_cons, Bool.bne_false, List.foldl_cons, List.foldl_nil,
        Nat.zero_max]
  have hstep : groupBody (fuel + 1) (item :: items) done ⟨operator :: text, {}, count, names⟩ =
      (repeatItem operator item >>= fun item => groupBody fuel (item :: items) done)
        ⟨operator :: text, {}, count, names⟩ := by
    cases hoperator <;> rfl
  rw [hstep, bind_run, hrepeat, Option.bind_some]

/-- The rest of a group, behind how it starts, and of what follows the group. -/
def groupRest (fuel : Nat) (items : List Item) (done : List Piece)
    (wrap : Expression → Expression) : Reading Piece := do
  let inner ← groupBody fuel [] []
  expect ')'
  modify fun state => { state with flags := {} }
  let depth ← enclose [inner.depth]
  groupBody fuel ({ expression := wrap inner.expression, depth } :: items) done

/-- Behind the inside of a group comes its closing parenthesis, and then the reader goes on with the
group as one item. -/
theorem groupRest_run {wrap : Expression → Expression}
    (hinner : groupBody fuel [] [] ⟨text, {}, count, names⟩ =
      some (inner, ⟨')' :: tail, {}, index, names⟩)) (hdepth : inner.depth < maxDepth) :
    groupRest fuel items done wrap ⟨text, {}, count, names⟩ =
      groupBody fuel
        ({ expression := wrap inner.expression, depth := inner.depth + 1 } :: items) done
        ⟨tail, {}, index, names⟩ := by
  have hclose : expect ')' ⟨')' :: tail, {}, index, names⟩ =
      some (⟨⟩, ⟨tail, {}, index, names⟩) := rfl
  have hdepths : [inner.depth].foldl max 0 < maxDepth := by simpa using hdepth
  simp only [groupRest, bind_run, hinner, hclose, modify_run, enclose_run hdepths,
    Option.bind_some, List.foldl_cons, List.foldl_nil, Nat.zero_max]

theorem groupBody_plain :
    groupBody (fuel + 1) items done ⟨'(' :: '?' :: ':' :: text, {}, count, names⟩ =
      groupRest fuel items done id ⟨text, {}, count, names⟩ := rfl

/-- A group that does not start with a question mark gets the next number. -/
theorem groupBody_capture (htext : text.head? ≠ some '?') :
    groupBody (fuel + 1) items done ⟨'(' :: text, {}, count, names⟩ =
      groupRest fuel items done (.group (count + 1)) ⟨text, {}, count + 1, names⟩ := by
  have hhead : groupHead ⟨text, {}, count, names⟩ =
      some (.capture (count + 1), ⟨text, {}, count + 1, names⟩) := by
    have hnone : ∀ sign : String, sign.toList.head? = some '?' →
        accept sign ⟨text, {}, count, names⟩ = some (false, ⟨text, {}, count, names⟩) :=
      fun sign hsign => accept_run_of_head hsign htext
    have hblanks : skipBlanks ⟨text, {}, count, names⟩ =
        some (⟨⟩, ⟨text, {}, count, names⟩) := skipBlanks_run rfl
    simp only [groupHead, bind_run, hblanks, hnone "?=" rfl, hnone "?!" rfl, hnone "?<=" rfl,
      hnone "?<!" rfl, hnone "?P<" rfl, hnone "?<" rfl, hnone "?" rfl, Option.bind_some,
      Bool.or_false, Bool.false_eq_true, ↓reduceIte]
    rfl
  simp only [groupBody, bind_run, skipBlanks_run, flags_run, peek?_run, advance_run,
    Option.bind_some, List.head?_cons, List.drop_one, List.tail_cons, hhead]
  rfl

end Steps

/-! ## Texts that are taken in -/

/-- A repetition of an item without an upper bound. -/
def Item.rounds (item : Item) (least : Nat) (greedy : Bool) : Item where
  expression := repetition item.expression least none greedy
  depth := item.depth + 1

/-- Items in a row, latest first, as one item. -/
def Item.enclosing (wrap : Expression → Expression) (items : List Item) : Item where
  expression := wrap (row items).expression
  depth := (row items).depth + 1

theorem exists_escaped_eq_cons (c : Char) :
    ∃ first more, escaped c = first :: more ∧ first ≠ '?' := by
  rw [escaped]
  by_cases hc : isMeta c = true
  · rw [if_pos hc]
    exact ⟨'\\', [c], rfl, by decide⟩
  · rw [if_neg hc]
    refine ⟨c, [], rfl, ?_⟩
    rintro rfl
    exact hc rfl

/-- Wherever the text comes next, a group body takes it in as the given items, latest first. The
text opens as many groups as said, and the items depend on the number of groups before them. If the
fuel was enough for the text and what follows, what is left of it is enough for what follows. -/
def TakesIn (text : List Char) (opened : Nat) (read : Nat → List Item) : Prop :=
  ∀ fuel items done tail count names, tail.head? ≠ some '?' → (text ++ tail).length < fuel →
    ∃ fuel', tail.length < fuel' ∧
      groupBody fuel items done ⟨text ++ tail, {}, count, names⟩ =
        groupBody fuel' (read count ++ items) done ⟨tail, {}, count + opened, names⟩

/-- The items of one text behind those of another that comes before it. -/
def behind (opened : Nat) (read next : Nat → List Item) (count : Nat) : List Item :=
  next (count + opened) ++ read count

namespace TakesIn

variable {text more : List Char} {opened opened' : Nat} {read next : Nat → List Item}

theorem nil : TakesIn [] 0 fun _ => [] := by
  intro fuel items done tail count names htail hfuel
  exact ⟨fuel, hfuel, rfl⟩

theorem append (htext : TakesIn text opened read) (hmore : TakesIn more opened' next)
    (hhead : more.head? ≠ some '?') :
    TakesIn (text ++ more) (opened + opened') (behind opened read next) := by
  intro fuel items done tail count names htail hfuel
  have hnext : (more ++ tail).head? ≠ some '?' := by
    cases more with
    | nil => exact htail
    | cons c more => exact hhead
  rw [List.append_assoc] at hfuel ⊢
  obtain ⟨middle, hmiddle, hfirst⟩ := htext fuel items done _ count names hnext hfuel
  obtain ⟨rest, hrest, hsecond⟩ := hmore middle _ done tail _ names htail hmiddle
  refine ⟨rest, hrest, ?_⟩
  rw [hfirst, hsecond, behind, List.append_assoc, Nat.add_assoc]

/-- A text that is read in one step. -/
theorem step {item : Item} (htext : text ≠ [])
    (hstep : ∀ fuel items done tail count names,
      groupBody (fuel + 1) items done ⟨text ++ tail, {}, count, names⟩ =
        groupBody fuel (item :: items) done ⟨tail, {}, count, names⟩) :
    TakesIn text 0 fun _ => [item] := by
  intro fuel items done tail count names htail hfuel
  have hlength := List.length_pos_iff.mpr htext
  rw [List.length_append] at hfuel
  obtain ⟨fuel, rfl⟩ := Nat.exists_eq_succ_of_ne_zero (Nat.ne_zero_of_lt hfuel)
  exact ⟨fuel, by omega, hstep fuel items done tail count names⟩

theorem char (c : Char) : TakesIn (escaped c) 0 fun _ => [{ expression := .literal [c] }] := by
  rw [escaped]
  by_cases hc : isMeta c = true
  · rw [if_pos hc]
    exact step (List.cons_ne_nil _ _) fun _ _ _ _ _ _ => groupBody_escaped hc
  · rw [if_neg hc]
    exact step (List.cons_ne_nil _ _) fun _ _ _ _ _ _ =>
      groupBody_char (Bool.eq_false_iff.mpr hc)

/-! ### Repetitions -/

section Rounds

variable {item : Nat → Item} {operator : Char} {least : Nat}

theorem rounds_of_sign (few : Bool) (sign : List Char)
    (htext : TakesIn text opened fun count => [item count])
    (hitem : ∀ count, (item count).repeatable = true)
    (hdepth : ∀ count, (item count).depth < maxDepth) (hoperator : Repeats operator least)
    (hsign : ∀ tail count names, tail.head? ≠ some '?' →
      accept "?" ⟨sign ++ tail, {}, count, names⟩ = some (few, ⟨tail, {}, count, names⟩)) :
    TakesIn (text ++ operator :: sign) opened fun count => [(item count).rounds least !few] := by
  intro fuel items done tail count names htail hfuel
  have hnext : (operator :: sign ++ tail).head? ≠ some '?' := by
    cases hoperator <;> simp
  rw [List.append_assoc] at hfuel ⊢
  obtain ⟨middle, hmiddle, hfirst⟩ := htext fuel items done _ count names hnext hfuel
  obtain ⟨rest, rfl⟩ := Nat.exists_eq_succ_of_ne_zero (Nat.ne_zero_of_lt hmiddle)
  refine ⟨rest, ?_, ?_⟩
  · simp only [List.cons_append, List.length_cons, List.length_append] at hmiddle
    omega
  · rw [hfirst]
    exact groupBody_repeat hoperator (hitem count) (hdepth count) (hsign tail _ names htail)

/-- An operator behind an item asks for as many rounds as possible. -/
theorem greedyRounds (htext : TakesIn text opened fun count => [item count])
    (hitem : ∀ count, (item count).repeatable = true)
    (hdepth : ∀ count, (item count).depth < maxDepth) (hoperator : Repeats operator least) :
    TakesIn (text ++ [operator]) opened fun count => [(item count).rounds least true] :=
  htext.rounds_of_sign false [] hitem hdepth hoperator fun _ _ _ htail =>
    accept_run_of_head rfl htail

/-- With a question mark behind it, it asks for as few as possible. -/
theorem lazyRounds (htext : TakesIn text opened fun count => [item count])
    (hitem : ∀ count, (item count).repeatable = true)
    (hdepth : ∀ count, (item count).depth < maxDepth) (hoperator : Repeats operator least) :
    TakesIn (text ++ [operator, '?']) opened fun count => [(item count).rounds least false] :=
  htext.rounds_of_sign true ['?'] hitem hdepth hoperator fun _ _ _ _ => rfl

end Rounds

/-! ### Groups -/

section Groups

variable (htext : TakesIn text opened read)
include htext

theorem groupRest_enclosing {wrap : Expression → Expression} {fuel count : Nat}
    {items : List Item} {done : List Piece} {tail : List Char} {names : List (List Char)}
    (hdepth : (row (read count)).depth < maxDepth)
    (hfuel : (text ++ ')' :: tail).length < fuel) :
    groupRest fuel items done wrap ⟨text ++ ')' :: tail, {}, count, names⟩ =
      groupBody fuel (.enclosing wrap (read count) :: items) done
        ⟨tail, {}, count + opened, names⟩ := by
  obtain ⟨middle, hmiddle, hinner⟩ := htext fuel [] [] (')' :: tail) count names (by simp) hfuel
  obtain ⟨rest, rfl⟩ := Nat.exists_eq_succ_of_ne_zero (Nat.ne_zero_of_lt hmiddle)
  rw [List.append_nil, groupBody_end (.inr rfl) hdepth.le] at hinner
  exact groupRest_run hinner hdepth

theorem capture (hhead : text.head? ≠ some '?')
    (hdepth : ∀ count, (row (read count)).depth < maxDepth) :
    TakesIn ('(' :: text ++ [')']) (opened + 1) fun count =>
      [.enclosing (.group (count + 1)) (read (count + 1))] := by
  intro fuel items done tail count names htail hfuel
  have hnext : (text ++ ')' :: tail).head? ≠ some '?' := by
    cases text with
    | nil => simp
    | cons c text => exact hhead
  obtain ⟨fuel, rfl⟩ := Nat.exists_eq_succ_of_ne_zero (Nat.ne_zero_of_lt hfuel)
  rw [List.append_assoc, List.cons_append, List.singleton_append] at hfuel ⊢
  rw [List.length_cons, Nat.succ_lt_succ_iff] at hfuel
  refine ⟨fuel, ?_, ?_⟩
  · rw [List.length_append, List.length_cons] at hfuel
    omega
  · rw [groupBody_capture hnext, htext.groupRest_enclosing (hdepth (count + 1)) hfuel,
      Nat.add_right_comm, Nat.add_assoc]
    rfl

theorem plain (hdepth : ∀ count, (row (read count)).depth < maxDepth) :
    TakesIn ('(' :: '?' :: ':' :: text ++ [')']) opened fun count =>
      [.enclosing id (read count)] := by
  intro fuel items done tail count names htail hfuel
  obtain ⟨fuel, rfl⟩ := Nat.exists_eq_succ_of_ne_zero (Nat.ne_zero_of_lt hfuel)
  simp only [List.append_assoc, List.cons_append, List.nil_append, List.length_cons,
    Nat.succ_lt_succ_iff] at hfuel ⊢
  have hfuel' : (text ++ ')' :: tail).length < fuel := by omega
  refine ⟨fuel, ?_, ?_⟩
  · rw [List.length_append, List.length_cons] at hfuel'
    omega
  · rw [groupBody_plain, htext.groupRest_enclosing (hdepth count) hfuel']

/-- A text that is taken in is an expression, unless it stands for too large a machine. -/
theorem ofText?_eq (hdepth : (row (read 0)).depth ≤ maxDepth) :
    ofText? text =
      if (row (read 0)).expression.fitsMemory then some (row (read 0)).expression else none := by
  obtain ⟨rest, hrest, hread⟩ := htext (text.length + 1) [] [] [] 0 [] (by simp) (by simp)
  obtain ⟨rest, rfl⟩ := Nat.exists_eq_succ_of_ne_zero (Nat.ne_zero_of_lt hrest)
  rw [List.append_nil, List.append_nil, groupBody_end (.inl rfl) hdepth] at hread
  rw [ofText?, StateT.run, hread]
  rfl

end Groups

end TakesIn

end ImportRules.Expression
