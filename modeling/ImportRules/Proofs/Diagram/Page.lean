import ImportRules.Proofs.Diagram.RoundTrip
/-!
# One line of a text

A page is a text with a place for one more line. What the whole text is read as depends on that line
only by what the line itself is read as: its number, its place and its spelling show in errors and
nowhere else.
-/

namespace ImportRules.Diagram

variable {raw raw' line line' : List Char}

/-- Two lines that do the same, whatever an error tells of them. -/
abbrev SameMeaning : List Char → List Char → Prop :=
  Alike fun _ => ()

theorem SameMeaning.refl (raw : List Char) : SameMeaning raw raw :=
  ⟨rfl, fun _ => rfl, fun _ _ _ _ => rfl⟩

theorem sameMeaning_of_opens (hopens : Opens (Text.trim raw)) (hopens' : Opens (Text.trim raw'))
    (hline : readLine (Text.trim raw) = readLine (Text.trim raw')) : SameMeaning raw raw' where
  start := hopens.kinds.1.trans hopens'.kinds.1.symm
  effect draft := by rw [hopens.effect_eq, hopens'.effect_eq, hline]
  fault _ _ _ _ := rfl

theorem toOption_mapError {ε ζ α : Type} (f : ε → ζ) (result : Except ε α) :
    (result.mapError f).toOption = result.toOption := by
  cases result <;> rfl

/-! ## Pages -/

/-- A text with a place for one more line: the lines above it, and what follows its line end, if it
has one. -/
structure Page where
  above : List (List Char)
  below? : Option (List Char)
  oneLine : ∀ line ∈ above, '\n' ∉ line

namespace Page

/-- The text with a line in its place. -/
def text (page : Page) (line : List Char) : String :=
  String.ofList (page.above.flatMap (· ++ ['\n']) ++ (line ++
    match page.below? with
    | none => []
    | some rest => '\n' :: rest))

theorem exists_linesWithEnds_text (page : Page) :
    ∃ ending below, (∀ c ∈ ending, Text.isBlank c = true) ∧
      ∀ line, line ≠ [] → '\n' ∉ line →
        Text.linesWithEnds (page.text line).toList =
          page.above.map (· ++ ['\n']) ++ (line ++ ending) :: below := by
  cases hbelow : page.below? with
  | none =>
      refine ⟨[], [], by simp, ?_⟩
      intro line hne hline
      rw [text, String.toList_ofList, hbelow, Text.linesWithEnds_flatMap page.oneLine,
        List.append_nil, Text.linesWithEnds_of_notMem hne hline]
  | some rest =>
      refine ⟨['\n'], Text.linesWithEnds rest, List.forall_mem_singleton.mpr (by decide), ?_⟩
      intro line _ hline
      rw [text, String.toList_ofList, hbelow, Text.linesWithEnds_flatMap page.oneLine,
        Text.linesWithEnds_append hline]

/-- A line of a page may be replaced by another one with the same meaning. -/
theorem toOption_ofText_text (page : Page) (hne : line ≠ []) (hne' : line' ≠ [])
    (hline : '\n' ∉ line) (hline' : '\n' ∉ line')
    (hsame : ∀ ending, (∀ c ∈ ending, Text.isBlank c = true) →
      SameMeaning (line ++ ending) (line' ++ ending)) :
    (ofText (page.text line)).toOption = (ofText (page.text line')).toOption := by
  obtain ⟨ending, below, hending, hlines⟩ := page.exists_linesWithEnds_text
  have hrefl : ∀ others : List (List Char), List.Forall₂ SameMeaning others others :=
    fun others => List.forall₂_same.mpr fun raw _ => .refl raw
  have hall := List.rel_append (hrefl (page.above.map (· ++ ['\n'])))
    (.cons (hsame ending hending) (hrefl below))
  have hread := congrArg Except.toOption (Alike.readLines_eq hall 1 0 1 0)
  rw [toOption_mapError, toOption_mapError] at hread
  rw [ofText, ofText, hlines line hne hline, hlines line' hne' hline', hread]

/-- The page of a diagram that has no other line. -/
def blank : Page :=
  ⟨["@startuml".toList], some "@enduml".toList, List.forall_mem_singleton.mpr (by decide)⟩

theorem ofText_text_blank {draft : Draft} (hline : '\n' ∉ line)
    (hopens : Opens (Text.trim (line ++ ['\n'])))
    (hadd : ({} : Draft).add (readLine (Text.trim (line ++ ['\n']))) = some draft) :
    ofText (blank.text line) = .ok draft.diagram := by
  have hmarker : '\n' ∉ "@startuml".toList := by decide
  have htext : (blank.text line).toList = "@startuml".toList ++ '\n' :: (line ++ '\n' ::
      ("@enduml".toList ++ [])) := by
    rw [text, String.toList_ofList, List.append_nil]
    simp [blank]
  rw [ofText, htext, Text.linesWithEnds_append hmarker, Text.linesWithEnds_append hline,
    readLines_start, readBody_cons hopens hadd, readBody_end]

end Page

end ImportRules.Diagram
