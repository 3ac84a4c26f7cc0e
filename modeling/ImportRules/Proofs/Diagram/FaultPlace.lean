import ImportRules.Proofs.Diagram.Progress
import Mathlib.Data.String.Basic
/-!
# The place of a malformed line

A malformed line is reported with its number and with the bytes that it covers, counted over the
text as it stands, while it was found malformed by its trimmed text. Both belong together: the bytes
are those of the line with that number, without its line end, and it is the first line of the text
that stands in the way of a diagram.
-/

namespace ImportRules

namespace Text

/-! ## Bytes of a text -/

theorem byteLength_eq_utf8Len (text : List Char) : byteLength text = String.utf8Len text := by
  induction text with
  | nil => rfl
  | cons c text ih => rw [byteLength, ih, String.utf8Len_cons, Nat.add_comm]

/-- A part of a text lies between two byte positions. -/
theorem extract_part (before part behind : List Char) :
    String.Pos.Raw.extract (String.ofList (before ++ part ++ behind)) ⟨byteLength before⟩
        ⟨byteLength before + byteLength part⟩ = String.ofList part := by
  rw [byteLength_eq_utf8Len, byteLength_eq_utf8Len]
  exact String.extract_of_valid before part behind

theorem extract_start (part behind : List Char) :
    String.Pos.Raw.extract (String.ofList (part ++ behind)) 0 ⟨byteLength part⟩ =
      String.ofList part := by
  have hpart := extract_part [] part behind
  rwa [byteLength, Nat.zero_add] at hpart

/-- The position behind a part of a text is one between characters. -/
theorem isValid_byteLength (before behind : List Char) :
    (⟨byteLength before⟩ : String.Pos.Raw).IsValid (String.ofList (before ++ behind)) := by
  apply String.Pos.Raw.isValid_iff_exists_append.mpr
  refine ⟨String.ofList before, String.ofList behind, String.ofList_append, ?_⟩
  rw [String.rawEndPos_ofList, byteLength_eq_utf8Len]

end Text

namespace Diagram

variable {text content : String} {number offset length : Nat} {raw : List Char}
  {above below : List (List Char)} {draft : Draft}

/-! ## The line without its line end -/

theorem exists_eq_withoutEnd_append (raw : List Char) :
    ∃ ending, raw = withoutEnd raw ++ ending := by
  obtain ⟨ending, hraw, -⟩ := Text.exists_trimEnd_append _ raw
  exact ⟨ending, hraw⟩

theorem newline_notMem_withoutEnd (hraw : Text.IsWhole raw ∨ '\n' ∉ raw) :
    '\n' ∉ withoutEnd raw := by
  intro hmem
  rcases hraw with ⟨line, hline, rfl⟩ | hraw
  · rw [withoutEnd, Text.trimEnd_concat (by decide)] at hmem
    exact hline (Text.mem_of_mem_trimEnd hmem)
  · exact hraw (Text.mem_of_mem_trimEnd hmem)

/-- Another line end does not change what is reported. -/
theorem malformedAt_withoutEnd (number offset : Nat) (raw : List Char) :
    malformedAt number offset (withoutEnd raw ++ ['\n']) = malformedAt number offset raw := by
  have hcontent : withoutEnd (withoutEnd raw ++ ['\n']) = withoutEnd raw := by
    rw [withoutEnd, Text.trimEnd_concat (by decide)]
    exact Text.trimEnd_trimEnd _ raw
  rw [malformedAt_eq, malformedAt_eq, hcontent, ← trim_withoutEnd, hcontent, trim_withoutEnd]

/-! ## The text above a malformed line -/

theorem Reaches.ne_nil (hreaches : Reaches above draft) : above ≠ [] := by
  cases hreaches <;> simp

/-- An end marker below the lines that the reader got through makes them a diagram. -/
theorem Reaches.ofText_append_end (hreaches : Reaches above draft)
    (habove : ∀ line ∈ above, Text.IsWhole line) :
    ofText (String.ofList above.flatten ++ "@enduml") = .ok draft.diagram := by
  have hmarker : Text.linesWithEnds "@enduml".toList = ["@enduml".toList] := by decide
  have hcloses : draft.effect "@enduml".toList = .closes := by
    have hend : isEnd "@enduml".toList = true := by decide
    rw [Draft.effect, if_pos hend]
  rw [ofText, String.toList_append, String.toList_ofList, Text.linesWithEnds_flatten_append habove,
    hmarker, hreaches.readLines_append, readBody_by_effect, hcloses]

/-- Below these lines, a line that fails is reported, whatever follows. -/
theorem Reaches.readLines_of_fails (hreaches : Reaches above draft)
    (hfails : draft.effect raw = .fails) (below : List (List Char)) :
    readLines 1 0 (above ++ raw :: below) =
      .error (malformedAt (above.length + 1) (Text.byteLength above.flatten) raw) := by
  rw [hreaches.readLines_append, readBody_by_effect, hfails, Nat.zero_add, Nat.add_comm 1]

theorem Reaches.ofText_append_malformed (hreaches : Reaches above draft)
    (habove : ∀ line ∈ above, Text.IsWhole line) (hfails : draft.effect raw = .fails)
    (hraw : '\n' ∉ withoutEnd raw) (rest : String) :
    ofText (String.ofList above.flatten ++ String.ofList (withoutEnd raw) ++ "\n" ++ rest) =
      .error (malformedAt (above.length + 1) (Text.byteLength above.flatten) raw) := by
  have hlines : (String.ofList above.flatten ++ String.ofList (withoutEnd raw) ++ "\n" ++
      rest).toList = above.flatten ++ (withoutEnd raw ++ '\n' :: rest.toList) := by
    simp [String.toList_append]
  -- The line fails with any line end, as it is told by its trimmed text.
  have hagain : draft.effect (withoutEnd raw ++ ['\n']) = .fails := by
    rw [← hfails]
    apply Draft.effect_congr
    rw [Text.trim_append_blank (List.forall_mem_singleton.mpr (by decide)), trim_withoutEnd]
  rw [ofText, hlines, Text.linesWithEnds_flatten_append habove, Text.linesWithEnds_append hraw,
    hreaches.readLines_of_fails hagain, malformedAt_withoutEnd]

/-- A malformed line is reported by what stands above it and by its own text. -/
theorem exists_line_of_malformed
    (herror : ofText text = .error (.malformedLine number content offset length)) :
    ∃ above raw below draft, Text.linesWithEnds text.toList = above ++ raw :: below ∧
      Reaches above draft ∧ draft.effect raw = .fails ∧ number = above.length + 1 ∧
      content = String.ofList (Text.trim raw) ∧ offset = Text.byteLength above.flatten ∧
      length = Text.byteLength (withoutEnd raw) := by
  obtain ⟨above, raw, below, draft, hlines, hreaches, hfails⟩ := exists_reaches_of_malformed herror
  refine ⟨above, raw, below, draft, hlines, hreaches, hfails, ?_⟩
  rw [ofText, hlines, hreaches.readLines_of_fails hfails, malformedAt_eq] at herror
  simpa [eq_comm] using herror

/-- The bytes reported with a malformed line are on the boundaries of characters and lie in one line
from its start: they come right behind a newline and hold none, and the number of the line counts
the newlines before it. Their trimmed text is the content reported. It is the first line that stands
in the way: the text above it is a diagram once it is closed, and with this line it is none,
whatever follows. -/
theorem ofText_malformedLine
    (herror : ofText text = .error (.malformedLine number content offset length)) :
    let start : String.Pos.Raw := ⟨offset⟩
    let stop : String.Pos.Raw := ⟨offset + length⟩
    let before := String.Pos.Raw.extract text 0 start
    let marked := String.Pos.Raw.extract text start stop
    start.IsValid text ∧ stop.IsValid text ∧
      '\n' ∉ marked.toList ∧ String.ofList (Text.trim marked.toList) = content ∧
      before.toList.getLast? = some '\n' ∧ number = before.toList.count '\n' + 1 ∧
      (∃ diagram, ofText (before ++ "@enduml") = .ok diagram) ∧
      ∀ rest, ofText (before ++ marked ++ "\n" ++ rest) =
        .error (.malformedLine number content offset length) := by
  intro start stop before marked
  obtain ⟨above, raw, below, draft, hlines, hreaches, hfails, rfl, rfl, rfl, rfl⟩ :=
    exists_line_of_malformed herror
  obtain ⟨habove, hraw⟩ := Text.isWhole_of_linesWithEnds hlines
  have hline : '\n' ∉ withoutEnd raw := newline_notMem_withoutEnd hraw
  obtain ⟨ending, hending⟩ := exists_eq_withoutEnd_append raw
  -- The text is cut on both sides of the line; its line end goes with what follows.
  have htext : text =
      String.ofList (above.flatten ++ withoutEnd raw ++ (ending ++ below.flatten)) := by
    rw [← String.toList_inj, String.toList_ofList, ← Text.flatten_linesWithEnds text.toList, hlines,
      List.flatten_append, List.flatten_cons]
    nth_rewrite 1 [hending]
    simp
  have hbefore : before = String.ofList above.flatten := by
    have hstart := Text.extract_start above.flatten (withoutEnd raw ++ (ending ++ below.flatten))
    rwa [← List.append_assoc, ← htext] at hstart
  have hmarked : marked = String.ofList (withoutEnd raw) := by
    have hpart := Text.extract_part above.flatten (withoutEnd raw) (ending ++ below.flatten)
    rwa [← htext] at hpart
  have hstart : start.IsValid text := by
    rw [htext, List.append_assoc]
    exact Text.isValid_byteLength above.flatten _
  have hstop : stop.IsValid text := by
    have hbehind := Text.isValid_byteLength (above.flatten ++ withoutEnd raw)
      (ending ++ below.flatten)
    rwa [← htext, Text.byteLength_append] at hbehind
  rw [hbefore, hmarked, String.toList_ofList, String.toList_ofList, trim_withoutEnd]
  refine ⟨hstart, hstop, hline, rfl, Text.getLast?_flatten hreaches.ne_nil habove, ?_,
    ⟨draft.diagram, hreaches.ofText_append_end habove⟩, ?_⟩
  · rw [Text.count_newline_flatten habove]
  · intro rest
    rw [hreaches.ofText_append_malformed habove hfails hline, malformedAt_eq]

/-- A line with no name behind its arrow. Two characters of two bytes each stand before its end, and
every line ends with a carriage return. -/
theorem ofText_malformedLine_behind_comment :
    let text := "@startuml\r\n' é\r\n\té ->\r\n@enduml"
    ofText text = .error (.malformedLine 3 "é ->" 17 6) ∧
      (⟨17⟩ : String.Pos.Raw).IsValid text ∧ (⟨17 + 6⟩ : String.Pos.Raw).IsValid text ∧
      '\n' ∉ (String.Pos.Raw.extract text ⟨17⟩ ⟨17 + 6⟩).toList := by
  have herror : ofText "@startuml\r\n' é\r\n\té ->\r\n@enduml" =
      .error (.malformedLine 3 "é ->" 17 6) := rfl
  obtain ⟨hstart, hstop, hline, -⟩ := ofText_malformedLine herror
  exact ⟨herror, hstart, hstop, hline⟩

end Diagram

end ImportRules
