import ImportRules.Filter
import ImportRules.Proofs.Glob.Meaning
import ImportRules.Proofs.PathSegments
/-!
# Globs of single wildcards, segment by segment

A glob without brackets and without `**` is read character by character and is never refused. It
accepts a text exactly if both have equally many segments and each segment of the glob, taken as a
glob of its own, accepts the segment of the text in its place. Within a segment `*` stands for any
run of characters and `?` for any one character.
-/

namespace ImportRules.Glob

variable {pattern text : List Char} {c : Char}

/-! ## Reading -/

/-- The token that a character is read as, outside brackets and unless it is one of two stars. -/
def Token.ofChar : Char → Token
  | '?' => .anyChar
  | '*' => .anyRun
  | c => .char c

theorem Token.ofChar_of_ne (hone : c ≠ '?') (hrun : c ≠ '*') : Token.ofChar c = .char c := by
  unfold Token.ofChar
  split
  · exact absurd rfl hone
  · exact absurd rfl hrun
  · rfl

theorem Token.ofChar_eq_slash_iff : Token.ofChar c = .char '/' ↔ c = '/' := by
  unfold Token.ofChar
  split <;> simp

theorem Token.ofChar_ne_anyPath (c : Char) : Token.ofChar c ≠ .anyPath := by
  unfold Token.ofChar
  split <;> simp

theorem readTokens_cons {rest : List Char} (hbracket : c ≠ '[') (hstars : ¬['*', '*'] <+: c :: rest)
    (position : Nat) (last : Option Char) (done : List Token) :
    readTokens position last done (c :: rest) =
      readTokens (position + 1) (some c) (Token.ofChar c :: done) rest := by
  by_cases hone : c = '?'
  · subst hone
    rw [readTokens]
    rfl
  by_cases hrun : c = '*'
  · subst hrun
    have hnext : ∀ rest', rest = '*' :: rest' → False := by
      intro rest' hrest
      apply hstars
      rw [hrest]
      exact List.prefix_append ['*', '*'] rest'
    rw [readTokens]
    · rfl
    · exact fun rest' hrest => hnext _ hrest
    · exact hnext
  · rw [Token.ofChar_of_ne hone hrun, readTokens]
    all_goals simp_all

/-- Where no bracket and no two stars begin, every character is read as a token. -/
theorem readTokens_append {front rest : List Char} (hbracket : '[' ∉ front)
    (hstars : ∀ behind, behind <:+ front → behind ≠ [] → ¬['*', '*'] <+: behind ++ rest)
    (position : Nat) (last : Option Char) (done : List Token) :
    readTokens position last done (front ++ rest) =
      readTokens (position + front.length) (front.getLast?.or last)
        ((front.map Token.ofChar).reverse ++ done) rest := by
  induction front generalizing position last done with
  | nil => rfl
  | cons c front ih =>
      obtain ⟨hc, hfront⟩ := not_or.mp (mt List.mem_cons.mpr hbracket)
      have hlater : ∀ behind, behind <:+ front → behind ≠ [] → ¬['*', '*'] <+: behind ++ rest := by
        intro behind hbehind
        exact hstars behind (hbehind.trans (List.suffix_cons c front))
      have hlast : (c :: front).getLast?.or last = front.getLast?.or (some c) := by
        rw [List.getLast?_cons]
        cases front.getLast? <;> rfl
      have hpair : ¬['*', '*'] <+: c :: (front ++ rest) :=
        hstars (c :: front) (List.suffix_refl _) (List.cons_ne_nil c front)
      rw [List.cons_append, readTokens_cons (Ne.symm hc) hpair, ih hfront hlater, hlast,
        List.map_cons, List.reverse_cons, List.append_assoc, List.length_cons, Nat.add_assoc,
        Nat.add_comm 1]
      rfl

/-- The glob that a pattern is read as if each of its characters is a token. -/
def charwise (pattern : String) : Glob :=
  ⟨pattern, pattern.toList.map Token.ofChar⟩

theorem readGlob_eq_charwise {pattern : String} (hne : pattern ≠ "")
    (hstars : ¬['*', '*'] <:+: pattern.toList) (hbracket : '[' ∉ pattern.toList) :
    Pattern.readGlob pattern = .ok (charwise pattern) := by
  have hread : readTokens 0 none [] pattern.toList = .ok (pattern.toList.map Token.ofChar) := by
    have hpairs : ∀ behind, behind <:+ pattern.toList → behind ≠ [] →
        ¬['*', '*'] <+: behind ++ [] := by
      intro behind hbehind _ hbegins
      rw [List.append_nil] at hbegins
      exact hstars (hbegins.isInfix.trans hbehind.isInfix)
    have happend := readTokens_append hbracket hpairs 0 none []
    rw [List.append_nil, List.append_nil] at happend
    rw [happend, readTokens, List.reverse_reverse]
  have hempty : pattern.isEmpty = false := by simpa using hne
  rw [Pattern.readGlob, hempty, Glob.ofText, hread]
  rfl

/-! ## Segments -/

theorem slash_mem_map_ofChar : .char '/' ∈ pattern.map Token.ofChar ↔ '/' ∈ pattern := by
  simp [Token.ofChar_eq_slash_iff]

/-- Two relations that agree on the parts relate them to the same lists. -/
theorem forall₂_congr_left {α β : Type} {Q S : α → β → Prop} {parts : List α} {entries : List β}
    (hagree : ∀ part ∈ parts, ∀ entry, Q part entry ↔ S part entry) :
    List.Forall₂ Q parts entries ↔ List.Forall₂ S parts entries := by
  constructor
  · intro hforall
    apply ((List.forall₂_and_left parts entries).mpr ⟨hagree, hforall⟩).imp
    exact fun part entry hboth => (hboth.1 entry).mp hboth.2
  · intro hforall
    apply ((List.forall₂_and_left parts entries).mpr ⟨hagree, hforall⟩).imp
    exact fun part entry hboth => (hboth.1 entry).mpr hboth.2

/-- Read character by character, a glob describes a text segment by segment. -/
theorem describes_iff_segments :
    Describes (pattern.map Token.ofChar) text ↔
      List.Forall₂ (fun part piece => Describes (part.map Token.ofChar) piece)
        (pattern.splitOn '/') (text.splitOn '/') := by
  induction pattern using Text.cut_induction '/' generalizing text with
  | whole pattern hpattern =>
      rw [List.splitOn_eq_singleton hpattern, Text.forall₂_splitOn_singleton]
      constructor
      · intro hdescribes
        have hslash : .char '/' ∉ pattern.map Token.ofChar := mt slash_mem_map_ofChar.mp hpattern
        exact ⟨slash_notMem_of_describes hslash hdescribes, hdescribes⟩
      · exact And.right
  | cut front back hfront ih =>
      have hslash : .char '/' ∉ front.map Token.ofChar := mt slash_mem_map_ofChar.mp hfront
      rw [List.splitOn_append_cons_self_of_not_mem hfront,
        Text.forall₂_splitOn_cons (List.splitOn_ne_nil '/' back), List.map_append, List.map_cons,
        show Token.ofChar '/' = .char '/' from rfl, describes_append_slash hslash]
      simp only [ih]

/-- The characters of a pattern stand for the text: `*` for any run of characters, `?` for any one
character and every other character for itself. -/
inductive Spells : List Char → List Char → Prop
  | nil : Spells [] []
  | run {pattern text : List Char} (run : List Char) (hrest : Spells pattern text) :
      Spells ('*' :: pattern) (run ++ text)
  | one {pattern text : List Char} (c : Char) (hrest : Spells pattern text) :
      Spells ('?' :: pattern) (c :: text)
  | char {pattern text : List Char} {c : Char} (hone : c ≠ '?') (hrun : c ≠ '*')
      (hrest : Spells pattern text) :
      Spells (c :: pattern) (c :: text)

theorem Spells.describes (hspells : Spells pattern text) (htext : '/' ∉ text) :
    Describes (pattern.map Token.ofChar) text := by
  induction hspells with
  | nil => rfl
  | run run hrest ih =>
      obtain ⟨hrun, htext⟩ := not_or.mp (mt List.mem_append.mpr htext)
      exact ⟨run, _, rfl, hrun, ih htext⟩
  | one c hrest ih =>
      obtain ⟨hc, htext⟩ := not_or.mp (mt List.mem_cons.mpr htext)
      exact ⟨c, _, rfl, by simpa [Token.ofChar, Token.accepts] using Ne.symm hc, ih htext⟩
  | @char pattern text c hone hrun hrest ih =>
      obtain ⟨-, htext⟩ := not_or.mp (mt List.mem_cons.mpr htext)
      rw [List.map_cons, Token.ofChar_of_ne hone hrun]
      exact ⟨c, text, rfl, by simp [Token.accepts], ih htext⟩

theorem spells_of_describes (hdescribes : Describes (pattern.map Token.ofChar) text) :
    Spells pattern text := by
  induction pattern generalizing text with
  | nil =>
      rw [show text = [] from hdescribes]
      exact .nil
  | cons c pattern ih =>
      by_cases hrun : c = '*'
      · subst hrun
        obtain ⟨run, later, rfl, -, hlater⟩ := hdescribes
        exact .run run (ih hlater)
      by_cases hone : c = '?'
      · subst hone
        obtain ⟨c, later, rfl, -, hlater⟩ := hdescribes
        exact .one c (ih hlater)
      · rw [List.map_cons, Token.ofChar_of_ne hone hrun] at hdescribes
        obtain ⟨d, later, rfl, hd, hlater⟩ := hdescribes
        obtain rfl : d = c := by simpa [Token.accepts] using hd
        exact .char hone hrun (ih hlater)

/-! ## Globs of their own -/

theorem isMatch_charwise {pattern : String} (hstars : ¬['*', '*'] <:+: pattern.toList)
    (text : String) :
    (charwise pattern).isMatch text = true ↔
      Describes (pattern.toList.map Token.ofChar) text.toList := by
  have hpath : .anyPath ∉ pattern.toList.map Token.ofChar := by
    simp [Token.ofChar_ne_anyPath]
  have hdirectory : directoryOf? pattern.toList = none := by
    have hsuffix : ['/', '*', '*'].isSuffixOf? pattern.toList = none := by
      rw [Option.eq_none_iff_forall_ne_some]
      intro front hfront
      rw [List.isSuffixOf?_eq_some_iff_append_eq] at hfront
      apply hstars
      exact ⟨front ++ ['/'], [], by simpa using hfront⟩
    rw [directoryOf?, hsuffix]
  rw [← (decides_matchTokens hpath).accept_iff]
  simp [isMatch, charwise, hdirectory]

/-- A segment of a glob, taken as a glob of its own, accepts a segment of a text. An empty segment,
which is no glob, stands for itself. -/
def SegmentFits (part piece : String) : Prop :=
  if part = "" then piece = ""
  else ∃ glob, Pattern.readGlob part = .ok glob ∧ glob.isMatch piece = true

theorem segmentFits_iff {part piece : String} (hstars : ¬['*', '*'] <:+: part.toList)
    (hbracket : '[' ∉ part.toList) :
    SegmentFits part piece ↔ Describes (part.toList.map Token.ofChar) piece.toList := by
  unfold SegmentFits
  split
  next hempty =>
    rw [hempty]
    exact String.toList_eq_nil_iff.symm
  next hne =>
    rw [readGlob_eq_charwise hne hstars hbracket]
    simp [isMatch_charwise hstars]

/-- A non-empty pattern without brackets and `**` is a glob. It accepts a text exactly if the text
has as many segments and each of them is accepted by the segment of the pattern in its place, as a
glob of its own: with `*` for any run, `?` for any one character. -/
theorem isMatch_by_segments (pattern : String) (hne : pattern ≠ "")
    (hstars : ¬['*', '*'] <:+: pattern.toList) (hbracket : '[' ∉ pattern.toList) :
    ∃ glob, Pattern.readGlob pattern = .ok glob ∧
      (∀ text, glob.isMatch text = true ↔
        List.Forall₂ SegmentFits (UnitPath.segments pattern) (UnitPath.segments text)) ∧
      ∀ part ∈ UnitPath.segments pattern, ∀ piece : String, '/' ∉ piece.toList →
        (SegmentFits part piece ↔ Spells part.toList piece.toList) := by
  have hparts : ∀ part ∈ UnitPath.segments pattern, ∀ piece : String,
      SegmentFits part piece ↔ Describes (part.toList.map Token.ofChar) piece.toList := by
    intro part hpart piece
    obtain ⟨chars, hchars, rfl⟩ := List.mem_map.mp hpart
    have hwithin := Text.infix_of_mem_splitOn hchars
    rw [← String.toList_ofList (l := chars)] at hwithin
    apply segmentFits_iff
    · exact fun hpair => hstars (hpair.trans hwithin)
    · exact fun hmem => hbracket (hwithin.subset hmem)
  refine ⟨charwise pattern, readGlob_eq_charwise hne hstars hbracket, ?_, ?_⟩
  · intro text
    rw [isMatch_charwise hstars, describes_iff_segments, forall₂_congr_left hparts,
      UnitPath.segments, UnitPath.segments, Text.pieces, Text.pieces, List.forall₂_map_left_iff,
      List.forall₂_map_right_iff]
    simp only [String.toList_ofList]
  · intro part hpart piece hpiece
    rw [hparts part hpart piece]
    exact ⟨spells_of_describes, fun hspells => hspells.describes hpiece⟩

/-- A star stays within the file name, and a question mark takes one character. -/
theorem isMatch_by_segments_file_name :
    "v?/*.ts" ≠ "" ∧ ¬['*', '*'] <:+: "v?/*.ts".toList ∧ '[' ∉ "v?/*.ts".toList ∧
      ∃ glob, Pattern.readGlob "v?/*.ts" = .ok glob ∧ glob.isMatch "v1/a.ts" = true ∧
        glob.isMatch "v1/x/a.ts" = false := by
  have hne : "v?/*.ts" ≠ "" := by decide
  have hstars : ¬['*', '*'] <:+: "v?/*.ts".toList := by decide
  have hbracket : '[' ∉ "v?/*.ts".toList := by decide
  have hsegments : UnitPath.segments "v?/*.ts" = ["v?", "*.ts"] := by decide
  obtain ⟨glob, hread, hmatch, hspells⟩ := isMatch_by_segments "v?/*.ts" hne hstars hbracket
  rw [hsegments] at hmatch hspells
  refine ⟨hne, hstars, hbracket, glob, hread, ?_, ?_⟩
  · rw [hmatch, show UnitPath.segments "v1/a.ts" = ["v1", "a.ts"] by decide]
    refine .cons ?_ (.cons ?_ .nil)
    · rw [hspells "v?" (by simp) "v1" (by decide)]
      exact .char (by decide) (by decide) (.one '1' .nil)
    · rw [hspells "*.ts" (by simp) "a.ts" (by decide)]
      exact .run ['a'] (.char (by decide) (by decide) (.char (by decide) (by decide)
        (.char (by decide) (by decide) .nil)))
  · rw [Bool.eq_false_iff, ne_eq, hmatch]
    intro hforall
    exact absurd hforall.length_eq (by decide)

end ImportRules.Glob
