import ImportRules.Proofs.Glob.Segments
import Mathlib.Data.List.DropRight
/-!
# Globs of directories

A path without wildcards and a final `/**` is always a glob. It accepts what lies below the
directory that the path names: the texts that go on with a slash behind the path without its final
slashes. A directory is not below itself, and neither is anything whose name merely begins like it.
-/

namespace ImportRules.Glob

variable {path text : List Char} {tokens : List Token}

/-- The characters that are wildcards or open a bracket. -/
def wildcards : List Char :=
  ['*', '?', '[']

/-! ## Reading -/

theorem map_ofChar_of_plain (hplain : ∀ c ∈ path, c ∉ wildcards) :
    path.map Token.ofChar = path.map .char := by
  apply List.map_congr_left
  intro c hc
  have hwild := hplain c hc
  simp only [wildcards, List.mem_cons, List.not_mem_nil, or_false, not_or] at hwild
  exact Token.ofChar_of_ne hwild.2.1 hwild.1

theorem readTokens_directory (hplain : ∀ c ∈ path, c ∉ wildcards) :
    readTokens 0 none [] (path ++ ['/', '*', '*']) =
      .ok ((path ++ ['/']).map .char ++ [.anyPath]) := by
  have hfront : ∀ c ∈ path ++ ['/'], c ∉ wildcards := by
    intro c hc
    rcases List.mem_append.mp hc with hc | hc
    · exact hplain c hc
    · rw [List.mem_singleton.mp hc]
      decide
  have hbracket : '[' ∉ path ++ ['/'] := fun hmem => hfront '[' hmem (by decide)
  have hpairs : ∀ behind, behind <:+ path ++ ['/'] → behind ≠ [] →
      ¬['*', '*'] <+: behind ++ ['*', '*'] := by
    intro behind hbehind hne hbegins
    cases behind with
    | nil => exact hne rfl
    | cons c behind =>
        obtain ⟨rfl, -⟩ := List.cons_prefix_cons.mp hbegins
        exact hfront '*' (hbehind.subset List.mem_cons_self) (by decide)
  have happend := readTokens_append hbracket hpairs 0 none []
  rw [List.append_assoc, map_ofChar_of_plain hfront, List.append_nil,
    List.getLast?_concat] at happend
  have hdone : addAnyPath ((path ++ ['/']).map Token.char).reverse =
      .anyPath :: ((path ++ ['/']).map Token.char).reverse := by
    rw [List.map_append, List.reverse_append]
    rfl
  refine happend.trans ?_
  rw [readTokens, if_pos (by simp), hdone, List.reverse_cons, List.reverse_reverse]

/-! ## Matching -/

/-- Plain characters take the beginning of a text, and the rest of the glob takes the rest. -/
theorem matchTokens_char_append :
    matchTokens (path.map .char ++ tokens) text = .accept ↔
      ∃ later, text = path ++ later ∧ matchTokens tokens later = .accept := by
  induction path generalizing text with
  | nil => simp
  | cons c path ih =>
      cases text with
      | nil => simp [matchTokens]
      | cons d text =>
          by_cases hd : d = c
          · subst hd
            simp [matchTokens, Token.accepts, ih]
          · simp [matchTokens, Token.accepts, hd]

theorem growPath_accept (text : List Char) : growPath (matchTokens []) text = .accept := by
  induction text with
  | nil => rfl
  | cons c text ih =>
      unfold growPath
      split
      · rw [ih]
        cases text <;> rfl
      · exact ih

/-- A final segment wildcard accepts whatever is left. -/
theorem matchTokens_anyPath (text : List Char) : matchTokens [.anyPath] text = .accept := by
  rw [matchTokens, growPath_accept]
  cases text <;> rfl

theorem matchTokens_directory :
    matchTokens (path.map .char ++ [.anyPath]) text = .accept ↔ path <+: text := by
  rw [matchTokens_char_append]
  simp only [matchTokens_anyPath, and_true]
  exact ⟨fun ⟨later, hlater⟩ => ⟨later, hlater.symm⟩, fun ⟨later, hlater⟩ => ⟨later, hlater.symm⟩⟩

/-- The directory that a path names: the path without its final slashes. -/
def directoryName (path : List Char) : List Char :=
  path.rdropWhile (· == '/')

theorem directoryOf?_eq_directoryName (hplain : ∀ c ∈ path, c ∉ wildcards) :
    directoryOf? (path ++ ['/', '*', '*']) = some (directoryName path) := by
  have hsuffix : ['/', '*', '*'].isSuffixOf? (path ++ ['/', '*', '*']) = some path := by
    rw [List.isSuffixOf?_eq_some_iff_append_eq]
  have hkept : directoryName path <+: path := List.rdropWhile_prefix _ path
  have hwild : ((directoryName path).any fun c => c == '*' || c == '?' || c == '[') = false := by
    rw [List.any_eq_false]
    intro c hc
    simpa [wildcards, and_assoc] using hplain c (hkept.subset hc)
  rw [directoryOf?, hsuffix]
  exact if_neg (Bool.eq_false_iff.mp hwild)

/-- What begins with a path and a slash begins with the directory and a slash. -/
theorem begins_with_directoryName (path : List Char) :
    directoryName path ++ ['/'] <+: path ++ ['/'] := by
  have hcut : directoryName path ++ path.rtakeWhile (· == '/') = path :=
    List.rdropWhile_append_rtakeWhile
  cases hslashes : path.rtakeWhile (· == '/') with
  | nil =>
      rw [hslashes, List.append_nil] at hcut
      rw [hcut]
  | cons c slashes =>
      have hmem : c ∈ path.rtakeWhile (· == '/') := hslashes ▸ List.mem_cons_self
      have hslash : (c == '/') = true := @List.mem_rtakeWhile_imp _ (· == '/') path c hmem
      rw [hslashes, beq_iff_eq.mp hslash] at hcut
      exact ⟨slashes ++ ['/'], by simpa using congrArg (· ++ ['/']) hcut⟩

/-! ## Below a directory -/

/-- The glob that a path without wildcards is read as if `/**` follows it. -/
def below (path : String) : Glob :=
  ⟨path ++ "/**", (path.toList ++ ['/']).map .char ++ [.anyPath]⟩

theorem toList_append_stars (path : String) :
    (path ++ "/**").toList = path.toList ++ ['/', '*', '*'] := by
  simp

theorem readGlob_eq_below {path : String} (hplain : ∀ c ∈ path.toList, c ∉ wildcards) :
    Pattern.readGlob (path ++ "/**") = .ok (below path) := by
  have hempty : (path ++ "/**").isEmpty = false := by simp
  rw [Pattern.readGlob, hempty, Glob.ofText, toList_append_stars, readTokens_directory hplain]
  rfl

/-- The prefix test accepts all that the matcher accepts. -/
theorem isMatch_below {path : String} (hplain : ∀ c ∈ path.toList, c ∉ wildcards) (text : String) :
    (below path).isMatch text = true ↔ directoryName path.toList ++ ['/'] <+: text.toList := by
  rw [isMatch, below, toList_append_stars, directoryOf?_eq_directoryName hplain, Bool.or_eq_true,
    beq_iff_eq, matchTokens_directory, Option.any_some, List.isPrefixOf_iff_prefix]
  constructor
  · intro haccepts
    rcases haccepts with hbegins | hbegins
    · exact (begins_with_directoryName path.toList).trans hbegins
    · exact hbegins
  · exact Or.inr

/-- A path without wildcards, followed by `/**`, is a glob for what lies below the directory that it
names. The directory itself is not accepted, and nothing that goes on behind its name with another
character than a slash. -/
theorem isMatch_below_directory (path : String) (hplain : ∀ c ∈ path.toList, c ∉ wildcards) :
    ∃ glob, Pattern.readGlob (path ++ "/**") = .ok glob ∧
      (∀ text, glob.isMatch text = true ↔ directoryName path.toList ++ ['/'] <+: text.toList) ∧
      glob.isMatch (String.ofList (directoryName path.toList)) = false ∧
      ∀ c rest, c ≠ '/' →
        glob.isMatch (String.ofList (directoryName path.toList ++ c :: rest)) = false := by
  refine ⟨below path, readGlob_eq_below hplain, isMatch_below hplain, ?_, ?_⟩
  · rw [Bool.eq_false_iff, ne_eq, isMatch_below hplain, String.toList_ofList]
    intro hbegins
    have hlength := hbegins.length_le
    rw [List.length_append, List.length_singleton] at hlength
    omega
  · intro c rest hc
    rw [Bool.eq_false_iff, ne_eq, isMatch_below hplain, String.toList_ofList,
      List.prefix_append_right_inj]
    intro hbegins
    exact hc (List.cons_prefix_cons.mp hbegins).1.symm

/-- Final slashes and multi-byte characters make no difference. -/
theorem isMatch_below_directory_slashes :
    (∀ c ∈ "naïve//".toList, c ∉ wildcards) ∧
      ∃ glob, Pattern.readGlob ("naïve//" ++ "/**") = .ok glob ∧ glob.isMatch "naïve/a" = true ∧
        glob.isMatch "naïve" = false ∧ glob.isMatch "naïvex/y" = false := by
  have hplain : ∀ c ∈ "naïve//".toList, c ∉ wildcards := by simp [wildcards]
  have hname : directoryName "naïve//".toList = "naïve".toList := by decide
  obtain ⟨glob, hread, hmatch, hitself, hsibling⟩ := isMatch_below_directory "naïve//" hplain
  rw [hname] at hmatch hitself hsibling
  refine ⟨hplain, glob, hread, ?_, hitself, ?_⟩
  · rw [hmatch]
    decide
  · exact hsibling 'x' ['/', 'y'] (by decide)

end ImportRules.Glob
