import ImportRules.Projection.Slice
import ImportRules.Proofs.Regex.Words
/-!
# What a slice glob stands for

The label that a slice glob gives a unit is what a group of its expression captures. Here it is said
without expressions: the glob is written as a front, a capture and a back, and a unit is cut into a
text that the front stands for, the label, a text that the back stands for, and any rest. A unit has
a label exactly if it can be cut that way, and its label comes from such a cut.
-/

namespace ImportRules

namespace SliceGlob

open Regex (Place)

/-! ## The meaning of a glob -/

/-- The glob, which has no capture, stands for the text: `**` for any text within a line, `*` for
any text without `/`, `?` for one character other than `/`, and every other character for itself. -/
def Fits : List Char → List Char → Prop
  | '*' :: '*' :: glob, text => ∃ run rest, text = run ++ rest ∧ '\n' ∉ run ∧ Fits glob rest
  | '*' :: glob, text => ∃ run rest, text = run ++ rest ∧ '/' ∉ run ∧ Fits glob rest
  | '?' :: glob, text => ∃ c rest, text = c :: rest ∧ c ≠ '/' ∧ Fits glob rest
  | c :: glob, text => ∃ rest, text = c :: rest ∧ Fits glob rest
  | [], text => text = []

theorem fits_nil {text : List Char} : Fits [] text ↔ text = [] := Iff.rfl

theorem fits_anyText {glob text : List Char} :
    Fits ('*' :: '*' :: glob) text ↔
      ∃ run rest, text = run ++ rest ∧ '\n' ∉ run ∧ Fits glob rest := Iff.rfl

theorem fits_anyChar {glob text : List Char} :
    Fits ('?' :: glob) text ↔ ∃ c rest, text = c :: rest ∧ c ≠ '/' ∧ Fits glob rest := Iff.rfl

/-- The capture of a slice glob. -/
inductive Capture where
  | segment
  | path
  deriving DecidableEq, Repr

namespace Capture

def written : Capture → List Char
  | .segment => ['(', '*', ')']
  | .path => ['(', '*', '*', ')']

/-- What a capture may take: a segment, or one or more segments with `/` between them. -/
def Takes : Capture → List Char → Prop
  | .segment, label => label ≠ [] ∧ '/' ∉ label
  | .path, label => ∃ segments, segments ≠ [] ∧ (∀ part ∈ segments, part ≠ [] ∧ '/' ∉ part) ∧
      label = ['/'].intercalate segments

end Capture

theorem intercalate_cons (first : List Char) (segments : List (List Char)) :
    ['/'].intercalate (first :: segments) = first ++ (segments.map ('/' :: ·)).flatten := by
  induction segments generalizing first with
  | nil => simp [List.intercalate]
  | cons second segments ih =>
      rw [List.intercalate_cons_cons, ih]
      simp

theorem Capture.Takes.ne_nil {capture : Capture} {label : List Char}
    (htakes : capture.Takes label) :
    label ≠ [] := by
  cases capture with
  | segment => exact htakes.1
  | path =>
      obtain ⟨segments, hne, hsegments, rfl⟩ := htakes
      obtain ⟨first, segments, rfl⟩ := List.exists_cons_of_ne_nil hne
      have hfirst := (hsegments first List.mem_cons_self).1
      simp [intercalate_cons, hfirst]

/-- The unit can be cut so that the capture takes the label. -/
def Cuts (front : List Char) (capture : Capture) (back unit label : List Char) : Prop :=
  ∃ before behind rest, unit = before ++ label ++ behind ++ rest ∧ Fits front before ∧
    capture.Takes label ∧ Fits back behind

theorem Cuts.ne_nil {front back unit label : List Char} {capture : Capture}
    (hcuts : Cuts front capture back unit label) : label ≠ [] := by
  obtain ⟨_, _, _, _, _, htakes, _⟩ := hcuts
  exact htakes.ne_nil

/-! ## The words of the parts -/

theorem mem_words_segment {word : List Char} : word ∈ segment.words ↔ word ≠ [] ∧ '/' ∉ word := by
  rw [segment, Regex.noneOf, Regex.mem_words_many1_one, Regex.forall_mem_noneOf]

/-- A sequence of segments with their separators, taken apart. -/
theorem exists_segments {parts : List (List Char)}
    (hparts : ∀ part ∈ parts, part ∈ (Regex.seq (.char '/') segment).words) :
    ∃ segments : List (List Char), parts = segments.map ('/' :: ·) ∧
      ∀ part ∈ segments, part ≠ [] ∧ '/' ∉ part := by
  induction parts with
  | nil => exact ⟨[], rfl, by simp⟩
  | cons part parts ih =>
      obtain ⟨hpart, hrest⟩ := List.forall_mem_cons.mp hparts
      obtain ⟨separator, hseparator, name, hname, rfl⟩ := Regex.mem_words_seq.mp hpart
      obtain ⟨segments, rfl, hsegments⟩ := ih hrest
      rw [Regex.mem_words_char.mp hseparator]
      exact ⟨name :: segments, rfl,
        List.forall_mem_cons.mpr ⟨mem_words_segment.mp hname, hsegments⟩⟩

theorem mem_words_segmentPath {greedy : Bool} {word : List Char} :
    word ∈ (segmentPath greedy).words ↔ Capture.path.Takes word := by
  rw [segmentPath, Regex.mem_words_seq, Regex.words_repeated]
  constructor
  · rintro ⟨first, hfirst, rest, hrest, rfl⟩
    obtain ⟨parts, rfl, hparts⟩ := Language.mem_kstar.mp hrest
    obtain ⟨segments, rfl, hsegments⟩ := exists_segments hparts
    exact ⟨first :: segments, List.cons_ne_nil _ _,
      List.forall_mem_cons.mpr ⟨mem_words_segment.mp hfirst, hsegments⟩,
      (intercalate_cons first segments).symm⟩
  · rintro ⟨segments, hne, hsegments, rfl⟩
    obtain ⟨first, segments, rfl⟩ := List.exists_cons_of_ne_nil hne
    obtain ⟨hfirst, hsegments⟩ := List.forall_mem_cons.mp hsegments
    refine ⟨first, mem_words_segment.mpr hfirst, (segments.map ('/' :: ·)).flatten, ?_,
      (intercalate_cons first segments).symm⟩
    refine Language.join_mem_kstar ?_
    intro part hpart
    obtain ⟨name, hname, rfl⟩ := List.mem_map.mp hpart
    exact Regex.mem_words_seq.mpr
      ⟨['/'], Regex.mem_words_char.mpr rfl, name, mem_words_segment.mpr (hsegments name hname), rfl⟩

/-- A glob stands for what its first part reads followed by what its rest stands for. -/
def Leads (part : Regex) (glob rest : List Char) : Prop :=
  part.isPlain = true ∧
    ∀ text, Fits glob text ↔ ∃ word ∈ part.words, ∃ tail, Fits rest tail ∧ word ++ tail = text

theorem leads_anyText (last : Bool) (glob : List Char) :
    Leads (Token.anyText.regex last) ('*' :: '*' :: glob) glob := by
  refine ⟨rfl, fun text => ?_⟩
  simp only [Token.regex, Regex.mem_words_many_noneOf, fits_anyText]
  constructor
  · rintro ⟨run, rest, rfl, hrun, hrest⟩
    exact ⟨run, hrun, rest, hrest, rfl⟩
  · rintro ⟨run, hrun, rest, hrest, rfl⟩
    exact ⟨run, rest, rfl, hrun, hrest⟩

theorem leads_anyRun (last : Bool) {glob : List Char} (hnext : ∀ rest, glob ≠ '*' :: rest) :
    Leads (Token.anyRun.regex last) ('*' :: glob) glob := by
  refine ⟨rfl, fun text => ?_⟩
  rw [Fits]
  · simp only [Token.regex, Regex.mem_words_many_noneOf]
    constructor
    · rintro ⟨run, rest, rfl, hrun, hrest⟩
      exact ⟨run, hrun, rest, hrest, rfl⟩
    · rintro ⟨run, hrun, rest, hrest, rfl⟩
      exact ⟨run, rest, rfl, hrun, hrest⟩
  · exact hnext

theorem leads_anyChar (last : Bool) (glob : List Char) :
    Leads (Token.anyChar.regex last) ('?' :: glob) glob := by
  refine ⟨rfl, fun text => ?_⟩
  simp only [Token.regex, Regex.noneOf, Regex.mem_words_one, fits_anyChar]
  constructor
  · rintro ⟨c, rest, rfl, hc, hrest⟩
    exact ⟨[c], ⟨c, by simpa using hc, rfl⟩, rest, hrest, rfl⟩
  · rintro ⟨_, ⟨c, hc, rfl⟩, rest, hrest, rfl⟩
    exact ⟨c, rest, rfl, by simpa using hc, hrest⟩

theorem leads_char (last : Bool) {c : Char} (hstar : c ≠ '*') (hmark : c ≠ '?')
    (glob : List Char) : Leads ((Token.char c).regex last) (c :: glob) glob := by
  refine ⟨rfl, fun text => ?_⟩
  rw [Fits]
  · simp only [Token.regex, Regex.mem_words_char]
    constructor
    · rintro ⟨rest, rfl, hrest⟩
      exact ⟨[c], rfl, rest, hrest, rfl⟩
    · rintro ⟨_, rfl, rest, hrest, rfl⟩
      exact ⟨rest, rfl, hrest⟩
  · intro rest heq
    exact absurd heq hstar
  · exact hstar
  · exact hmark

/-! ## Globs without a capture -/

/-- A part in front of further ones. -/
theorem exists_tokens_of_map {token : Token} {read : Except Char (List Token)}
    {parts : List Token} (hparts : read.map (token :: ·) = .ok parts) :
    ∃ rest, read = .ok rest ∧ parts = token :: rest := by
  cases read with
  | error c => cases hparts
  | ok rest => exact ⟨rest, rfl, (Except.ok.inj hparts).symm⟩

theorem captures_cons (token : Token) (parts : List Token) :
    captures (token :: parts) = captures parts + if token.isCapture then 1 else 0 :=
  List.countP_cons

/-- Every character of the glob belongs to something other than a capture. -/
def Unparenthesized (glob : List Char) : Prop :=
  ∀ c ∈ glob, c ≠ '(' ∧ c ≠ ')'

/-- The parts of a glob without captures read what it stands for. -/
def Renders (parts : List Token) (glob : List Char) : Prop :=
  Unparenthesized glob ∧ (partsRegex parts).isPlain = true ∧
    ∀ word, word ∈ (partsRegex parts).words ↔ Fits glob word

theorem Renders.nil : Renders [] [] := by
  refine ⟨by simp [Unparenthesized], rfl, fun word => ?_⟩
  rw [fits_nil]
  exact Language.mem_one word

theorem Renders.cons {token : Token} {parts : List Token} {glob rest : List Char}
    (hleads : Leads (token.regex parts.isEmpty) glob rest) (hglob : Unparenthesized glob)
    (hrest : Renders parts rest) : Renders (token :: parts) glob := by
  refine ⟨hglob, Bool.and_eq_true_iff.mpr ⟨hleads.1, hrest.2.1⟩, fun word => ?_⟩
  rw [hleads.2, partsRegex, Regex.mem_words_seq]
  simp only [hrest.2.2]

theorem renders_of_tokens {glob : List Char} {parts : List Token}
    (hparts : tokens glob = .ok parts) (hnone : captures parts = 0) : Renders parts glob := by
  fun_induction tokens glob generalizing parts with
  | case1 =>
      cases hparts
      exact .nil
  | case2 rest ih =>
      obtain ⟨parts, -, rfl⟩ := exists_tokens_of_map hparts
      simp [captures_cons, Token.isCapture] at hnone
  | case3 rest ih =>
      obtain ⟨parts, -, rfl⟩ := exists_tokens_of_map hparts
      simp [captures_cons, Token.isCapture] at hnone
  | case4 rest ih =>
      obtain ⟨parts, hrest, rfl⟩ := exists_tokens_of_map hparts
      have hrenders := ih hrest (by simpa [captures_cons, Token.isCapture] using hnone)
      exact .cons (leads_anyText _ rest) (by simpa [Unparenthesized] using hrenders.1) hrenders
  | case5 rest hnext ih =>
      obtain ⟨parts, hrest, rfl⟩ := exists_tokens_of_map hparts
      have hrenders := ih hrest (by simpa [captures_cons, Token.isCapture] using hnone)
      exact .cons (leads_anyRun _ hnext) (by simpa [Unparenthesized] using hrenders.1) hrenders
  | case6 rest ih =>
      obtain ⟨parts, hrest, rfl⟩ := exists_tokens_of_map hparts
      have hrenders := ih hrest (by simpa [captures_cons, Token.isCapture] using hnone)
      exact .cons (leads_anyChar _ rest) (by simpa [Unparenthesized] using hrenders.1) hrenders
  | case7 => cases hparts
  | case8 c rest _ _ _ hstar hmark hparenthesis ih =>
      obtain ⟨parts, hrest, rfl⟩ := exists_tokens_of_map hparts
      have hrenders := ih hrest (by simpa [captures_cons, Token.isCapture] using hnone)
      refine .cons (leads_char _ hstar hmark rest) ?_ hrenders
      exact List.forall_mem_cons.mpr ⟨not_or.mp hparenthesis, hrenders.1⟩

/-! ## Globs with a capture -/

/-- The expression reads what the front stands for, captures what the capture takes, and reads what
the back stands for. -/
def Captures (r : Regex) (front : List Char) (capture : Capture) (back : List Char) : Prop :=
  ∀ p q : Place, r.Reads p q ↔
    ∃ before label behind, Fits front before ∧ capture.Takes label ∧ Fits back behind ∧
      before ++ label ++ behind <+: p.after ∧
        q = (((p.past before).past label).marked 1 (p.past before).index).past behind

/-- A capture with nothing in front of it. -/
theorem captures_here {body : Regex} {capture : Capture} (hplain : body.isPlain = true)
    (htakes : ∀ word, word ∈ body.words ↔ capture.Takes word) {parts : List Token}
    {back : List Char} (hback : Renders parts back) :
    Captures (.seq (.group 1 body) (partsRegex parts)) [] capture back := by
  intro p q
  constructor
  · rintro ⟨_, ⟨stop, hbody, rfl⟩, hrest⟩
    obtain ⟨label, hlabel, hahead, rfl⟩ := (Regex.reads_iff hplain).mp hbody
    obtain ⟨behind, hbehind, hnext, rfl⟩ := (Regex.reads_iff hback.2.1).mp hrest
    refine ⟨[], label, behind, rfl, (htakes label).mp hlabel, (hback.2.2 behind).mp hbehind, ?_,
      rfl⟩
    exact Regex.append_isPrefix_iff.mpr ⟨hahead, hnext⟩
  · rintro ⟨_, label, behind, rfl, hlabel, hbehind, hahead, rfl⟩
    obtain ⟨hahead, hnext⟩ := Regex.append_isPrefix_iff.mp hahead
    exact ⟨_, ⟨p.past label, Regex.reads_past hplain ((htakes label).mpr hlabel) hahead, rfl⟩,
      Regex.reads_past hback.2.1 ((hback.2.2 behind).mpr hbehind) hnext⟩

/-- A part in front of the capture. -/
theorem Captures.cons {part rest : Regex} {front front' back : List Char} {capture : Capture}
    (hleads : Leads part front' front) (hrest : Captures rest front capture back) :
    Captures (.seq part rest) front' capture back := by
  intro p q
  constructor
  · rintro ⟨_, hpart, hreads⟩
    obtain ⟨word, hword, hahead, rfl⟩ := (Regex.reads_iff hleads.1).mp hpart
    obtain ⟨before, label, behind, hbefore, hlabel, hbehind, hnext, rfl⟩ := (hrest _ _).mp hreads
    refine ⟨word ++ before, label, behind, (hleads.2 _).mpr ⟨word, hword, before, hbefore, rfl⟩,
      hlabel, hbehind, ?_, by rw [Place.past_append]⟩
    rw [List.append_assoc, List.append_assoc, ← List.append_assoc before]
    exact Regex.append_isPrefix_iff.mpr ⟨hahead, hnext⟩
  · rintro ⟨_, label, behind, hfront, hlabel, hbehind, hahead, rfl⟩
    obtain ⟨word, hword, before, hbefore, rfl⟩ := (hleads.2 _).mp hfront
    rw [List.append_assoc, List.append_assoc, ← List.append_assoc before] at hahead
    obtain ⟨hahead, hnext⟩ := Regex.append_isPrefix_iff.mp hahead
    refine ⟨p.past word, Regex.reads_past hleads.1 hword hahead, (hrest _ _).mpr ?_⟩
    exact ⟨before, label, behind, hbefore, hlabel, hbehind, hnext, by rw [Place.past_append]⟩

/-- A glob with one capture is written as a front, a capture and a back, and its parts read
accordingly. -/
def Splits (parts : List Token) (glob : List Char) : Prop :=
  ∃ front capture back, glob = front ++ capture.written ++ back ∧
    Unparenthesized (front ++ back) ∧ Captures (partsRegex parts) front capture back

theorem Splits.cons {token : Token} {parts : List Token} {glob : List Char}
    (written : List Char)
    (hleads : ∀ front, front <+: glob → Leads (token.regex parts.isEmpty) (written ++ front) front)
    (hwritten : Unparenthesized written) (hsplits : Splits parts glob) :
    Splits (token :: parts) (written ++ glob) := by
  obtain ⟨front, capture, back, rfl, hplain, hcaptures⟩ := hsplits
  refine ⟨written ++ front, capture, back, by simp, ?_, ?_⟩
  · rw [List.append_assoc]
    exact List.forall_mem_append.mpr ⟨hwritten, hplain⟩
  · exact hcaptures.cons (hleads front (by simp))

theorem splits_of_tokens {glob : List Char} {parts : List Token}
    (hparts : tokens glob = .ok parts) (hone : captures parts = 1) : Splits parts glob := by
  fun_induction tokens glob generalizing parts with
  | case1 =>
      cases hparts
      simp [captures] at hone
  | case2 rest ih =>
      obtain ⟨parts, hrest, rfl⟩ := exists_tokens_of_map hparts
      have hrenders := renders_of_tokens hrest
        (by simpa [captures_cons, Token.isCapture] using hone)
      exact ⟨[], .path, rest, rfl, hrenders.1,
        captures_here rfl (fun word => mem_words_segmentPath) hrenders⟩
  | case3 rest ih =>
      obtain ⟨parts, hrest, rfl⟩ := exists_tokens_of_map hparts
      have hrenders := renders_of_tokens hrest
        (by simpa [captures_cons, Token.isCapture] using hone)
      exact ⟨[], .segment, rest, rfl, hrenders.1,
        captures_here rfl (fun word => mem_words_segment) hrenders⟩
  | case4 rest ih =>
      obtain ⟨parts, hrest, rfl⟩ := exists_tokens_of_map hparts
      have hsplits := ih hrest (by simpa [captures_cons, Token.isCapture] using hone)
      exact .cons ['*', '*'] (fun front _ => leads_anyText _ front)
        (by simp [Unparenthesized]) hsplits
  | case5 rest hnext ih =>
      obtain ⟨parts, hrest, rfl⟩ := exists_tokens_of_map hparts
      have hsplits := ih hrest (by simpa [captures_cons, Token.isCapture] using hone)
      refine .cons ['*'] (fun front hfront => leads_anyRun _ ?_)
        (by simp [Unparenthesized]) hsplits
      rintro front' rfl
      obtain ⟨rest', rfl⟩ := hfront
      exact hnext _ rfl
  | case6 rest ih =>
      obtain ⟨parts, hrest, rfl⟩ := exists_tokens_of_map hparts
      have hsplits := ih hrest (by simpa [captures_cons, Token.isCapture] using hone)
      exact .cons ['?'] (fun front _ => leads_anyChar _ front)
        (by simp [Unparenthesized]) hsplits
  | case7 => cases hparts
  | case8 c rest _ _ _ hstar hmark hparenthesis ih =>
      obtain ⟨parts, hrest, rfl⟩ := exists_tokens_of_map hparts
      have hsplits := ih hrest (by simpa [captures_cons, Token.isCapture] using hone)
      exact .cons [c] (fun front _ => leads_char _ hstar hmark front)
        (by simpa [Unparenthesized] using hparenthesis) hsplits

/-! ## Labels -/

/-- What the group of a slice glob has read when the whole of it has read from the start of a
unit. -/
theorem group?_of_captures {r : Regex} {front back : List Char} {capture : Capture}
    (hcaptures : Captures r front capture back) {unit : List Char} {q : Place}
    (hreads : r.Reads (Place.start unit) q) :
    ∃ label, Cuts front capture back unit label ∧
      Regex.Match.group? ⟨0, q.index, q.marks⟩ unit 1 = some label := by
  obtain ⟨before, label, behind, hbefore, hlabel, hbehind, ⟨rest, hunit⟩, rfl⟩ :=
    (hcaptures _ _).mp hreads
  have hunit : before ++ label ++ behind ++ rest = unit := hunit
  refine ⟨label, ⟨before, behind, rest, hunit.symm, hbefore, hlabel, hbehind⟩, ?_⟩
  simp [Regex.Match.group?, Place.marked, Place.start, ← hunit]

/-- A cut is a reading from the start of the unit. -/
theorem Captures.reads_of_cuts {r : Regex} {front back : List Char} {capture : Capture}
    (hcaptures : Captures r front capture back) {unit label : List Char}
    (hcuts : Cuts front capture back unit label) : ∃ q, r.Reads (Place.start unit) q := by
  obtain ⟨before, behind, rest, hunit, hbefore, htakes, hbehind⟩ := hcuts
  refine ⟨_, (hcaptures _ _).mpr ⟨before, label, behind, hbefore, htakes, hbehind, ?_, rfl⟩⟩
  exact ⟨rest, hunit.symm⟩

end SliceGlob

namespace SlicePattern

open SliceGlob
open Regex (Place)

/-- A glob is accepted if it has one capture and its expression does not take too much memory. -/
theorem ofGlob_eq_ok_iff {text : String} {pattern : SlicePattern} :
    ofGlob text = .ok pattern ↔
      ∃ parts, tokens text.toList = .ok parts ∧ captures parts = 1 ∧
        (Expression.ofText? (written parts)).isSome = true ∧
          pattern = ⟨text, .glob (SliceGlob.regex parts)⟩ := by
  constructor
  · intro hpattern
    unfold ofGlob at hpattern
    split at hpattern
    · cases hpattern
    · split at hpattern
      next => cases hpattern
      next parts hparts =>
        simp only at hpattern
        split at hpattern
        next => cases hpattern
        next hone =>
          split at hpattern
          next => cases hpattern
          next parsed hread =>
            exact ⟨parts, hparts, not_ne_iff.mp hone, by rw [hread]; rfl,
              (Except.ok.inj hpattern).symm⟩
  · rintro ⟨parts, hparts, hone, hfits, rfl⟩
    have hne : text.isEmpty = false := by
      rw [Bool.eq_false_iff, ne_eq, String.isEmpty_iff]
      rintro rfl
      cases hparts
      cases hone
    obtain ⟨parsed, hread⟩ := Option.isSome_iff_exists.mp hfits
    simp only [ofGlob, hne, hparts, hone, hread, Bool.false_eq_true, ne_eq, not_true, if_false]

/-- The label is what the first group read in the preferred match at the start of the unit. -/
theorem label?_glob (text : String) (parts : List Token) (unit : String) :
    label? ⟨text, .glob (SliceGlob.regex parts)⟩ unit =
      (((partsRegex parts).ends (Regex.Place.start unit.toList)).head?.bind fun stop =>
        Regex.Match.group? ⟨0, stop.index, stop.marks⟩ unit.toList 1).bind fun captured =>
          if captured.isEmpty then none else some (String.ofList captured) := by
  have hsearch : (SliceGlob.regex parts).search? unit.toList =
      (partsRegex parts).matchAt? (Regex.Place.start unit.toList) := Regex.search?_textStart _ _
  simp only [label?, SliceSearch.search?, hsearch, Regex.matchAt?]
  cases ((partsRegex parts).ends (Regex.Place.start unit.toList)).head? <;> rfl

/-- A slice glob is written as a front, a capture and a back without further parentheses. A unit
has a label exactly if it can be cut into a text that the front stands for, a text that the capture
takes, a text that the back stands for, and any rest; and its label is what the capture takes in
such a cut. -/
theorem label?_ofGlob {text : String} {pattern : SlicePattern}
    (hpattern : ofGlob text = .ok pattern) :
    ∃ front capture back, text.toList = front ++ capture.written ++ back ∧
      Unparenthesized (front ++ back) ∧
      ∀ unit : String,
        ((pattern.label? unit).isSome ↔ ∃ label, Cuts front capture back unit.toList label) ∧
        ∀ label, pattern.label? unit = some label →
          Cuts front capture back unit.toList label.toList := by
  obtain ⟨parts, hparts, hone, -, rfl⟩ := ofGlob_eq_ok_iff.mp hpattern
  obtain ⟨front, capture, back, htext, hplain, hcaptures⟩ := splits_of_tokens hparts hone
  refine ⟨front, capture, back, htext, hplain, fun unit => ?_⟩
  cases hends : ((partsRegex parts).ends (Place.start unit.toList)).head? with
  | none =>
      -- Without an end there is no reading, and a cut would be one.
      have hnone : label? ⟨text, .glob (SliceGlob.regex parts)⟩ unit = none := by
        simp [label?_glob, hends]
      rw [List.head?_eq_none_iff] at hends
      simp only [hnone, Option.isSome_none, Bool.false_eq_true, false_iff, reduceCtorEq,
        false_implies, implies_true, and_true]
      rintro ⟨label, hcuts⟩
      obtain ⟨stop, hreads⟩ := hcaptures.reads_of_cuts hcuts
      obtain ⟨_, hmem, -⟩ := Regex.among_ends hreads
      rw [hends] at hmem
      cases hmem
  | some stop =>
      obtain ⟨label, hcuts, hgroup⟩ := group?_of_captures hcaptures
        (Regex.reads_of_mem_ends (List.mem_of_mem_head? hends))
      have hne : label ≠ [] := hcuts.ne_nil
      have hsome : label? ⟨text, .glob (SliceGlob.regex parts)⟩ unit =
          some (String.ofList label) := by
        simp [label?_glob, hends, hgroup, hne]
      refine ⟨by simpa [hsome] using ⟨label, hcuts⟩, ?_⟩
      rintro _ heq
      obtain rfl : String.ofList label = _ := by simpa [hsome] using heq
      simpa using hcuts

/-- The first folder below `src` is cut out of the path of a file further down. -/
theorem label?_ofGlob_folder :
    ∃ pattern front capture back, ofGlob "src/(**)/" = .ok pattern ∧
      "src/(**)/".toList = front ++ capture.written ++ back ∧
      Cuts front capture back "src/billing/api/x.ts".toList "billing".toList := by
  have hpattern : ofGlob "src/(**)/" = .ok ⟨"src/(**)/", .glob (SliceGlob.regex
      [.char 's', .char 'r', .char 'c', .char '/', .capturePath, .char '/'])⟩ :=
    ofGlob_eq_ok_iff.mpr ⟨_, by decide +kernel, rfl, by decide +kernel, rfl⟩
  obtain ⟨front, capture, back, htext, -, hlabels⟩ := label?_ofGlob hpattern
  refine ⟨_, front, capture, back, hpattern, htext, ?_⟩
  exact (hlabels "src/billing/api/x.ts").2 "billing" (by rw [label?_glob]; cbv)

end SlicePattern

end ImportRules
