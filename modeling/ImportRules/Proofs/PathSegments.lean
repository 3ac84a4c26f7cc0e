import ImportRules.Proofs.Text.Pieces
import ImportRules.UnitPath
import Mathlib.Data.List.TakeWhile
/-!
# Paths by their segments

Joining two paths puts their segments one after the other, and normalization walks along the
segments. Segments that name something are kept as they stand, and every `..` takes the latest of
them back. So a path that climbs out of a directory before it names a unit ends at that unit. What a
directory is normalized to has only names, which are kept again: paths lead from there where they
lead from the directory itself. The file name of a unit is what stands behind its last slash.
-/

namespace ImportRules.UnitPath

variable {path base normal segment : String} {kept kept' names : List String}
  {text piece front tail : List Char} {separator : Char}

/-! ## Segments -/

theorem segments_join (base path : String) :
    segments (join base path) = segments base ++ segments path := by
  have htext : (join base path).toList = base.toList ++ '/' :: path.toList := by simp [join]
  simp only [segments, Text.pieces, htext, List.splitOn_append_cons_self, List.map_append]

theorem joined_segments (path : String) : Text.joined "/" (segments path) = path := by
  have htexts : (segments path).map String.toList = path.toList.splitOn '/' := by
    simp [segments, Text.pieces, Function.comp_def]
  rw [← String.toList_inj, Text.joined, String.toList_intercalate, htexts]
  exact List.intercalate_splitOn '/'

/-- The last occurrence of a separator cuts a text in two. -/
theorem exists_last_separator (hmem : separator ∈ text) :
    ∃ front tail, text = front ++ separator :: tail ∧ separator ∉ tail := by
  obtain ⟨behind, before, hreverse, hbehind⟩ :=
    List.eq_append_cons_of_mem (List.mem_reverse.mpr hmem)
  refine ⟨before.reverse, behind.reverse, ?_, by simpa using hbehind⟩
  simpa using congrArg List.reverse hreverse

theorem forall_mem_reverse_ne (htext : separator ∉ text) :
    ∀ c ∈ text.reverse, (c != separator) = true := by
  intro c hc
  simpa using fun heq : c = separator => htext (heq ▸ List.mem_reverse.mp hc)

theorem reverse_append_cons (front tail : List Char) (separator : Char) :
    (front ++ separator :: tail).reverse = tail.reverse ++ separator :: front.reverse := by
  simp

theorem beforeLast?_append (htail : separator ∉ tail) :
    beforeLast? separator (front ++ separator :: tail) = some front := by
  rw [beforeLast?, reverse_append_cons, List.dropWhile_append_of_pos (forall_mem_reverse_ne htail)]
  simp

theorem beforeLast?_of_notMem (htext : separator ∉ text) : beforeLast? separator text = none := by
  have hdrop : text.reverse.dropWhile (· != separator) = [] :=
    List.dropWhile_eq_nil_iff.mpr (forall_mem_reverse_ne htext)
  rw [beforeLast?, hdrop]

theorem behindLast_append (htail : separator ∉ tail) :
    behindLast separator (front ++ separator :: tail) = tail := by
  rw [behindLast, reverse_append_cons, List.takeWhile_append_of_pos (forall_mem_reverse_ne htail)]
  simp

theorem behindLast_of_notMem (htext : separator ∉ text) : behindLast separator text = text := by
  have htake : text.reverse.takeWhile (· != separator) = text.reverse :=
    List.takeWhile_eq_self_iff.mpr (forall_mem_reverse_ne htext)
  rw [behindLast, htake, List.reverse_reverse]

/-- The segments of the directory are those of the path but the last one. Without a directory
there is only an empty segment. -/
theorem segments_directory (path : String) :
    segments (directory path) = (segments path).dropLast ∨
      segments (directory path) = [""] ∧ (segments path).dropLast = [] := by
  by_cases hslash : '/' ∈ path.toList
  · left
    obtain ⟨front, tail, htext, htail⟩ := exists_last_separator hslash
    have hdirectory : directory path = String.ofList front := by
      rw [directory, htext, beforeLast?_append htail, Option.getD_some]
    have hlast : tail.splitOn '/' = [tail] := List.splitOn_eq_singleton htail
    simp [segments, Text.pieces, hdirectory, htext, List.splitOn_append_cons_self, hlast]
  · right
    have hdirectory : directory path = "" := by
      rw [directory, beforeLast?_of_notMem hslash]
      rfl
    have honly : path.toList.splitOn '/' = [path.toList] := List.splitOn_eq_singleton hslash
    constructor
    · rw [hdirectory]
      rfl
    · simp [segments, Text.pieces, honly]

/-- The name is what stands behind the last `/` of the path. -/
def IsFileName (path name : String) : Prop :=
  '/' ∉ name.toList ∧ (path = name ∨ ∃ directory, path = join directory name)

theorem isFileName_iff {name : String} : IsFileName path name ↔ fileName path = name := by
  constructor
  · rintro ⟨hname, rfl | ⟨directory, rfl⟩⟩
    · rw [fileName, behindLast_of_notMem hname, String.ofList_toList]
    · have htext : (join directory name).toList = directory.toList ++ '/' :: name.toList := by
        simp [join]
      rw [fileName, htext, behindLast_append hname, String.ofList_toList]
  · rintro rfl
    by_cases hslash : '/' ∈ path.toList
    · obtain ⟨front, tail, htext, htail⟩ := exists_last_separator hslash
      rw [fileName, htext, behindLast_append htail]
      refine ⟨by simpa using htail, .inr ⟨String.ofList front, ?_⟩⟩
      rw [← String.toList_inj, htext]
      simp [join]
    · rw [fileName, behindLast_of_notMem hslash, String.ofList_toList]
      exact ⟨hslash, .inl rfl⟩

/-! ## Walking along segments -/

/-- The segments that name nothing by themselves. -/
def dotSegments : List String :=
  ["", ".", ".."]

/-- Every segment of the path names something. -/
def IsCanonical (path : String) : Prop :=
  ∀ segment ∈ segments path, segment ∉ dotSegments

instance (path : String) : Decidable (IsCanonical path) :=
  inferInstanceAs (Decidable (∀ segment ∈ segments path, segment ∉ dotSegments))

theorem climb_of_notMem (hsegment : segment ∉ dotSegments) :
    climb kept segment = some (segment :: kept) := by
  simp only [dotSegments, List.mem_cons, List.not_mem_nil, or_false, not_or] at hsegment
  obtain ⟨hempty, hdot, hup⟩ := hsegment
  unfold climb
  split <;> simp_all

/-- Names are kept, the latest one first. -/
theorem foldlM_climb_names (hnames : ∀ segment ∈ names, segment ∉ dotSegments) :
    names.foldlM climb kept = some (names.reverse ++ kept) := by
  induction names generalizing kept with
  | nil => rfl
  | cons segment names ih =>
      obtain ⟨hsegment, hnames⟩ := List.forall_mem_cons.mp hnames
      rw [List.foldlM_cons, climb_of_notMem hsegment, Option.bind_eq_bind, Option.bind_some,
        ih hnames]
      simp

/-- Every step up takes the latest name back. -/
theorem foldlM_climb_up (names kept : List String) :
    (List.replicate names.length "..").foldlM climb (names ++ kept) = some kept := by
  induction names with
  | nil => rfl
  | cons name names ih => exact ih

/-- A path is walked along up to its directory as the segments before the last one are. -/
theorem foldlM_climb_directory (path : String) :
    (segments (directory path)).foldlM climb kept = (segments path).dropLast.foldlM climb kept := by
  rcases segments_directory path with hsegments | ⟨hempty, hnone⟩
  · rw [hsegments]
  · rw [hempty, hnone]
    rfl

theorem normalize?_join (base path : String) :
    normalize? (join base path) =
      (((segments base).foldlM climb []).bind fun kept =>
        (segments path).foldlM climb kept).map fun kept => Text.joined "/" kept.reverse := by
  rw [normalize?, segments_join, List.foldlM_append]
  rfl

/-- A path taken from the empty directory is normalized as it stands. -/
theorem normalize?_join_empty (path : String) : normalize? (join "" path) = normalize? path := by
  rw [normalize?_join, normalize?]
  rfl

/-! ## Normal paths -/

theorem slash_notMem_of_mem_segments (hsegment : segment ∈ segments path) :
    '/' ∉ segment.toList := by
  obtain ⟨piece, hpiece, rfl⟩ := List.mem_map.mp hsegment
  rw [String.toList_ofList]
  exact Text.separator_notMem_of_mem_splitOn hpiece

/-- A segment that names something. -/
def IsName (segment : String) : Prop :=
  segment ∉ dotSegments ∧ '/' ∉ segment.toList

/-- A step keeps only names. -/
theorem climb_isName (hkept : ∀ name ∈ kept, IsName name) (hslash : '/' ∉ segment.toList)
    (hclimb : climb kept segment = some kept') : ∀ name ∈ kept', IsName name := by
  by_cases hdot : segment ∈ dotSegments
  · simp only [dotSegments, List.mem_cons, List.not_mem_nil, or_false] at hdot
    rcases hdot with rfl | rfl | rfl
    · exact Option.some.inj hclimb ▸ hkept
    · exact Option.some.inj hclimb ▸ hkept
    · cases kept with
      | nil => cases hclimb
      | cons name kept => exact Option.some.inj hclimb ▸ (List.forall_mem_cons.mp hkept).2
  · rw [climb_of_notMem hdot] at hclimb
    exact Option.some.inj hclimb ▸ List.forall_mem_cons.mpr ⟨⟨hdot, hslash⟩, hkept⟩

theorem foldlM_climb_isName (hkept : ∀ name ∈ kept, IsName name)
    (hnames : ∀ name ∈ names, '/' ∉ name.toList) (hclimb : names.foldlM climb kept = some kept') :
    ∀ name ∈ kept', IsName name := by
  induction names generalizing kept with
  | nil => exact Option.some.inj hclimb ▸ hkept
  | cons name names ih =>
      obtain ⟨hname, hnames⟩ := List.forall_mem_cons.mp hnames
      rw [List.foldlM_cons] at hclimb
      obtain ⟨next, hnext, hclimb⟩ := Option.bind_eq_some_iff.mp hclimb
      exact ih (climb_isName hkept hname hnext) hnames hclimb

theorem segments_joined (hne : names ≠ []) (hnames : ∀ name ∈ names, '/' ∉ name.toList) :
    segments (Text.joined "/" names) = names := by
  have hpieces : ∀ piece ∈ names.map String.toList, '/' ∉ piece := by simpa using hnames
  have hsplit := List.splitOn_intercalate '/' hpieces (by simpa using hne)
  have htext : (Text.joined "/" names).toList = ['/'].intercalate (names.map String.toList) :=
    String.toList_intercalate
  rw [segments, Text.pieces, htext, hsplit]
  simp [Function.comp_def]

/-- The path that names are written as leads along them. -/
theorem foldlM_climb_joined (hnames : ∀ name ∈ names, IsName name) :
    (segments (Text.joined "/" names)).foldlM climb [] = some names.reverse := by
  by_cases hne : names = []
  · rw [hne]
    rfl
  · rw [segments_joined hne fun name hname => (hnames name hname).2,
      foldlM_climb_names fun name hname => (hnames name hname).1, List.append_nil]

/-- A normalized path is written with the names that are kept. -/
theorem exists_names_of_normalize? (hnormal : normalize? base = some normal) :
    ∃ names, (∀ name ∈ names, IsName name) ∧ normal = Text.joined "/" names ∧
      (segments base).foldlM climb [] = some names.reverse := by
  obtain ⟨kept, hkept, rfl⟩ := Option.map_eq_some_iff.mp hnormal
  have hisName := foldlM_climb_isName (by simp) (fun _ => slash_notMem_of_mem_segments) hkept
  exact ⟨kept.reverse, by simpa using hisName, rfl, by rw [hkept, List.reverse_reverse]⟩

/-- From what a directory is normalized to, paths lead where they lead from the directory. -/
theorem normalize?_join_of_normalize? (hnormal : normalize? base = some normal) (path : String) :
    normalize? (join normal path) = normalize? (join base path) := by
  obtain ⟨names, hnames, rfl, hkept⟩ := exists_names_of_normalize? hnormal
  rw [normalize?_join, normalize?_join, foldlM_climb_joined hnames, hkept]

/-- Nothing below a directory above the root lies inside the root. -/
theorem normalize?_join_eq_none (hbase : normalize? base = none) (path : String) :
    normalize? (join base path) = none := by
  rw [normalize?, Option.map_eq_none_iff] at hbase
  rw [normalize?_join, hbase]
  rfl

/-! ## Exact relative paths -/

/-- The path from the directory of an importer to a unit that goes over the root. -/
def overRoot (importer unit : String) : String :=
  "./" ++ String.join (List.replicate ((segments importer).length - 1) "../") ++ unit

theorem segments_overRoot (importer unit : String) :
    segments (overRoot importer unit) =
      "." :: (List.replicate ((segments importer).length - 1) ".." ++ segments unit) := by
  have hclimb : ∀ count : Nat, segments (String.join (List.replicate count "../") ++ unit) =
      List.replicate count ".." ++ segments unit := by
    intro count
    induction count with
    | zero => simp
    | succ count ih =>
        have hstep : String.join (List.replicate (count + 1) "../") ++ unit =
            join ".." (String.join (List.replicate count "../") ++ unit) := by
          simp [List.replicate_succ, join, String.append_assoc]
        rw [hstep, segments_join, ih]
        rfl
  have hdot : overRoot importer unit = join "."
      (String.join (List.replicate ((segments importer).length - 1) "../") ++ unit) := by
    simp [overRoot, join, String.append_assoc]
  rw [hdot, segments_join, hclimb]
  rfl

/-- Over the root, every canonical unit is reached from the directory of a canonical importer. -/
theorem normalize?_overRoot {importer unit : String} (himporter : IsCanonical importer)
    (hunit : IsCanonical unit) :
    normalize? (join (directory importer) (overRoot importer unit)) = some unit := by
  have hnames : ∀ segment ∈ (segments importer).dropLast, segment ∉ dotSegments :=
    fun segment hsegment => himporter segment ((List.dropLast_sublist _).mem hsegment)
  -- There are as many steps up as the directory has names, so that none of them is left.
  have hup : (List.replicate ((segments importer).length - 1) "..").foldlM climb
      (segments importer).dropLast.reverse = some [] := by
    have hclimb := foldlM_climb_up (segments importer).dropLast.reverse []
    rwa [List.length_reverse, List.length_dropLast, List.append_nil] at hclimb
  have hstay : ∀ kept, climb kept "." = some kept := fun _ => rfl
  rw [normalize?_join, foldlM_climb_directory, foldlM_climb_names hnames, segments_overRoot]
  simp only [List.append_nil, Option.bind_some, List.foldlM_cons, hstay, Option.bind_eq_bind,
    List.foldlM_append, hup, foldlM_climb_names hunit, Option.map_some, List.reverse_reverse,
    joined_segments]

end ImportRules.UnitPath
