import ImportRules.Extraction.Scan
import ImportRules.Proofs.FirstError
import ImportRules.Proofs.LabelOrder
import ImportRules.Proofs.Source.Recognition
import ImportRules.Proofs.Source.Resolution
import Mathlib.Data.List.Forall2
import Mathlib.Data.List.Pairwise
/-!
# Excluding units from a scan

Excluded units are not read, but they stay in the project: what the specifiers of other units
resolve to does not depend on them. So the edges of a scan with exclusions are those of a scan
without, less the ones that excluded units are the source of. A scan that succeeds cannot fail
because more is excluded, since it then reads fewer files.
-/

namespace ImportRules

namespace Scan

variable {resolver : Source.Resolver} {options : ScanOptions} {aliases : Source.AliasTable}
  {files : List SourceFile} {edges : List Edge}

/-- The edge belongs to a statement of one of the files. An internal edge leads to one of the files,
whether or not that file is read itself; the target of an external edge is the specifier. -/
def Declares (files : List SourceFile) (edge : Edge) : Prop :=
  ∃ file ∈ files, ∃ text, file.tree.text? = some text ∧
    edge.source = file.unit ∧ ¬".d.ts".toList <:+ file.unit.toList ∧
    ∃ statement ∈ Source.imports text.toList, edge.kinds = statement.kinds ∧
      if edge.external then edge.target = statement.specifier
      else ∃ target ∈ files, edge.target = target.unit

/-! ## The edges of a file -/

/-- The edges of a file that can be read. -/
def fileEdges (resolver : Source.Resolver) (file : SourceFile) : List Edge :=
  (file.tree.text?.map (edgesOf resolver file.unit)).getD []

theorem source_of_mem_edgesOf {unit text : String} {edge : Edge}
    (hedge : edge ∈ edgesOf resolver unit text) : edge.source = unit := by
  obtain ⟨statement, -, rfl⟩ := List.mem_map.mp hedge
  split <;> rfl

theorem source_of_mem_fileEdges {file : SourceFile} {edge : Edge}
    (hedge : edge ∈ fileEdges resolver file) : edge.source = file.unit := by
  unfold fileEdges at hedge
  cases htext : file.tree.text? with
  | none => simp [htext] at hedge
  | some text => exact source_of_mem_edgesOf (by simpa [htext] using hedge)

theorem edgesOfFile_eq_ok_iff {file : SourceFile} :
    edgesOfFile resolver file = .ok edges ↔
      file.tree.text?.isSome ∧ fileEdges resolver file = edges := by
  cases htext : file.tree.text? with
  | none => simp [edgesOfFile, htext]
  | some text => simp [edgesOfFile, fileEdges, htext]

/-- A row of files can be read if each of them can. -/
theorem mapM_edgesOfFile_eq_ok_iff {read : List (List Edge)} :
    files.mapM (edgesOfFile resolver) = .ok read ↔
      (∀ file ∈ files, file.tree.text?.isSome) ∧ files.map (fileEdges resolver) = read := by
  rw [mapM_eq_ok_iff]
  simp only [edgesOfFile_eq_ok_iff]
  rw [List.forall₂_and_left]
  refine and_congr_right fun _ => ?_
  rw [← List.forall₂_map_left_iff, List.forall₂_eq_eq_eq]

/-! ## The edges of a project -/

/-- The edges of a project come from the files that are read, in their order, and all of these files
have to be readable. -/
theorem edgesOfFiles_eq_ok_iff :
    edgesOfFiles options aliases files = .ok edges ↔
      (∀ file ∈ files, options.reads file.unit → file.tree.text?.isSome) ∧
        edges = (files.filter fun file => options.reads file.unit).flatMap
          (fileEdges (resolverOf options aliases files)) := by
  have hreads : (∀ file ∈ files.filter fun file => options.reads file.unit,
      file.tree.text?.isSome) ↔
        ∀ file ∈ files, options.reads file.unit → file.tree.text?.isSome := by
    simp [List.mem_filter]
  simp only [edgesOfFiles, bind_eq_ok_iff, mapM_edgesOfFile_eq_ok_iff, hreads]
  constructor
  · rintro ⟨read, ⟨htexts, rfl⟩, hedges⟩
    cases hedges
    exact ⟨htexts, List.flatMap_def.symm⟩
  · rintro ⟨htexts, rfl⟩
    exact ⟨_, ⟨htexts, rfl⟩, by rw [List.flatMap_def]⟩

theorem mem_edgesOfFiles {edge : Edge} (hedges : edgesOfFiles options aliases files = .ok edges) :
    edge ∈ edges ↔ ∃ file ∈ files, options.reads file.unit = true ∧
      edge ∈ fileEdges (resolverOf options aliases files) file := by
  obtain ⟨-, rfl⟩ := edgesOfFiles_eq_ok_iff.mp hedges
  simp only [List.mem_flatMap, List.mem_filter, and_assoc]

theorem declares_of_mem_edgesOfFiles (hedges : edgesOfFiles options aliases files = .ok edges) :
    ∀ edge ∈ edges, Declares files edge := by
  intro edge hedge
  obtain ⟨file, hfile, hreads, hedge⟩ := (mem_edgesOfFiles hedges).mp hedge
  have hsource := source_of_mem_fileEdges hedge
  obtain ⟨hdeclaration, -⟩ :
      ¬".d.ts".toList <:+ file.unit.toList ∧ options.exclude.any (·.isMatch file.unit) = false := by
    simpa [ScanOptions.reads, ← List.isSuffixOf_iff_suffix] using hreads
  unfold fileEdges at hedge
  cases htext : file.tree.text? with
  | none => simp [htext] at hedge
  | some text =>
      obtain ⟨statement, hstatement, rfl⟩ :
          ∃ statement ∈ Source.imports text.toList, _ = edge := by
        simpa [htext, edgesOf] using hedge
      refine ⟨file, hfile, text, htext, hsource, hdeclaration, statement, hstatement, ?_⟩
      rcases (resolverOf options aliases files).resolve_cases file.unit statement.specifier with
        ⟨unit, hunit, hresolve⟩ | hresolve
      · obtain ⟨target, htarget, rfl⟩ := List.mem_map.mp hunit
        simpa [hresolve] using ⟨target, htarget, rfl⟩
      · simp [hresolve]

/-- The sources of the edges of sorted files are sorted. -/
theorem pairwise_source_edgesOfFiles
    (hfiles : files.Pairwise fun file other => file.unit ≤ other.unit)
    (hedges : edgesOfFiles options aliases files = .ok edges) :
    edges.Pairwise fun edge other => edge.source ≤ other.source := by
  obtain ⟨-, rfl⟩ := edgesOfFiles_eq_ok_iff.mp hedges
  have hread := hfiles.filter fun file => options.reads file.unit
  generalize files.filter (fun file => options.reads file.unit) = read at hread
  rw [List.flatMap_def, List.pairwise_flatten]
  constructor
  · intro own hown
    obtain ⟨file, -, rfl⟩ := List.mem_map.mp hown
    refine List.pairwise_of_forall_mem_list ?_
    intro edge hedge other hother
    rw [source_of_mem_fileEdges hedge, source_of_mem_fileEdges hother]
  · rw [List.pairwise_map]
    refine hread.imp ?_
    intro file later hle edge hedge other hother
    rw [source_of_mem_fileEdges hedge, source_of_mem_fileEdges hother]
    exact hle

/-! ## Exclusion -/

theorem reads_exclude (exclude : List Glob) (extensions : List String) (unit : String) :
    ScanOptions.reads { exclude, extensions } unit =
      (ScanOptions.reads { extensions } unit && !exclude.any (·.isMatch unit)) := by
  simp [ScanOptions.reads]

/-- Edges are left out by their sources, file by file. -/
theorem filter_flatMap_fileEdges (kept : String → Bool) :
    (files.filter fun file => kept file.unit).flatMap (fileEdges resolver) =
      (files.flatMap (fileEdges resolver)).filter fun edge => kept edge.source := by
  induction files with
  | nil => rfl
  | cons file files ih =>
      have hfile : (fileEdges resolver file).filter (fun edge => kept edge.source) =
          if kept file.unit then fileEdges resolver file else [] := by
        split
        next hkept =>
          exact List.filter_eq_self.mpr fun edge hedge =>
            (source_of_mem_fileEdges hedge).symm ▸ hkept
        next hkept =>
          refine List.filter_eq_nil_iff.mpr ?_
          intro edge hedge
          rwa [source_of_mem_fileEdges hedge]
      rw [List.flatMap_cons, List.filter_append, hfile, ← ih]
      by_cases hkept : kept file.unit <;> simp [hkept]

theorem edgesOfFiles_exclude (exclude : List Glob) {extensions : List String}
    (hedges : edgesOfFiles { extensions } aliases files = .ok edges) :
    edgesOfFiles { exclude, extensions } aliases files =
      .ok (edges.filter fun edge => !exclude.any (·.isMatch edge.source)) := by
  obtain ⟨htexts, rfl⟩ := edgesOfFiles_eq_ok_iff.mp hedges
  refine edgesOfFiles_eq_ok_iff.mpr ⟨?_, ?_⟩
  · intro file hfile hreads
    rw [reads_exclude, Bool.and_eq_true] at hreads
    exact htexts file hfile hreads.1
  · rw [← filter_flatMap_fileEdges fun unit => !exclude.any (·.isMatch unit), List.filter_filter]
    -- Which specifiers resolve to which units does not depend on what is excluded.
    have hresolver : resolverOf { exclude, extensions } aliases files =
        resolverOf { extensions } aliases files := rfl
    rw [hresolver]
    congr 2
    funext file
    rw [reads_exclude exclude, Bool.and_comm]

theorem discover_pairwise {workspace : Workspace} {root : Path}
    (hfiles : discover workspace root options = .ok files) :
    files.Pairwise fun file other => file.unit ≤ other.unit := by
  unfold discover at hfiles
  split at hfiles
  next => cases hfiles
  next found _ =>
    cases hfiles
    exact mergeSort_pairwise_key SourceFile.unit _

theorem run_eq_ok_iff {workspace : Workspace} {path : Path} {scan : Scan} :
    run workspace path options = .ok scan ↔
      ∃ aliases files, openProject workspace path = .ok (scan.root, aliases) ∧
        discover workspace scan.root options = .ok files ∧
        edgesOfFiles options aliases files = .ok scan.edges ∧
        scan.sources = (files.filter fun file => options.reads file.unit).length := by
  simp only [run, bind_eq_ok_iff]
  constructor
  · rintro ⟨⟨root, aliases⟩, hopen, files, hfiles, edges, hedges, hscan⟩
    cases hscan
    exact ⟨aliases, files, hopen, hfiles, hedges, rfl⟩
  · rintro ⟨aliases, files, hopen, hfiles, hedges, hsources⟩
    exact ⟨_, hopen, files, hfiles, scan.edges, hedges, by rw [← hsources]⟩

/-- Excluding units takes away the edges that they are the source of and nothing else: a scan that
succeeds without exclusions succeeds with any, and what other units import stays as it was. Both
scans go through the discovered files in order, and each edge belongs to a statement of a file. -/
theorem run_exclude {workspace : Workspace} {path : Path} {extensions : List String} {scan : Scan}
    (hscan : run workspace path { extensions } = .ok scan) (exclude : List Glob) :
    ∃ files excluded, discover workspace scan.root { extensions } = .ok files ∧
      run workspace path { exclude, extensions } = .ok excluded ∧
      excluded.edges = scan.edges.filter (fun edge => !exclude.any (·.isMatch edge.source)) ∧
      ∀ either ∈ [scan, excluded],
        either.edges.Pairwise (fun edge other => edge.source ≤ other.source) ∧
          ∀ edge ∈ either.edges, Declares files edge := by
  obtain ⟨aliases, files, hopen, hfiles, hedges, -⟩ := run_eq_ok_iff.mp hscan
  have hexclude := edgesOfFiles_exclude exclude hedges
  have hordered := discover_pairwise hfiles
  let excluded : Scan :=
    { root := scan.root
      sources := (files.filter fun file =>
        ScanOptions.reads { exclude, extensions } file.unit).length
      edges := scan.edges.filter fun edge => !exclude.any (·.isMatch edge.source) }
  refine ⟨files, excluded, hfiles, ?_, rfl, ?_⟩
  · exact run_eq_ok_iff.mpr ⟨aliases, files, hopen, hfiles, hexclude, rfl⟩
  · intro either heither
    rcases List.mem_pair.mp heither with rfl | rfl
    · exact ⟨pairwise_source_edgesOfFiles hordered hedges, declares_of_mem_edgesOfFiles hedges⟩
    · exact ⟨pairwise_source_edgesOfFiles hordered hexclude, declares_of_mem_edgesOfFiles hexclude⟩

/-- Two units of which the first imports the second. -/
def importPair : Workspace where
  tree := .directory
    [("a.ts", .file "import './b';\n".toUTF8), ("b.ts", .file "import 'x';\n".toUTF8)]

theorem run_exclude_imported_unit :
    ∃ scan excluded, run importPair "." { extensions := ["ts"] } = .ok scan ∧
      scan.edges = [⟨"a.ts", "b.ts", false, []⟩, ⟨"b.ts", "x", true, []⟩] ∧
      run importPair "." { exclude := [⟨"b*", [.char 'b', .anyRun]⟩], extensions := ["ts"] } =
        .ok excluded ∧
      excluded.edges = [⟨"a.ts", "b.ts", false, []⟩] := by
  let files : List SourceFile :=
    [⟨"a.ts", "./a.ts", .file "import './b';\n".toUTF8⟩,
     ⟨"b.ts", "./b.ts", .file "import 'x';\n".toUTF8⟩]
  let found : List (List Path × FileTree) :=
    [(["a.ts"], .file "import './b';\n".toUTF8), (["b.ts"], .file "import 'x';\n".toUTF8)]
  have hwalk : Walk.files? importPair "." = some found := rfl
  have hfiles : discover importPair "." { extensions := ["ts"] } = .ok files := by
    have hnames : found.Pairwise fun a b => namesLe a.1 b.1 = true := by decide
    have hunits : files.Pairwise fun a b => decide (a.unit ≤ b.unit) = true := by decide
    have hfound : found.filter (fun entry => entry.1.getLast?.any (ScanOptions.accepts
        { extensions := ["ts"] })) = found := rfl
    have hshown : found.map (fun entry => fileAt "." entry.1 entry.2) = files := rfl
    simp only [discover, hwalk, hfound, List.mergeSort_of_pairwise hnames, hshown,
      List.mergeSort_of_pairwise hunits]
  have hfirst : Source.imports "import './b';\n".toList = [⟨"./b", [], 0⟩] :=
    Source.imports_flatMap_text [⟨.effect, false, ⟨"./b".toList, by simp, by simp⟩⟩]
  have hsecond : Source.imports "import 'x';\n".toList = [⟨"x", [], 0⟩] :=
    Source.imports_flatMap_text [⟨.effect, false, ⟨"x".toList, by simp, by simp⟩⟩]
  have hedges : edgesOfFiles { extensions := ["ts"] } {} files =
      .ok [⟨"a.ts", "b.ts", false, []⟩, ⟨"b.ts", "x", true, []⟩] := by
    let resolver := resolverOf { extensions := ["ts"] } {} files
    have hinternal : edgesOf resolver "a.ts" "import './b';\n" = [⟨"a.ts", "b.ts", false, []⟩] := by
      rw [edgesOf, hfirst]
      rfl
    have hexternal : edgesOf resolver "b.ts" "import 'x';\n" = [⟨"b.ts", "x", true, []⟩] := by
      rw [edgesOf, hsecond]
      rfl
    refine edgesOfFiles_eq_ok_iff.mpr ⟨by decide, ?_⟩
    exact (congrArg₂ (· ++ ·) hinternal (congrArg (· ++ []) hexternal)).symm
  have hscan : run importPair "." { extensions := ["ts"] } = .ok ⟨".", 2, _⟩ :=
    run_eq_ok_iff.mpr ⟨{}, files, rfl, hfiles, hedges, rfl⟩
  obtain ⟨_, excluded, -, hexcluded, hkept, -⟩ :=
    run_exclude hscan [⟨"b*", [.char 'b', .anyRun]⟩]
  exact ⟨_, excluded, hscan, rfl, hexcluded, hkept.trans rfl⟩

end Scan

end ImportRules
