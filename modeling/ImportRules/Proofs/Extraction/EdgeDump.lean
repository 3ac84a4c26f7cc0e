import ImportRules.Command.Run
import ImportRules.Proofs.Json.RoundTrip
/-!
# Printed edges as an edge file

The list of edges that is printed can be stored and read as an edge file: it holds the same edges in
the same order, whatever their texts and kinds are.
-/

namespace ImportRules

namespace Json

theorem list?_array_map {α : Type} {read? : Json → Option α} {write : α → Json}
    (hread : ∀ x, read? (write x) = some x) (xs : List α) :
    list? read? (.array (xs.map write)) = some xs := by
  rw [list?]
  induction xs with
  | nil => rfl
  | cons x xs ih => simp [hread, ih]

theorem writable_array_map {α : Type} {write : α → Json} (hwrite : ∀ x, Writable (write x))
    (xs : List α) : Writable (.array (xs.map write)) := by
  refine .array fun item hitem => ?_
  obtain ⟨x, -, rfl⟩ := List.mem_map.mp hitem
  exact hwrite x

theorem writable_edge (edge : Edge) : Writable edge.toJson := by
  refine .object fun member hmember => ?_
  simp only [List.mem_cons, List.not_mem_nil, or_false] at hmember
  rcases hmember with rfl | rfl | rfl | rfl
  · exact .string edge.source
  · exact .string edge.target
  · exact .bool edge.external
  · exact writable_array_map .string _

theorem edge?_toJson (edge : Edge) : edge? edge.toJson = some edge := by
  have hkinds : list? importKind? (.ofTexts (edge.kinds.map ImportKind.name)) =
      some edge.kinds := by
    rw [ofTexts, List.map_map]
    apply list?_array_map
    simp [importKind?]
  have hfields : Record.fields? ["source", "target", "external", "importKinds"]
      edge.toJson.written = some [some (.string edge.source), some (.string edge.target),
        some (.bool edge.external), some (.ofTexts (edge.kinds.map ImportKind.name))] := by
    simp [Record.fields?, Edge.toJson, written, Record.member?]
  simp [edge?, hfields, Record.required?, Record.withDefault?, text?, bool?, hkinds]

theorem edges?_edgeList (edges : List Edge) : edges? (Command.edgeList edges) = some edges := by
  have htext : (Command.edgeList edges).toList =
      print 0 (.array (edges.map Edge.toJson)) ++ ['\n'] := by
    simp [Command.edgeList, Command.lines, pretty, String.join]
  have hwritable := writable_array_map writable_edge edges
  rw [edges?, htext, hwritable.ofText?_print (by simp [Blanks, isSpace]), Option.bind_some]
  exact list?_array_map edge?_toJson edges

end Json

theorem FileTree.text?_toUTF8 (text : String) : (FileTree.file text.toUTF8).text? = some text := by
  have hvalid : text.toUTF8.IsValidUTF8 := text.isValidUTF8
  rw [text?, String.fromUTF8?, dif_pos hvalid]
  rfl

theorem Extraction.ofEdgeFile_of_edgeList {workspace : Workspace} {file : Path}
    {edges : List Edge}
    (hfile : workspace.find file = .ok (.file (Command.edgeList edges).toUTF8)) :
    ofEdgeFile workspace file = .ok edges := by
  simp only [ofEdgeFile, hfile, FileTree.text?_toUTF8, Json.edges?_edgeList]

namespace Command

theorem output_edges {environment : Environment} {origin : ConfigOrigin} {path : Path}
    {settings : ExtractionSettings} {extraction : Extraction}
    (hsettings : origin.extraction environment.workspace = .ok settings)
    (hextraction : Extraction.fresh environment.workspace (settings.sourceFrom path)
      settings.scanOptions = .ok extraction) :
    (edges environment origin path).output = edgeList extraction.edges := by
  simp only [edges, hsettings, hextraction]
  rfl

/-- A file with the printed form of some edges is an edge file with these edges. So a file with
what the command for edges prints holds the edges that the command has extracted. -/
theorem edges_read_back (workspace : Workspace) (file : String) :
    (∀ edges, workspace.find file = .ok (.file (edgeList edges).toUTF8) →
      Extraction.ofEdgeFile workspace file = .ok edges) ∧
    ∀ environment origin path settings extraction,
      ConfigOrigin.extraction environment.workspace origin = .ok settings →
      Extraction.fresh environment.workspace (settings.sourceFrom path) settings.scanOptions =
        .ok extraction →
      workspace.find file = .ok (.file (edges environment origin path).output.toUTF8) →
      Extraction.ofEdgeFile workspace file = .ok extraction.edges := by
  constructor
  · intro edges hfile
    exact Extraction.ofEdgeFile_of_edgeList hfile
  · intro environment origin path settings extraction hsettings hextraction hfile
    rw [output_edges hsettings hextraction] at hfile
    exact Extraction.ofEdgeFile_of_edgeList hfile

/-- A project whose configuration names an edge file. -/
def projectOfEdgeFile : Workspace where
  tree := .directory
    [("archgraph.toml", .file "[extraction]\nedges = \"edges.json\"\n".toUTF8),
     ("edges.json", .file "[[\"a\\tb\", \"\\ud83d\\ude00\", true, [\"type\"]]]".toUTF8)]

theorem edges_read_back_edge_file :
    ∃ settings extraction,
      ConfigOrigin.extraction projectOfEdgeFile (.explicit "archgraph.toml") = .ok settings ∧
      Extraction.fresh projectOfEdgeFile (settings.sourceFrom ".") settings.scanOptions =
        .ok extraction ∧
      extraction.edges = [⟨"a\tb", "😀", true, [.type]⟩] ∧
      Extraction.ofEdgeFile ⟨.directory [("dump.json", .file (edges ⟨projectOfEdgeFile, none⟩
        (.explicit "archgraph.toml") ".").output.toUTF8)], []⟩ "dump.json" =
          .ok extraction.edges ∧
      Extraction.ofEdgeFile ⟨.directory [("dump.json", .file (edgeList
        [⟨"\x00\"\\", "é", false, []⟩, ⟨"", "\n", true, [.value, .named, .value]⟩]).toUTF8)], []⟩
        "dump.json" = .ok
          [⟨"\x00\"\\", "é", false, []⟩, ⟨"", "\n", true, [.value, .named, .value]⟩] := by
  have hload : (ConfigOrigin.extraction projectOfEdgeFile
      (.explicit "archgraph.toml")).toOption.bind (·.source) =
        some (.edgeFile "edges.json") := by
    decide +kernel
  have hedges : Extraction.ofEdgeFile projectOfEdgeFile "edges.json" =
      .ok [⟨"a\tb", "😀", true, [.type]⟩] := by
    decide +kernel
  cases hsettings : ConfigOrigin.extraction projectOfEdgeFile (.explicit "archgraph.toml") with
  | error =>
      rw [hsettings] at hload
      cases hload
  | ok settings =>
      rw [hsettings] at hload
      have hsource : settings.sourceFrom "." = .edgeFile "edges.json" :=
        congrArg (Option.getD · _) hload
      have hfresh : Extraction.fresh projectOfEdgeFile (settings.sourceFrom ".")
          settings.scanOptions = .ok ⟨[⟨"a\tb", "😀", true, [.type]⟩], []⟩ := by
        rw [hsource, Extraction.fresh, hedges]
        rfl
      exact ⟨settings, _, rfl, hfresh, rfl,
        (edges_read_back _ _).2 ⟨projectOfEdgeFile, none⟩ _ _ _ _ hsettings hfresh rfl,
        (edges_read_back _ _).1 _ rfl⟩

end Command

end ImportRules
