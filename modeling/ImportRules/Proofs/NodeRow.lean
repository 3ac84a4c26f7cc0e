import ImportRules.Proofs.Ascending
import ImportRules.Proofs.LabelOrder
import Mathlib.Data.List.Induction
/-!
# Gathering links into nodes

The nodes of a list of links come about link by link: a link is put behind those of the node that it
leaves and behind those of the node that it reaches, and a label that is met for the first time gets
a node in its place. The row of nodes that this leads to is the one that can be told without any
order of events: the ends of the links in ascending order, each with the links from it and the links
to it.
-/

namespace ImportRules

namespace Node

variable {links : List Link} {nodes : List Node} {label other : String}

/-! ## A row of nodes -/

/-- The nodes stand in strictly ascending order of their labels. -/
def Ascends (nodes : List Node) : Prop :=
  (nodes.map (·.label)).Pairwise (· < ·)

/-- The node of a label, which is bare if there is none in the row. -/
def nodeAt (nodes : List Node) (label : String) : Node :=
  (nodes.find? (·.label == label)).getD (bare label)

theorem nodeAt_cons (node : Node) (nodes : List Node) (label : String) :
    nodeAt (node :: nodes) label = if node.label = label then node else nodeAt nodes label := by
  by_cases hlabel : node.label = label
  · rw [if_pos hlabel, nodeAt, List.find?_cons_of_pos (by simpa using hlabel)]
    rfl
  · rw [if_neg hlabel, nodeAt, List.find?_cons_of_neg (by simpa using hlabel)]
    rfl

theorem nodeAt_of_notMem (hlabel : label ∉ nodes.map (·.label)) :
    nodeAt nodes label = bare label := by
  have hnone : nodes.find? (·.label == label) = none := by
    simpa using hlabel
  rw [nodeAt, hnone]
  rfl

/-- In an ascending row a node is the only one with its label. -/
theorem Ascends.nodeAt_label (hascends : Ascends nodes) {node : Node} (hnode : node ∈ nodes) :
    nodeAt nodes node.label = node := by
  induction nodes with
  | nil => cases hnode
  | cons first rest ih =>
      obtain ⟨hfirst, hrest⟩ := List.pairwise_cons.mp hascends
      rw [nodeAt_cons]
      rcases List.mem_cons.mp hnode with rfl | hnode
      · exact if_pos rfl
      · have hlt : first.label < node.label := hfirst _ (List.mem_map_of_mem hnode)
        rw [if_neg hlt.ne, ih hrest hnode]

/-! ## Changing one node -/

section Alter

variable {change : Node → Node} (hchange : ∀ node, (change node).label = node.label)
include hchange

theorem mem_map_label_alter :
    other ∈ (alter label change nodes).map (·.label) ↔
      other = label ∨ other ∈ nodes.map (·.label) :=
  mem_map_alterAscending (hchange _) fun node hlabel => (hchange node).trans hlabel

theorem Ascends.alter (hascends : Ascends nodes) : Ascends (alter label change nodes) := by
  unfold Ascends Node.alter
  exact pairwise_alterAscending (hchange (bare label))
    (fun node hlabel => (hchange node).trans hlabel) Function.injective_id (by simp) hascends

/-- Changing the node of a label leaves all other nodes as they are. -/
theorem Ascends.nodeAt_alter (hascends : Ascends nodes) (other : String) :
    nodeAt (Node.alter label change nodes) other =
      if other = label then change (nodeAt nodes label) else nodeAt nodes other := by
  unfold Node.alter
  fun_induction alterAscending _ _ label (change (bare label)) change nodes with
  | case1 =>
      rw [nodeAt_cons, hchange]
      exact if_congr eq_comm rfl rfl
  | case2 node rest hlabel =>
      subst hlabel
      rw [nodeAt_cons, nodeAt_cons, nodeAt_cons, hchange, if_pos rfl]
      by_cases hother : other = node.label
      · rw [if_pos hother.symm, if_pos hother]
      · rw [if_neg (Ne.symm hother), if_neg hother, if_neg (Ne.symm hother)]
  | case3 node rest hne hlt =>
      have hmissing : label ∉ (node :: rest).map (·.label) := by
        intro hlabel
        rcases List.mem_cons.mp hlabel with hlabel | hlabel
        · exact hne hlabel
        · exact lt_asymm (of_decide_eq_true hlt) ((List.pairwise_cons.mp hascends).1 label hlabel)
      rw [nodeAt_cons, hchange, nodeAt_of_notMem hmissing]
      exact if_congr eq_comm rfl rfl
  | case4 node rest hne hlt ih =>
      rw [nodeAt_cons, nodeAt_cons, nodeAt_cons, if_neg (Ne.symm hne),
        ih (List.pairwise_cons.mp hascends).2]
      by_cases hother : other = label
      · rw [if_neg (hother ▸ Ne.symm hne), if_pos hother, if_pos hother]
      · rw [if_neg hother, if_neg hother]

end Alter

theorem label_send (link : Link) (node : Node) : (send link node).label = node.label := rfl

theorem label_receive (link : Link) (node : Node) : (receive link node).label = node.label := rfl

/-! ## The nodes of links -/

/-- The ends of links in ascending order. -/
def endLabels (links : List Link) : List String :=
  sortedLabels (links.flatMap fun link => [link.source, link.target])

theorem mem_endLabels :
    label ∈ endLabels links ↔ ∃ link ∈ links, link.source = label ∨ link.target = label := by
  simp [endLabels, eq_comm]

/-- The node of a label in a list of links. -/
def around (links : List Link) (label : String) : Node where
  label := label
  incoming := links.filter (·.target == label)
  outgoing := links.filter (·.source == label)

/-- The row has a node for every end of a link, with the links that touch it. -/
structure Shows (nodes : List Node) (links : List Link) : Prop where
  ascends : Ascends nodes
  labels : ∀ label, label ∈ nodes.map (·.label) ↔ label ∈ endLabels links
  nodes : ∀ label, nodeAt nodes label = around links label

theorem Shows.nil : Shows [] [] where
  ascends := .nil
  labels label := by simp [mem_endLabels]
  nodes label := rfl

/-- One more link is shown once it has been taken in at both its ends, which may be one. -/
theorem Shows.takeIn (hshows : Shows nodes links) (link : Link) :
    Shows (takeIn nodes link) (links ++ [link]) where
  ascends := (hshows.ascends.alter (label_send link)).alter (label_receive link)
  labels label := by
    rw [Node.takeIn, mem_map_label_alter (label_receive link),
      mem_map_label_alter (label_send link), hshows.labels]
    simp only [mem_endLabels, List.mem_append, List.mem_singleton]
    grind
  nodes label := by
    have hsent : Ascends (alter link.source (send link) nodes) :=
      hshows.ascends.alter (label_send link)
    rw [Node.takeIn, hsent.nodeAt_alter (label_receive link),
      hshows.ascends.nodeAt_alter (label_send link), hshows.ascends.nodeAt_alter (label_send link)]
    simp only [hshows.nodes, around, send, receive, List.filter_append]
    grind

/-- A row that shows links is the row of their ends. -/
theorem Shows.eq_map (hshows : Shows nodes links) :
    nodes = (endLabels links).map (around links) := by
  have hlabels : nodes.map (·.label) = endLabels links :=
    hshows.ascends.eq_of_mem_iff (sortedLabels_pairwise _) hshows.labels
  rw [← hlabels, List.map_map]
  refine (List.map_id nodes).symm.trans (List.map_congr_left fun node hnode => ?_)
  exact (hshows.ascends.nodeAt_label hnode).symm.trans (hshows.nodes node.label)

theorem foldl_takeIn_shows (links : List Link) : Shows (links.foldl Node.takeIn []) links := by
  induction links using List.reverseRecOn with
  | nil => exact .nil
  | append_singleton links link ih =>
      rw [List.foldl_append]
      exact ih.takeIn link

/-- Passing over links one by one comes to leaving them out from the start. -/
theorem ofLinks_eq_foldl (links : List Link) (ignoreExternal : Bool) :
    ofLinks links ignoreExternal =
      (links.filter fun link => !(ignoreExternal && link.isExternal)).foldl Node.takeIn [] := by
  rw [ofLinks, List.foldl_filter]
  congr 1
  funext nodes link
  cases ignoreExternal && link.isExternal <;> rfl

/-- There is a node for every end of a link that is not passed over. -/
theorem ofLinks_eq_map (links : List Link) (ignoreExternal : Bool) :
    let kept := links.filter fun link => !(ignoreExternal && link.isExternal)
    ofLinks links ignoreExternal = (endLabels kept).map (around kept) := by
  intro kept
  rw [ofLinks_eq_foldl]
  exact (foldl_takeIn_shows kept).eq_map

theorem map_label_ofLinks (links : List Link) (ignoreExternal : Bool) :
    (ofLinks links ignoreExternal).map (·.label) =
      endLabels (links.filter fun link => !(ignoreExternal && link.isExternal)) := by
  rw [ofLinks_eq_map, List.map_map]
  exact List.map_id _

end Node

end ImportRules
