import ImportRules.Cycle.Basic
import ImportRules.Proofs.LabelOrder
import ImportRules.Proofs.LinkPartition
/-!
# The graph of a list of links

The graph has an arc from one label to another, different one exactly if a link leads there, and
the first such link stands for the arc. Labels ascend, and so do the targets of a label.
-/

namespace ImportRules

/-- A link leads from one label to another, different one. -/
def Arc (links : List Link) (source target : String) : Prop :=
  source ≠ target ∧ ∃ link ∈ links, link.ends = (source, target)

/-- A link is the first one between its labels. -/
def Link.IsFirst (links : List Link) (link : Link) : Prop :=
  links.find? (fun other => other.ends == link.ends) = some link

theorem Link.IsFirst.mem {links : List Link} {link : Link} (hfirst : link.IsFirst links) :
    link ∈ links :=
  List.mem_of_find?_eq_some hfirst

/-- Of the links between two labels one is the first. -/
theorem Link.exists_isFirst {links : List Link} {link : Link} (hlink : link ∈ links) :
    ∃ first : Link, first.IsFirst links ∧ first.ends = link.ends := by
  have hfound : (links.find? fun other => other.ends == link.ends).isSome := by
    rw [List.find?_isSome]
    exact ⟨link, hlink, beq_self_eq_true _⟩
  obtain ⟨first, hfirst⟩ := Option.isSome_iff_exists.mp hfound
  have hends : first.ends = link.ends := by simpa using List.find?_some hfirst
  refine ⟨first, ?_, hends⟩
  rw [Link.IsFirst, hends]
  exact hfirst

namespace Graph

/-- The links out of a label are the first ones of the arcs out of it. -/
theorem mem_outOf_iff {links : List Link} {label : String} {link : Link} :
    link ∈ outOf links label ↔
      link.source = label ∧ link.source ≠ link.target ∧ link.IsFirst links := by
  have hout : link ∈ outOf links label ↔
      (links.filter fun other => !other.isLoop && other.source == label).find?
        (fun other => other.target == link.target) = some link := by
    unfold outOf
    rw [mem_eraseDupsBy_key, find?_mergeSort_key]
  -- Among links from the label, equal targets mean equal ends.
  have hsame : link.source = label → link.source ≠ link.target →
      (links.filter fun other => !other.isLoop && other.source == label).find?
        (fun other => other.target == link.target) =
          links.find? fun other => other.ends == link.ends := by
    rintro rfl hloop
    rw [List.find?_filter]
    congr 1
    funext other
    rw [Bool.eq_iff_iff]
    simp only [Link.isLoop, Link.ends]
    grind
  rw [hout]
  constructor
  · intro hfound
    have hmem := List.mem_filter.mp (List.mem_of_find?_eq_some hfound)
    obtain ⟨hloop, hsource⟩ : link.source ≠ link.target ∧ link.source = label := by
      simpa [Link.isLoop] using hmem.2
    exact ⟨hsource, hloop, (hsame hsource hloop).symm.trans hfound⟩
  · rintro ⟨hsource, hloop, hfirst⟩
    exact (hsame hsource hloop).trans hfirst

/-- The targets of a label ascend. -/
theorem outOf_pairwise (links : List Link) (label : String) :
    (outOf links label).Pairwise fun a b => a.target < b.target := by
  have hle := (mergeSort_pairwise_key Link.target
    (links.filter fun link => !link.isLoop && link.source == label)).sublist
      (eraseDupsBy_sublist (fun a b => a.target == b.target) _)
  have hne := eraseDupsBy_pairwise (fun a b : Link => a.target == b.target)
    ((links.filter fun link => !link.isLoop && link.source == label).mergeSort
      fun a b => decide (a.target ≤ b.target))
  refine (hle.and hne).imp ?_
  rintro a b ⟨hab, hba⟩
  exact lt_of_le_of_ne hab fun heq => by simp [heq] at hba

theorem mem_labels_ofLinks {links : List Link} {label : String} :
    label ∈ (ofLinks links).labels ↔
      ∃ link ∈ links, link.source ≠ link.target ∧ (label = link.source ∨ label = link.target) := by
  simp [labels, ofLinks, Link.isLoop, Function.comp_def, and_assoc]

theorem labels_ofLinks_pairwise (links : List Link) : (ofLinks links).labels.Pairwise (· < ·) := by
  have hlabels : (ofLinks links).labels =
      sortedLabels ((links.filter (!·.isLoop)).flatMap fun link => [link.source, link.target]) := by
    simp [labels, ofLinks, Function.comp_def]
  rw [hlabels]
  exact sortedLabels_pairwise _

/-- A label has the links that the list of links gives it. -/
theorem out_ofLinks (links : List Link) (label : String) :
    (ofLinks links).out label = outOf links label := by
  unfold out
  split
  next vertex hfound =>
    have hlabel : vertex.label = label := by simpa using List.find?_some hfound
    obtain ⟨other, -, rfl⟩ := List.mem_map.mp (List.mem_of_find?_eq_some hfound)
    exact congrArg (outOf links) hlabel
  next hnone =>
    refine (List.eq_nil_iff_forall_not_mem.mpr ?_).symm
    intro link hlink
    obtain ⟨hsource, hloop, hfirst⟩ := mem_outOf_iff.mp hlink
    have hmem : label ∈ (ofLinks links).labels :=
      mem_labels_ofLinks.mpr ⟨link, hfirst.mem, hloop, Or.inl hsource.symm⟩
    obtain ⟨vertex, hvertex, hlabel⟩ := List.mem_map.mp hmem
    exact absurd hlabel (by simpa using List.find?_eq_none.mp hnone vertex hvertex)

theorem mem_out_iff {links : List Link} {label : String} {link : Link} :
    link ∈ (Graph.ofLinks links).out label ↔
      link.source = label ∧ link.source ≠ link.target ∧ link.IsFirst links := by
  rw [Graph.out_ofLinks, Graph.mem_outOf_iff]

theorem source_of_mem_out {links : List Link} {label : String} {link : Link}
    (hlink : link ∈ (ofLinks links).out label) : link.source = label :=
  (mem_out_iff.mp hlink).1

theorem mem_out_source {links : List Link} {label : String} {link : Link}
    (hlink : link ∈ (ofLinks links).out label) : link ∈ (ofLinks links).out link.source := by
  rw [source_of_mem_out hlink]
  exact hlink

theorem out_pairwise (links : List Link) (label : String) :
    ((ofLinks links).out label).Pairwise fun a b => a.target < b.target := by
  rw [out_ofLinks]
  exact outOf_pairwise links label

end Graph

namespace Arc

variable {links : List Link} {source target : String}

/-- An arc has a link in the graph. -/
theorem exists_mem_out (harc : Arc links source target) :
    ∃ link ∈ (Graph.ofLinks links).out source, link.target = target := by
  obtain ⟨hne, link, hlink, hends⟩ := harc
  obtain ⟨first, hfirst, hsame⟩ := Link.exists_isFirst hlink
  obtain ⟨rfl, rfl⟩ : first.source = source ∧ first.target = target := by
    simpa [Link.ends] using hsame.trans hends
  exact ⟨first, Graph.mem_out_iff.mpr ⟨rfl, hne, hfirst⟩, rfl⟩

/-- An arc begins at a label of the graph. -/
theorem mem_labels (harc : Arc links source target) : source ∈ (Graph.ofLinks links).labels := by
  obtain ⟨hne, link, hlink, hends⟩ := harc
  obtain ⟨rfl, rfl⟩ : link.source = source ∧ link.target = target := by
    simpa [Link.ends] using hends
  exact Graph.mem_labels_ofLinks.mpr ⟨link, hlink, hne, Or.inl rfl⟩

end Arc

end ImportRules
