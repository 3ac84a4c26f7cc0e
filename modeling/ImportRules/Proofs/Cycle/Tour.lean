import ImportRules.Cycle.Search
import Mathlib.Data.List.Perm.Basic
/-!
# Tours and the search for cycles

A tour leads from a label back to the start through labels that are still free. Tours are listed by
recursion on the links to try, and the walk with its stack of frames is shown to meet them in just
this order: a walk has the tours of all its frames ahead of it, and a move either leaves what lies
ahead as it is or takes the first cycle off it. A limit on the number of cycles thus keeps the
beginning of the list of all cycles.
-/

namespace ImportRules

/-- The tours that begin with one of the given links, in the order in which links are tried. -/
def tours (graph : Graph) (start : String) : List Link → List String → List (List Link)
  | [], _ => []
  | link :: untried, free =>
      if link.target = start then [link] :: tours graph start untried free
      else if _hfree : link.target ∈ free then
        (tours graph start (graph.out link.target) (free.erase link.target)).map (link :: ·) ++
          tours graph start untried free
      else tours graph start untried free
termination_by untried free => (free.length, untried.length)
decreasing_by
  · exact Prod.Lex.right _ (Nat.lt_succ_self _)
  · have hlength := List.length_erase_of_mem _hfree
    have hpos := List.length_pos_of_mem _hfree
    exact Prod.Lex.left _ _ (by omega)
  · exact Prod.Lex.right _ (Nat.lt_succ_self _)
  · exact Prod.Lex.right _ (Nat.lt_succ_self _)

section Equations

variable {graph : Graph} {start : String} {link : Link} {untried : List Link}
  {free free' : List String}

@[simp]
theorem tours_nil : tours graph start [] free = [] := by
  rw [tours]

theorem tours_cons_of_start (hstart : link.target = start) :
    tours graph start (link :: untried) free = [link] :: tours graph start untried free := by
  rw [tours, if_pos hstart]

theorem tours_cons_of_mem (hstart : link.target ≠ start) (hfree : link.target ∈ free) :
    tours graph start (link :: untried) free =
      (tours graph start (graph.out link.target) (free.erase link.target)).map (link :: ·) ++
        tours graph start untried free := by
  rw [tours, if_neg hstart, dif_pos hfree]

theorem tours_cons_of_notMem (hstart : link.target ≠ start) (hfree : link.target ∉ free) :
    tours graph start (link :: untried) free = tours graph start untried free := by
  rw [tours, if_neg hstart, dif_neg hfree]

/-- The order of the free labels does not matter. -/
theorem tours_perm (hperm : free.Perm free') :
    tours graph start untried free = tours graph start untried free' := by
  fun_induction tours graph start untried free generalizing free' with
  | case1 => rw [tours_nil]
  | case2 free link untried hstart ih => rw [tours_cons_of_start hstart, ih hperm]
  | case3 free link untried hstart hfree ih ih' =>
      rw [tours_cons_of_mem hstart (hperm.mem_iff.mp hfree), ih (hperm.erase _), ih' hperm]
  | case4 free link untried hstart hfree ih =>
      rw [tours_cons_of_notMem hstart (mt hperm.mem_iff.mpr hfree), ih hperm]

end Equations

/-- A tour in the terms of its steps: a link that leads back to the start ends it, a link to a free
label is followed from there. -/
inductive Tour (graph : Graph) (start : String) : List Link → List String → List Link → Prop
  | close {untried free link} (hlink : link ∈ untried) (hstart : link.target = start) :
      Tour graph start untried free [link]
  | follow {untried free link tour} (hlink : link ∈ untried) (hstart : link.target ≠ start)
      (hfree : link.target ∈ free)
      (htour : Tour graph start (graph.out link.target) (free.erase link.target) tour) :
      Tour graph start untried free (link :: tour)

namespace Tour

variable {graph : Graph} {start : String} {link : Link} {untried : List Link} {free : List String}
  {tour : List Link}

theorem cons_iff :
    Tour graph start (link :: untried) free tour ↔
      Tour graph start [link] free tour ∨ Tour graph start untried free tour := by
  constructor
  · intro htour
    cases htour with
    | close hlink hstart =>
        rcases List.mem_cons.mp hlink with rfl | hlink
        · exact Or.inl (.close (List.mem_singleton_self _) hstart)
        · exact Or.inr (.close hlink hstart)
    | follow hlink hstart hfree htour =>
        rcases List.mem_cons.mp hlink with rfl | hlink
        · exact Or.inl (.follow (List.mem_singleton_self _) hstart hfree htour)
        · exact Or.inr (.follow hlink hstart hfree htour)
  · have hmono : ∀ some, some ⊆ link :: untried → Tour graph start some free tour →
        Tour graph start (link :: untried) free tour := by
      intro some hsubset htour
      cases htour with
      | close hlink hstart => exact .close (hsubset hlink) hstart
      | follow hlink hstart hfree htour => exact .follow (hsubset hlink) hstart hfree htour
    rintro (htour | htour)
    · exact hmono _ (by simp) htour
    · exact hmono _ (List.subset_cons_self _ _) htour

theorem singleton_iff :
    Tour graph start [link] free tour ↔
      (link.target = start ∧ tour = [link]) ∨
        (link.target ≠ start ∧ link.target ∈ free ∧ ∃ rest, tour = link :: rest ∧
          Tour graph start (graph.out link.target) (free.erase link.target) rest) := by
  constructor
  · intro htour
    cases htour with
    | close hlink hstart =>
        rcases List.mem_singleton.mp hlink with rfl
        exact Or.inl ⟨hstart, rfl⟩
    | follow hlink hstart hfree htour =>
        rcases List.mem_singleton.mp hlink with rfl
        exact Or.inr ⟨hstart, hfree, _, rfl, htour⟩
  · rintro (⟨hstart, rfl⟩ | ⟨hstart, hfree, rest, rfl, hrest⟩)
    · exact .close (List.mem_singleton_self _) hstart
    · exact .follow (List.mem_singleton_self _) hstart hfree hrest

end Tour

/-- The tours listed are the tours there are. -/
theorem mem_tours_iff {graph : Graph} {start : String} {untried : List Link} {free : List String}
    {tour : List Link} :
    tour ∈ tours graph start untried free ↔ Tour graph start untried free tour := by
  fun_induction tours graph start untried free generalizing tour with
  | case1 =>
      constructor
      · simp
      · rintro (⟨hlink, -⟩ | ⟨hlink, -⟩) <;> simp at hlink
  | case2 free link untried hstart ih =>
      rw [List.mem_cons, ih, Tour.cons_iff, Tour.singleton_iff]
      simp [hstart]
  | case3 free link untried hstart hfree ih ih' =>
      rw [List.mem_append, List.mem_map, ih', Tour.cons_iff, Tour.singleton_iff]
      simp [ih, hstart, hfree, and_comm, eq_comm]
  | case4 free link untried hstart hfree ih =>
      rw [ih, Tour.cons_iff, Tour.singleton_iff]
      simp [hstart, hfree]

/-- The labels above a start, which are those that a walk from there may enter. -/
def above (start : String) (labels : List String) : List String :=
  labels.filter fun other => decide (start < other)

theorem mem_above {start label : String} {labels : List String} :
    label ∈ above start labels ↔ start < label ∧ label ∈ labels := by
  simp [above, and_comm]

theorem above_perm (start : String) {labels labels' : List String} (hperm : labels.Perm labels') :
    (above start labels).Perm (above start labels') :=
  hperm.filter _

theorem above_erase (start label : String) (labels : List String) :
    above start (labels.erase label) = (above start labels).erase label :=
  List.erase_filter.symm

namespace Walk

variable {graph : Graph} {start : String} {frames : List Frame} {path : List Link}
  {free free' : List String}

/-- The tours that a stack of frames has ahead of it, with the path that leads to each frame.
Leaving a frame makes its label free again. -/
def stackTours (graph : Graph) (start : String) :
    List Frame → List Link → List String → List (List Link)
  | [], _, _ => []
  | frame :: frames, path, free =>
      (tours graph start frame.untried (above start free)).map (path.reverse ++ ·) ++
        stackTours graph start frames path.tail (frame.label :: free)

/-- The cycles that a walk has ahead of it. -/
def ahead (graph : Graph) (start : String) (walk : Walk) : List Cycle :=
  (stackTours graph start walk.frames walk.path walk.free).map Cycle.mk

theorem stackTours_perm (hperm : free.Perm free') :
    stackTours graph start frames path free = stackTours graph start frames path free' := by
  induction frames generalizing path free free' with
  | nil => rfl
  | cons frame frames ih =>
      rw [stackTours, stackTours, tours_perm (above_perm start hperm), ih (hperm.cons frame.label)]

/-- A link to a label that cannot be entered is passed over. -/
theorem step_passing {label : String} {link : Link} {untried : List Link}
    (hstart : link.target ≠ start) (henter : ¬(start < link.target ∧ link.target ∈ free)) :
    (Walk.mk (⟨label, link :: untried⟩ :: frames) path free).step graph start =
      .go ⟨⟨label, untried⟩ :: frames, path, free⟩ :=
  (if_neg hstart).trans (if_neg henter)

/-- A move takes the cycle that it closes off what lies ahead, and changes nothing else there. -/
theorem ahead_step (graph : Graph) (start : String) (walk : Walk) :
    walk.ahead graph start =
      match walk.step graph start with
      | .done => []
      | .go next => next.ahead graph start
      | .close cycle next => cycle :: next.ahead graph start := by
  obtain ⟨frames, path, free⟩ := walk
  match frames with
  | [] => rfl
  | ⟨label, []⟩ :: frames => simp [step, ahead, stackTours]
  | ⟨label, link :: untried⟩ :: frames =>
      by_cases hstart : link.target = start
      · simp [step, ahead, stackTours, hstart, tours_cons_of_start]
      · by_cases henter : start < link.target ∧ link.target ∈ free
        · -- On the way back the label is free again, only in another place.
          have hback := List.perm_cons_erase henter.2
          have huntried := @tours_perm graph start untried _ _ (above_perm start hback)
          have hframes := @stackTours_perm graph start frames path.tail _ _ (hback.cons label)
          simp [step, ahead, stackTours, hstart, henter,
            tours_cons_of_mem hstart (mem_above.mpr henter), above_erase, huntried, hframes]
        · rw [step_passing hstart henter]
          simp [ahead, stackTours, tours_cons_of_notMem hstart (mt mem_above.mp henter)]

/-- The labels on the stack, innermost first. -/
def labels (walk : Walk) : List String :=
  walk.frames.map (·.label)

/-- A move only shifts labels between the stack and what is free. -/
theorem labels_step (graph : Graph) (start : String) (walk : Walk) :
    match walk.step graph start with
    | .done => walk.labels = []
    | .go next | .close _ next => (next.labels ++ next.free).Perm (walk.labels ++ walk.free) := by
  obtain ⟨frames, path, free⟩ := walk
  match frames with
  | [] => rfl
  | ⟨label, []⟩ :: frames => exact List.perm_middle
  | ⟨label, link :: untried⟩ :: frames =>
      by_cases hstart : link.target = start
      · simp [step, hstart, labels]
      · by_cases henter : start < link.target ∧ link.target ∈ free
        · simp only [step, hstart, henter, and_self, ↓reduceIte, labels, List.map_cons]
          exact List.perm_middle.symm.trans ((List.perm_cons_erase henter.2).symm.append_left _)
        · rw [step_passing hstart henter]
          exact List.Perm.refl _

end Walk

namespace Harvest

/-- A harvest is truncated only when it has no room left. -/
def Sound (harvest : Harvest) : Prop :=
  harvest.truncated = true → harvest.room = some 0

theorem Sound.add {harvest : Harvest} (hsound : harvest.Sound) (cycle : Cycle) :
    (harvest.add cycle).Sound := by
  unfold Sound Harvest.add at *
  split <;> simp_all

/-- A truncated harvest stays as it is. -/
theorem foldl_add_of_truncated {harvest : Harvest} (hsound : harvest.Sound)
    (htruncated : harvest.truncated = true) (found : List Cycle) :
    found.foldl add harvest = harvest := by
  have hadd : ∀ cycle, harvest.add cycle = harvest := by
    obtain ⟨cycles, room, truncated⟩ := harvest
    intro cycle
    cases htruncated
    rw [show room = some 0 from hsound rfl]
    rfl
  induction found with
  | nil => rfl
  | cons cycle found ih => rw [List.foldl_cons, hadd, ih]

theorem Sound.foldl_add {harvest : Harvest} (hsound : harvest.Sound) (found : List Cycle) :
    (found.foldl Harvest.add harvest).Sound := by
  induction found generalizing harvest with
  | nil => exact hsound
  | cons cycle found ih => exact ih (hsound.add cycle)

end Harvest

/-- A walk harvests the cycles that it has ahead of it. -/
theorem Walk.found_run (graph : Graph) (start : String) (walk : Walk) (found : Harvest)
    (hsound : found.Sound) :
    (walk.run graph start found).found = (walk.ahead graph start).foldl Harvest.add found := by
  fun_induction Walk.run graph start walk found with
  | case1 walk found hstep => rw [Walk.ahead_step, hstep, List.foldl_nil]
  | case2 walk found next hstep ih => rw [Walk.ahead_step, hstep, ih hsound]
  | case3 walk found cycle next hstep found' htruncated =>
      rw [Walk.ahead_step, hstep, List.foldl_cons]
      exact (Harvest.foldl_add_of_truncated (hsound.add cycle) htruncated _).symm
  | case4 walk found cycle next hstep found' htruncated ih =>
      rw [Walk.ahead_step, hstep, List.foldl_cons]
      exact ih (hsound.add cycle)

/-- A walk that is not cut short leaves all labels free that were free or on its stack. -/
theorem Walk.free_run (graph : Graph) (start : String) (walk : Walk) (found : Harvest)
    (hopen : (walk.run graph start found).found.truncated = false) :
    (walk.run graph start found).free.Perm (walk.labels ++ walk.free) := by
  fun_induction Walk.run graph start walk found with
  | case1 walk found hstep =>
      have hlabels := Walk.labels_step graph start walk
      rw [hstep] at hlabels
      rw [show walk.labels = [] from hlabels]
      exact List.Perm.refl _
  | case2 walk found next hstep ih =>
      have hlabels := Walk.labels_step graph start walk
      rw [hstep] at hlabels
      exact (ih hopen).trans hlabels
  | case3 walk found cycle next hstep found' htruncated =>
      rw [htruncated] at hopen
      cases hopen
  | case4 walk found cycle next hstep found' htruncated ih =>
      have hlabels := Walk.labels_step graph start walk
      rw [hstep] at hlabels
      exact (ih hopen).trans hlabels

/-- The tours from a label through the labels above it. -/
def Graph.toursFrom (graph : Graph) (label : String) : List (List Link) :=
  tours graph label (graph.out label) (graph.labels.filter fun other => decide (label < other))

/-- All cycles of a graph, from its least label on. -/
def Graph.cycles (graph : Graph) : List Cycle :=
  graph.labels.flatMap fun label => (graph.toursFrom label).map Cycle.mk

theorem Walk.ahead_start {graph : Graph} {free : List String} (hfree : free.Perm graph.labels)
    (label : String) :
    (Walk.start graph free label).ahead graph label = (graph.toursFrom label).map Cycle.mk := by
  -- The start itself is not above the start, so it makes no difference that it is taken.
  have hself : above label (free.erase label) = above label free := by
    rw [above_erase, List.erase_of_not_mem (by simp [mem_above])]
  have htours : tours graph label (graph.out label) (above label free) = graph.toursFrom label :=
    tours_perm (above_perm label hfree)
  simp [Walk.ahead, Walk.stackTours, Walk.start, hself, htours]

namespace Search

/-- Between two starts all labels are free, unless the search is over. -/
structure Between (graph : Graph) (search : Search) : Prop where
  sound : search.found.Sound
  free : search.found.truncated = false → search.free.Perm graph.labels

variable {graph : Graph} {search : Search} {label : String}

theorem Between.walkFrom (hbetween : search.Between graph) (hlabel : label ∈ graph.labels) :
    (search.walkFrom graph label).Between graph ∧
      (search.walkFrom graph label).found =
        ((graph.toursFrom label).map Cycle.mk).foldl Harvest.add search.found := by
  unfold Search.walkFrom
  split
  next htruncated =>
    exact ⟨hbetween, (Harvest.foldl_add_of_truncated hbetween.sound htruncated _).symm⟩
  next hopen =>
    have hfree := hbetween.free (Bool.eq_false_iff.mpr hopen)
    have hfound := Walk.found_run graph label (Walk.start graph search.free label) search.found
      hbetween.sound
    rw [Walk.ahead_start hfree] at hfound
    refine ⟨⟨hfound ▸ hbetween.sound.foldl_add _, fun hended => ?_⟩, hfound⟩
    -- The walk has put the start on its stack and takes it off in the end.
    have hstart : (label :: search.free.erase label).Perm search.free :=
      (List.perm_cons_erase (hfree.mem_iff.mpr hlabel)).symm
    exact (Walk.free_run graph label _ _ hended).trans (hstart.trans hfree)

/-- Searching from one label after the other harvests the cycles from all of them. -/
theorem Between.foldl_walkFrom (labels : List String) (hlabels : labels ⊆ graph.labels)
    (hbetween : search.Between graph) :
    (labels.foldl (Search.walkFrom graph) search).Between graph ∧
      (labels.foldl (Search.walkFrom graph) search).found =
        (labels.flatMap fun label => (graph.toursFrom label).map Cycle.mk).foldl
          Harvest.add search.found := by
  induction labels generalizing search with
  | nil => exact ⟨hbetween, rfl⟩
  | cons label labels ih =>
      obtain ⟨hlabel, hlabels⟩ := List.cons_subset.mp hlabels
      obtain ⟨hnext, hfound⟩ := hbetween.walkFrom hlabel
      obtain ⟨hlast, hrest⟩ := ih hlabels hnext
      rw [List.foldl_cons, List.flatMap_cons, List.foldl_append, ← hfound]
      exact ⟨hlast, hrest⟩

theorem between_start (graph : Graph) (limit : Option Nat) :
    Between graph ⟨{ room := limit }, graph.labels⟩ where
  sound := by
    intro htruncated
    cases htruncated
  free := fun _ => List.Perm.refl _

end Search

/-- The part of a list that a limit lets pass. -/
def upTo {α : Type} : Option Nat → List α → List α
  | none, entries => entries
  | some limit, entries => entries.take limit

/-- Whether a list is longer than a limit. -/
def exceeds {α : Type} : Option Nat → List α → Bool
  | none, _ => false
  | some limit, entries => decide (limit < entries.length)

theorem Harvest.cycles_foldl_add (found : List Cycle) (harvest : Harvest) :
    (found.foldl Harvest.add harvest).cycles =
      (upTo harvest.room found).reverse ++ harvest.cycles := by
  induction found generalizing harvest with
  | nil => cases hroom : harvest.room <;> simp [upTo]
  | cons cycle found ih =>
      rw [List.foldl_cons, ih, add]
      split
      next hroom => simp [hroom, upTo]
      next hroom => simp [hroom, upTo]
      next room hroom => simp [hroom, upTo]

theorem Harvest.truncated_foldl_add (found : List Cycle) (harvest : Harvest) :
    (found.foldl Harvest.add harvest).truncated =
      (harvest.truncated || exceeds harvest.room found) := by
  induction found generalizing harvest with
  | nil => cases hroom : harvest.room <;> simp [exceeds]
  | cons cycle found ih =>
      rw [List.foldl_cons, ih, add]
      split
      next hroom => simp [hroom, exceeds]
      next hroom => simp [hroom, exceeds]
      next room hroom => simp [hroom, exceeds]

/-- A search reports the cycles of its graph up to the limit, and whether there are more. -/
theorem searchCycles_eq (links : List Link) (limit : Option Nat) :
    searchCycles links limit =
      ⟨upTo limit (Graph.ofLinks links).cycles, exceeds limit (Graph.ofLinks links).cycles⟩ := by
  have hfound :
      (Search.walkFromAll (Graph.ofLinks links) limit (Graph.ofLinks links).labels).found =
        (Graph.ofLinks links).cycles.foldl Harvest.add { room := limit } :=
    ((Search.between_start _ limit).foldl_walkFrom _ (List.Subset.refl _)).2
  simp only [searchCycles, hfound, Harvest.cycles_foldl_add, Harvest.truncated_foldl_add,
    List.append_nil, List.reverse_reverse, Bool.false_or]

theorem findCycles_eq (links : List Link) : findCycles links = (Graph.ofLinks links).cycles := by
  unfold findCycles
  rw [searchCycles_eq]
  rfl

/-- A search with a limit reports the first cycles of the search without one, as many of them as the
limit lets pass, and calls itself truncated exactly if there are more. A search without a limit is
never truncated. -/
theorem searchCycles_limited (links : List Link) :
    (∀ limit : Nat,
      (searchCycles links (some limit)).cycles = (findCycles links).take limit ∧
        ((searchCycles links (some limit)).truncated = true ↔
          limit < (findCycles links).length)) ∧
      (searchCycles links none).truncated = false := by
  refine ⟨fun limit => ?_, ?_⟩
  · rw [searchCycles_eq, findCycles_eq]
    exact ⟨rfl, decide_eq_true_iff⟩
  · rw [searchCycles_eq]
    rfl

end ImportRules
