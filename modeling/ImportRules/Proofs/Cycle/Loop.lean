import ImportRules.Proofs.Cycle.Graph
import ImportRules.Proofs.Cycle.Tour
/-!
# The loop of the search for cycles

Every start has a loop of its own, in which a walk makes one move after the other. Whenever the loop
comes round, the labels on the stack are distinct, the outermost of them is the start and the others
are above it. They are the labels that are not free, and the links of the path join each of them to
the next inner one. When the walk is done all labels are free again, and these are what the next
start is given. Every loop ends, after no more moves than the walk set out with.
-/

namespace ImportRules

variable {links : List Link} {limit : Option Nat} {graph : Graph} {start : String}
  {walk next : Walk} {found : Harvest} {count : Nat}

/-! ## One move -/

/-- The walk after a move. -/
def Move.next? : Move → Option Walk
  | .done => none
  | .go next | .close _ next => some next

namespace Walk

/-- A move leaves a label that has no link left, or tries a link. A link that is tried is passed
over for good, unless it leads to a free label above the start: then this label is entered. -/
theorem cases_of_next? (hnext : (walk.step graph start).next? = some next) :
    (∃ label frames, walk.frames = ⟨label, []⟩ :: frames ∧
      next = ⟨frames, walk.path.tail, label :: walk.free⟩) ∨
    ∃ label link untried frames, walk.frames = ⟨label, link :: untried⟩ :: frames ∧
      (next = ⟨⟨label, untried⟩ :: frames, walk.path, walk.free⟩ ∨
        start < link.target ∧ link.target ∈ walk.free ∧
          next = ⟨⟨link.target, graph.out link.target⟩ :: ⟨label, untried⟩ :: frames,
            link :: walk.path, walk.free.erase link.target⟩) := by
  obtain ⟨frames, path, free⟩ := walk
  rcases frames with _ | ⟨⟨label, _ | ⟨link, untried⟩⟩, frames⟩
  · cases hnext
  · left
    exact ⟨label, frames, rfl, (Option.some.inj hnext).symm⟩
  · right
    refine ⟨label, link, untried, frames, rfl, ?_⟩
    by_cases hstart : link.target = start
    · left
      simp only [step, hstart, if_true, Move.next?, Option.some.injEq] at hnext
      exact hnext.symm
    by_cases henter : start < link.target ∧ link.target ∈ free
    · right
      simp only [step, hstart, henter, and_self, if_false, if_true, Move.next?,
        Option.some.injEq] at hnext
      exact ⟨henter.1, henter.2, hnext.symm⟩
    · left
      simp only [step, hstart, henter, if_false, Move.next?, Option.some.injEq] at hnext
      exact hnext.symm

theorem frames_eq_nil_of_done (hdone : walk.step graph start = .done) : walk.frames = [] := by
  obtain ⟨frames, path, free⟩ := walk
  rcases frames with _ | ⟨⟨label, _ | ⟨link, untried⟩⟩, frames⟩
  · rfl
  · cases hdone
  · by_cases hstart : link.target = start
    · simp [step, hstart] at hdone
    · by_cases henter : start < link.target ∧ link.target ∈ free
      · simp only [step, hstart, henter, and_self, if_false, if_true, reduceCtorEq] at hdone
      · simp only [step, hstart, henter, if_false, reduceCtorEq] at hdone

theorem cost_of_next? (hnext : (walk.step graph start).next? = some next) :
    next.cost graph < walk.cost graph := by
  have hcost := cost_step graph start walk
  cases hstep : walk.step graph start with
  | done =>
      rw [hstep] at hnext
      cases hnext
  | go other =>
      rw [hstep] at hnext hcost
      exact Option.some.inj hnext ▸ hcost
  | close cycle other =>
      rw [hstep] at hnext hcost
      exact Option.some.inj hnext ▸ hcost

/-! ## What a move keeps -/

/-- What every move of a walk keeps. The labels on the stack and the free labels share out the
labels of the graph. -/
structure Kept (graph : Graph) (start : String) (walk : Walk) : Prop where
  shared : (walk.labels ++ walk.free).Perm graph.labels
  outermost : walk.labels = [] ∨
    ∃ inner, walk.labels = inner ++ [start] ∧ ∀ label ∈ inner, start < label
  ends : walk.path.map Link.ends = walk.labels.tail.zip walk.labels
  arcs : ∀ link ∈ walk.path, link ∈ graph.out link.source
  untried : ∀ frame ∈ walk.frames, frame.untried <:+ graph.out frame.label

theorem kept_start {free : List String} (hfree : free.Perm graph.labels)
    (hstart : start ∈ graph.labels) : (Walk.start graph free start).Kept graph start where
  shared := (List.perm_cons_erase (hfree.mem_iff.mpr hstart)).symm.trans hfree
  outermost := .inr ⟨[], rfl, by simp⟩
  ends := rfl
  arcs := by simp [Walk.start]
  untried := by simp [Walk.start]

namespace Kept

/-- Leaving a label makes it free and takes the link to it off the path. At the outermost label
there is no such link. -/
theorem leave {label : String} {frames : List Frame} {path : List Link} {free : List String}
    (hkept : Walk.Kept graph start ⟨⟨label, []⟩ :: frames, path, free⟩) :
    Walk.Kept graph start ⟨frames, path.tail, label :: free⟩ where
  shared := List.perm_middle.trans hkept.shared
  outermost := by
    obtain hempty | ⟨inner, hinner, habove⟩ := hkept.outermost
    · cases hempty
    · cases inner with
      | nil => exact .inl (List.cons.inj hinner).2
      | cons first inner =>
          exact .inr ⟨inner, (List.cons.inj hinner).2, (List.forall_mem_cons.mp habove).2⟩
  ends := by
    have hends := congrArg List.tail hkept.ends
    rw [← List.map_tail] at hends
    refine hends.trans ?_
    -- Below the outermost label there is nothing, and the path that is cut is empty already.
    cases frames <;> rfl
  arcs := fun link hlink => hkept.arcs link (List.mem_of_mem_tail hlink)
  untried := (List.forall_mem_cons.mp hkept.untried).2

/-- Passing a link over changes nothing but the links to try. -/
theorem pass {label : String} {link : Link} {untried : List Link} {frames : List Frame}
    {path : List Link} {free : List String}
    (hkept : Walk.Kept graph start ⟨⟨label, link :: untried⟩ :: frames, path, free⟩) :
    Walk.Kept graph start ⟨⟨label, untried⟩ :: frames, path, free⟩ where
  shared := hkept.shared
  outermost := hkept.outermost
  ends := hkept.ends
  arcs := hkept.arcs
  untried := by
    obtain ⟨huntried, hframes⟩ := List.forall_mem_cons.mp hkept.untried
    exact List.forall_mem_cons.mpr ⟨(List.suffix_cons link untried).trans huntried, hframes⟩

/-- Entering a free label above the start puts it on the stack and the link to it on the path. -/
theorem enter {label : String} {link : Link} {frames : List Frame} {path : List Link}
    {free : List String} {untried : List Link}
    (hkept : Walk.Kept graph start ⟨⟨label, untried⟩ :: frames, path, free⟩)
    (hlink : link ∈ graph.out label) (hsource : link.source = label)
    (hlt : start < link.target) (hfree : link.target ∈ free) :
    Walk.Kept graph start ⟨⟨link.target, graph.out link.target⟩ :: ⟨label, untried⟩ :: frames,
      link :: path, free.erase link.target⟩ where
  shared := by
    refine List.Perm.trans ?_ hkept.shared
    exact List.perm_middle.symm.trans ((List.perm_cons_erase hfree).symm.append_left _)
  outermost := by
    obtain hempty | ⟨inner, hinner, habove⟩ := hkept.outermost
    · cases hempty
    · exact .inr ⟨link.target :: inner, congrArg (link.target :: ·) hinner,
        List.forall_mem_cons.mpr ⟨hlt, habove⟩⟩
  ends := by
    rw [List.map_cons, hkept.ends, Link.ends, hsource]
    rfl
  arcs := List.forall_mem_cons.mpr ⟨hsource ▸ hlink, hkept.arcs⟩
  untried := List.forall_mem_cons.mpr ⟨List.suffix_refl _, hkept.untried⟩

/-- Every move keeps it. -/
theorem of_next? (hkept : walk.Kept (Graph.ofLinks links) start)
    (hnext : (walk.step (Graph.ofLinks links) start).next? = some next) :
    next.Kept (Graph.ofLinks links) start := by
  obtain ⟨frames, path, free⟩ := walk
  obtain ⟨label, rest, hframes, rfl⟩ | ⟨label, link, untried, rest, hframes, hnext⟩ :=
    cases_of_next? hnext
  · obtain rfl : frames = _ := hframes
    exact hkept.leave
  · obtain rfl : frames = _ := hframes
    obtain rfl | ⟨hlt, hfree, rfl⟩ := hnext
    · exact hkept.pass
    · -- The link has been passed over in its own frame when its target is entered.
      have huntried := (List.forall_mem_cons.mp hkept.untried).1
      have hlink : link ∈ (Graph.ofLinks links).out label := huntried.subset List.mem_cons_self
      exact hkept.pass.enter hlink (Graph.source_of_mem_out hlink) hlt hfree

end Kept

/-! ## What is seen when the loop comes round -/

/-- A label is on the path as far as the marks tell: it is not free. -/
def OnPath (walk : Walk) (label : String) : Prop :=
  label ∉ walk.free

/-- A walk that has frames left is in order: the stack, the marks on labels and the path agree. -/
structure InOrder (graph : Graph) (start : String) (walk : Walk) : Prop where
  distinct : walk.labels.Nodup
  outermost : ∃ inner, walk.labels = inner ++ [start] ∧ ∀ label ∈ inner, start < label
  onPath_iff : ∀ label ∈ graph.labels, walk.OnPath label ↔ label ∈ walk.labels
  /-- Each link of the path leads from a label on the stack to the next inner one. -/
  path_ends : walk.path.map Link.ends = walk.labels.tail.zip walk.labels
  path_arcs : ∀ link ∈ walk.path, link ∈ graph.out link.source
  path_length : walk.labels.length = walk.path.length + 1
  depth : walk.labels.length ≤ graph.labels.length
  untried : ∀ frame ∈ walk.frames, frame.untried <:+ graph.out frame.label

/-- A walk that is done has no link left on its path and no label that is not free. -/
structure Cleared (graph : Graph) (walk : Walk) : Prop where
  path_eq_nil : walk.path = []
  not_onPath : ∀ label ∈ graph.labels, ¬walk.OnPath label
  /-- The free labels are those that the first start has found. -/
  free : walk.free.Perm graph.labels

namespace Kept

theorem nodup (hkept : walk.Kept (Graph.ofLinks links) start) :
    (walk.labels ++ walk.free).Nodup := by
  have hlabels : (Graph.ofLinks links).labels.Nodup :=
    (Graph.labels_ofLinks_pairwise links).imp fun hlt => ne_of_lt hlt
  exact hkept.shared.nodup_iff.mpr hlabels

theorem onPath_iff {label : String} (hkept : walk.Kept (Graph.ofLinks links) start)
    (hlabel : label ∈ (Graph.ofLinks links).labels) :
    walk.OnPath label ↔ label ∈ walk.labels := by
  have hmem : label ∈ walk.labels ∨ label ∈ walk.free :=
    List.mem_append.mp (hkept.shared.mem_iff.mpr hlabel)
  exact ⟨hmem.resolve_right, fun hmem => List.disjoint_of_nodup_append hkept.nodup hmem⟩

theorem inOrder (hkept : walk.Kept (Graph.ofLinks links) start) (hframes : walk.frames ≠ []) :
    walk.InOrder (Graph.ofLinks links) start := by
  have hne : walk.labels ≠ [] := by simpa [labels] using hframes
  have hlength := congrArg List.length hkept.ends
  rw [List.length_map, List.length_zip, List.length_tail] at hlength
  have hpos := List.length_pos_of_ne_nil hne
  have hdepth := hkept.shared.length_eq
  rw [List.length_append] at hdepth
  exact
    { distinct := hkept.nodup.of_append_left
      outermost := hkept.outermost.resolve_left hne
      onPath_iff := fun _ => hkept.onPath_iff
      path_ends := hkept.ends
      path_arcs := hkept.arcs
      path_length := by omega
      depth := by omega
      untried := hkept.untried }

theorem cleared (hkept : walk.Kept (Graph.ofLinks links) start) (hframes : walk.frames = []) :
    walk.Cleared (Graph.ofLinks links) := by
  have hlabels : walk.labels = [] := by rw [labels, hframes, List.map_nil]
  have hends := hkept.ends
  have hshared := hkept.shared
  rw [hlabels] at hends hshared
  refine ⟨List.map_eq_nil_iff.mp hends, ?_, hshared⟩
  intro label hlabel honPath
  exact honPath (hshared.mem_iff.mpr hlabel)

end Kept

end Walk

/-! ## The loop -/

/-- The search when it has dealt with some starts. -/
def searchAfter (links : List Link) (limit : Option Nat) (before : List String) : Search :=
  Search.walkFromAll (Graph.ofLinks links) limit before

theorem searchAfter_concat {before : List String}
    (hopen : (searchAfter links limit before).found.truncated = false) :
    searchAfter links limit (before ++ [start]) =
      (Walk.start (Graph.ofLinks links) (searchAfter links limit before).free start).run
        (Graph.ofLinks links) start (searchAfter links limit before).found := by
  rw [searchAfter, Search.walkFromAll, List.foldl_append, List.foldl_cons, List.foldl_nil,
    Search.walkFrom]
  exact if_neg (Bool.eq_false_iff.mp hopen)

/-- In the loop of a start, so many moves have led to the walk and the harvest. The loop goes on as
long as the harvest is not truncated. -/
inductive InLoop (links : List Link) (limit : Option Nat) :
    String → Nat → Walk → Harvest → Prop
  | first {before after : List String} {start : String}
      (hlabels : (Graph.ofLinks links).labels = before ++ start :: after)
      (hopen : (searchAfter links limit before).found.truncated = false) :
      InLoop links limit start 0
        (Walk.start (Graph.ofLinks links) (searchAfter links limit before).free start)
        (searchAfter links limit before).found
  | go {start : String} {count : Nat} {walk next : Walk} {found : Harvest}
      (hloop : InLoop links limit start count walk found)
      (hstep : walk.step (Graph.ofLinks links) start = .go next) :
      InLoop links limit start (count + 1) next found
  | close {start : String} {count : Nat} {walk next : Walk} {found : Harvest} {cycle : Cycle}
      (hloop : InLoop links limit start count walk found)
      (hstep : walk.step (Graph.ofLinks links) start = .close cycle next)
      (hopen : (found.add cycle).truncated = false) :
      InLoop links limit start (count + 1) next (found.add cycle)

/-- Every start is given all labels as free ones. -/
theorem free_searchAfter {before after : List String}
    (hlabels : (Graph.ofLinks links).labels = before ++ start :: after)
    (hopen : (searchAfter links limit before).found.truncated = false) :
    (searchAfter links limit before).free.Perm (Graph.ofLinks links).labels := by
  have hbefore : before ⊆ (Graph.ofLinks links).labels := hlabels ▸ List.subset_append_left _ _
  exact ((Search.between_start _ limit).foldl_walkFrom before hbefore).1.free hopen

namespace InLoop

theorem kept (hloop : InLoop links limit start count walk found) :
    walk.Kept (Graph.ofLinks links) start := by
  induction hloop with
  | first hlabels hopen =>
      exact Walk.kept_start (free_searchAfter hlabels hopen) (hlabels ▸ by simp)
  | go hloop hstep ih => exact ih.of_next? (by rw [hstep]; rfl)
  | close hloop hstep hopen ih => exact ih.of_next? (by rw [hstep]; rfl)

/-- Every move uses up some of the cost that the walk sets out with. -/
theorem count_add_cost_le (hloop : InLoop links limit start count walk found) :
    count + walk.cost (Graph.ofLinks links) ≤
      (Walk.start (Graph.ofLinks links) (Graph.ofLinks links).labels start).cost
        (Graph.ofLinks links) := by
  induction hloop with
  | @first before after start hlabels hopen =>
      -- Only the number of free labels counts.
      have hfree := (free_searchAfter hlabels hopen).erase start
      rw [Nat.zero_add, Walk.cost, Walk.cost, Walk.start, Walk.start, hfree.length_eq]
  | @go start count walk next found hloop hstep ih =>
      have hcost : next.cost (Graph.ofLinks links) < walk.cost (Graph.ofLinks links) :=
        Walk.cost_of_next? (by rw [hstep]; rfl)
      omega
  | @close start count walk next found cycle hloop hstep hopen ih =>
      have hcost : next.cost (Graph.ofLinks links) < walk.cost (Graph.ofLinks links) :=
        Walk.cost_of_next? (by rw [hstep]; rfl)
      omega

end InLoop

/-- A loop ends with a result: either every link has been tried, and the labels that are free go to
the next start, or a cycle is met for which the harvest has no room. -/
def Walk.EndsWith (graph : Graph) (start : String) (walk : Walk) (found : Harvest)
    (result : Search) : Prop :=
  walk.frames = [] ∧ result = ⟨found, walk.free⟩ ∨
    ∃ cycle next, walk.step graph start = .close cycle next ∧
      (found.add cycle).truncated = true ∧ result.found = found.add cycle

/-- From wherever a loop is, it comes to an end, and the run of the walk gives what it ends with. -/
theorem InLoop.exists_end (walk : Walk) (found : Harvest) :
    ∀ count, InLoop links limit start count walk found →
      ∃ moves last harvest, InLoop links limit start moves last harvest ∧
        last.EndsWith (Graph.ofLinks links) start harvest
          (walk.run (Graph.ofLinks links) start found) := by
  fun_induction Walk.run (Graph.ofLinks links) start walk found with
  | case1 walk found hdone =>
      intro count hloop
      exact ⟨count, walk, found, hloop, .inl ⟨Walk.frames_eq_nil_of_done hdone, rfl⟩⟩
  | case2 walk found next hstep ih =>
      intro count hloop
      exact ih (count + 1) (hloop.go hstep)
  | case3 walk found cycle next hstep grown htruncated =>
      intro count hloop
      exact ⟨count, walk, found, hloop, .inr ⟨cycle, next, hstep, htruncated, rfl⟩⟩
  | case4 walk found cycle next hstep grown hopen ih =>
      intro count hloop
      exact ih (count + 1) (hloop.close hstep (Bool.eq_false_iff.mpr hopen))

/-- Whatever the links and the limit are, the search goes through the loops of its starts. Each time
the loop of a start comes round, the stack, the marks on labels and the path agree; when the walk is
done, all labels are free again. A loop makes no more moves than its walk set out with, and it comes
to an end with what the search is after this start. -/
theorem searchCycles_loop (links : List Link) (limit : Option Nat) :
    (∀ start count walk found, InLoop links limit start count walk found →
      (walk.frames ≠ [] → walk.InOrder (Graph.ofLinks links) start) ∧
      (walk.frames = [] → walk.Cleared (Graph.ofLinks links)) ∧
      count ≤ (Walk.start (Graph.ofLinks links) (Graph.ofLinks links).labels start).cost
        (Graph.ofLinks links)) ∧
    (∀ before start after, (Graph.ofLinks links).labels = before ++ start :: after →
      (searchAfter links limit before).found.truncated = false →
        ∃ count walk found, InLoop links limit start count walk found ∧
          walk.EndsWith (Graph.ofLinks links) start found
            (searchAfter links limit (before ++ [start]))) ∧
    searchCycles links limit =
      ⟨(searchAfter links limit (Graph.ofLinks links).labels).found.cycles.reverse,
        (searchAfter links limit (Graph.ofLinks links).labels).found.truncated⟩ := by
  refine ⟨?_, ?_, rfl⟩
  · intro start count walk found hloop
    refine ⟨hloop.kept.inOrder, hloop.kept.cleared, ?_⟩
    have hcount := hloop.count_add_cost_le
    omega
  · intro before start after hlabels hopen
    rw [searchAfter_concat hopen]
    exact InLoop.exists_end _ _ 0 (.first hlabels hopen)

/-- With a single link the loop comes round at its target, above the start. -/
theorem searchCycles_loop_single_link :
    ∃ walk found, InLoop [⟨"a", "b", []⟩] (some 0) "a" 1 walk found ∧ walk.labels = ["b", "a"] ∧
      walk.InOrder (Graph.ofLinks [⟨"a", "b", []⟩]) "a" := by
  have hsorted : sortedLabels ["a", "b"] = ["a", "b"] := by
    rw [sortedLabels, List.mergeSort_of_pairwise (by decide)]
    decide
  have hlabels : (Graph.ofLinks [⟨"a", "b", []⟩]).labels = ["a", "b"] := by
    simpa [Graph.ofLinks, Graph.labels, Link.isLoop, Function.comp_def] using hsorted
  have hout : (Graph.ofLinks [⟨"a", "b", []⟩]).out "a" = [⟨"a", "b", []⟩] := by
    have honly : [(⟨"a", "b", []⟩ : Link)].filter
        (fun link => !link.isLoop && link.source == "a") = [⟨"a", "b", []⟩] := by decide
    rw [Graph.out_ofLinks, Graph.outOf, honly, List.mergeSort_singleton]
    decide
  have hstart : Walk.start (Graph.ofLinks [⟨"a", "b", []⟩])
      (Graph.ofLinks [⟨"a", "b", []⟩]).labels "a" = ⟨[⟨"a", [⟨"a", "b", []⟩]⟩], [], ["b"]⟩ := by
    rw [Walk.start, hout, hlabels]
    rfl
  have hfirst : InLoop [⟨"a", "b", []⟩] (some 0) "a" 0 (Walk.start _ _ "a") { room := some 0 } :=
    @InLoop.first [⟨"a", "b", []⟩] (some 0) [] ["b"] "a" hlabels rfl
  rw [show (searchAfter [⟨"a", "b", []⟩] (some 0) []).free =
    (Graph.ofLinks [⟨"a", "b", []⟩]).labels from rfl, hstart] at hfirst
  have hsecond := hfirst.go rfl
  refine ⟨_, _, hsecond, rfl, ?_⟩
  exact ((searchCycles_loop _ _).1 _ _ _ _ hsecond).1 (List.cons_ne_nil _ _)

end ImportRules
