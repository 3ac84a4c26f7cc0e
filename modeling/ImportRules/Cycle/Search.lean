import ImportRules.Cycle.Basic
/-!
# Search for cycles

The search walks the graph depth first from every label in turn and visits only labels above the
one it started from, so that every cycle is met at its smallest label and nowhere else. A walk is a
stack of frames, each with the links it has not tried yet; a link back to the start closes a cycle,
a link to a label above the start that is still free is followed. What is free is kept for all
starts together: a walk finds the labels free that the walk before it has left so.

`Walk.step` is one move of the walk. The walk ends: `Walk.cost` bounds the moves that are left, and
every move lowers it.
-/

namespace ImportRules

/-- A label on the current path and its links that have not been tried. -/
structure Frame where
  label : String
  untried : List Link
  deriving DecidableEq, Repr

/-- State of a walk: the frames and the links between them, both innermost first, and the labels
that are not on the path. -/
structure Walk where
  frames : List Frame
  path : List Link
  free : List String
  deriving DecidableEq, Repr

/-- What a move does. -/
inductive Move where
  /-- Every link has been tried. -/
  | done
  | go (next : Walk)
  /-- A link leads back to the start. -/
  | close (cycle : Cycle) (next : Walk)

namespace Walk

/-- The walk before its first move, with the labels that are free until then. -/
def start (graph : Graph) (free : List String) (label : String) : Walk where
  frames := [⟨label, graph.out label⟩]
  path := []
  free := free.erase label

/-- One move of a walk that started at `start`. -/
def step (graph : Graph) (start : String) (walk : Walk) : Move :=
  match walk.frames with
  | [] => .done
  | ⟨label, []⟩ :: frames =>
      .go { frames, path := walk.path.tail, free := label :: walk.free }
  | ⟨label, link :: untried⟩ :: frames =>
      let here := ⟨label, untried⟩ :: frames
      if link.target = start then
        .close ⟨(link :: walk.path).reverse⟩ { walk with frames := here }
      else if start < link.target ∧ link.target ∈ walk.free then
        .go
          { frames := ⟨link.target, graph.out link.target⟩ :: here
            path := link :: walk.path
            free := walk.free.erase link.target }
      else .go { walk with frames := here }

/-- Upper bound on the moves that a frame entered with `free` free labels left can cause, in a
graph with `links` links. -/
def entryCost (links : Nat) : Nat → Nat
  | 0 => 0
  | free + 1 => 1 + links * (1 + entryCost links free)

/-- Upper bound on the moves that a stack of frames can still cause. -/
def stackCost (links : Nat) : List Frame → Nat → Nat
  | [], _ => 0
  | frame :: frames, free =>
      1 + frame.untried.length * (1 + entryCost links free) + stackCost links frames (free + 1)

/-- Upper bound on the moves left in a walk. -/
def cost (graph : Graph) (walk : Walk) : Nat :=
  stackCost graph.size walk.frames walk.free.length

/-- Entering a frame costs no more than what was set aside for it. -/
theorem cost_enter (graph : Graph) (label target : String) (link : Link) (untried : List Link)
    (frames : List Frame) (path path' : List Link) (free : List String) (hfree : target ∈ free) :
    cost graph ⟨⟨target, graph.out target⟩ :: ⟨label, untried⟩ :: frames, path',
      free.erase target⟩ < cost graph ⟨⟨label, link :: untried⟩ :: frames, path, free⟩ := by
  have hpos : 0 < free.length := List.length_pos_of_mem hfree
  have hlength := List.length_erase_of_mem hfree
  obtain ⟨n, hn⟩ : ∃ n, free.length = n + 1 := ⟨free.length - 1, by omega⟩
  have hout : (graph.out target).length * (1 + entryCost graph.size n) ≤
      graph.size * (1 + entryCost graph.size n) :=
    Nat.mul_le_mul_right _ (graph.length_out_le_size target)
  have hentry : entryCost graph.size (n + 1) = 1 + graph.size * (1 + entryCost graph.size n) := rfl
  simp only [cost, stackCost, hlength, hn, List.length_cons, Nat.add_sub_cancel, Nat.succ_mul]
  omega

/-- Every move lowers the cost. -/
theorem cost_step (graph : Graph) (start : String) (walk : Walk) :
    match walk.step graph start with
    | .done => True
    | .go next | .close _ next => next.cost graph < walk.cost graph := by
  obtain ⟨frames, path, free⟩ := walk
  match frames with
  | [] => simp [step]
  | ⟨label, []⟩ :: frames => simp [step, cost, stackCost]
  | ⟨label, link :: untried⟩ :: frames =>
      by_cases hclose : link.target = start
      · simp only [step, hclose, ↓reduceIte, cost, stackCost, List.length_cons, Nat.succ_mul]
        omega
      · by_cases henter : start < link.target ∧ link.target ∈ free
        · simp only [step, hclose, henter, and_self, ↓reduceIte]
          exact cost_enter graph label link.target link untried frames path _ free henter.2
        · simp only [step, hclose, henter, ↓reduceIte, cost, stackCost, List.length_cons,
            Nat.succ_mul]
          omega

end Walk

/-- The cycles found so far, latest first, and how many more are wanted. -/
structure Harvest where
  cycles : List Cycle := []
  room : Option Nat
  /-- A cycle was met after the room had run out. -/
  truncated : Bool := false

/-- Takes in a cycle, or notes that there is no room for it. -/
def Harvest.add (harvest : Harvest) (cycle : Cycle) : Harvest :=
  match harvest.room with
  | none => { harvest with cycles := cycle :: harvest.cycles }
  | some 0 => { harvest with truncated := true }
  | some (room + 1) => { harvest with cycles := cycle :: harvest.cycles, room := some room }

/-- A search between two starts: what it has found, and the labels that are free. -/
structure Search where
  found : Harvest
  free : List String

/-- Walks on until every link has been tried or the harvest is truncated. -/
def Walk.run (graph : Graph) (start : String) (walk : Walk) (found : Harvest) : Search :=
  match _hstep : walk.step graph start with
  | .done => ⟨found, walk.free⟩
  | .go next => run graph start next found
  | .close cycle next =>
      let found := found.add cycle
      if found.truncated then ⟨found, next.free⟩ else run graph start next found
termination_by walk.cost graph
decreasing_by
  all_goals
    have hcost := Walk.cost_step graph start walk
    rw [_hstep] at hcost
    exact hcost

/-- The outcome of a search: the cycles in the order in which they were met, and whether there are
more of them. -/
structure CycleReport where
  cycles : List Cycle
  truncated : Bool
  deriving DecidableEq, Repr

namespace Search

/-- Walks from one more label, unless the harvest is truncated. -/
def walkFrom (graph : Graph) (search : Search) (label : String) : Search :=
  if search.found.truncated then search
  else (Walk.start graph search.free label).run graph label search.found

/-- Walks from one label after the other. At first all labels are free. -/
def walkFromAll (graph : Graph) (limit : Option Nat) (labels : List String) : Search :=
  labels.foldl (walkFrom graph) ⟨{ room := limit }, graph.labels⟩

end Search

/-- Searches the cycles of a list of links, at most `limit` of them if there is a limit. -/
def searchCycles (links : List Link) (limit : Option Nat) : CycleReport :=
  let graph := Graph.ofLinks links
  let search := Search.walkFromAll graph limit graph.labels
  ⟨search.found.cycles.reverse, search.found.truncated⟩

/-- All cycles of a list of links. -/
def findCycles (links : List Link) : List Cycle :=
  (searchCycles links none).cycles

end ImportRules
