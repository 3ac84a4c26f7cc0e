import ImportRules.Diagram.Reader
import ImportRules.Proofs.Diagram.RoundTrip
import ImportRules.Rule.Adherence
/-!
# What a diagram asks of links

A relation never stands in a diagram without its ends: declaring it declares them, whichever way its
arrow points and whether its names are components or aliases. Links whose ends are not both
components are therefore never links that the diagram allows, and what a diagram has to say about a
list of links can be told from its relations alone; its components only decide on the reason.
-/

namespace ImportRules

namespace Diagram

/-! ## The ends of relations -/

/-- Both ends of every relation are components. -/
def Closed (diagram : Diagram) : Prop :=
  ∀ relation ∈ diagram.relations,
    relation.source ∈ diagram.components ∧ relation.target ∈ diagram.components

theorem closed_empty : Closed {} := by
  simp [Closed]

namespace Closed

variable {diagram : Diagram}

theorem addComponent (hclosed : diagram.Closed) (name : String) :
    (diagram.addComponent name).Closed := by
  intro relation hrelation
  obtain ⟨hsource, htarget⟩ := hclosed relation hrelation
  exact ⟨mem_insertAscending.mpr (Or.inr hsource), mem_insertAscending.mpr (Or.inr htarget)⟩

theorem addRelation (hclosed : diagram.Closed) (relation : Relation) :
    (diagram.addRelation relation).Closed := by
  intro other hother
  rcases mem_insertAscending.mp hother with rfl | hother
  · refine ⟨mem_insertAscending.mpr (Or.inr ?_), mem_insertAscending.mpr (Or.inl rfl)⟩
    exact mem_insertAscending.mpr (Or.inl rfl)
  · exact ((hclosed.addComponent relation.source).addComponent relation.target) other hother

/-- Taking in a line keeps the diagram closed. -/
theorem add {draft later : Draft} {line : Line} (hclosed : draft.diagram.Closed)
    (hadd : draft.add line = some later) : later.diagram.Closed := by
  cases line with
  | relation left arrow right =>
      rw [Draft.add] at hadd
      cases hheading : heading arrow with
      | rightward =>
          rw [hheading] at hadd
          cases hadd
          exact hclosed.addRelation _
      | leftward =>
          rw [hheading] at hadd
          cases hadd
          exact hclosed.addRelation _
      | unclear =>
          rw [hheading] at hadd
          cases hadd
  | declaration name alias? =>
      cases hadd
      exact hclosed.addComponent _
  | malformed => cases hadd
  | irrelevant =>
      cases hadd
      exact hclosed

/-- So does reading line after line. -/
theorem readBody {number offset : Nat} {draft : Draft} {lines : List (List Char)}
    (hclosed : draft.diagram.Closed)
    (hread : Diagram.readBody number offset draft lines = .ok diagram) : diagram.Closed := by
  induction lines generalizing number offset draft with
  | nil => cases hread
  | cons raw lines ih =>
      rw [Diagram.readBody] at hread
      split at hread
      next =>
        cases hread
        exact hclosed
      next =>
        split at hread
        next => exact ih hclosed hread
        next =>
          split at hread
          next later hadd => exact ih (hclosed.add hadd) hread
          next => cases hread

theorem readLines {number offset : Nat} {lines : List (List Char)}
    (hread : Diagram.readLines number offset lines = .ok diagram) : diagram.Closed := by
  induction lines generalizing number offset with
  | nil => cases hread
  | cons raw lines ih =>
      rw [Diagram.readLines] at hread
      split at hread
      next => exact closed_empty.readBody hread
      next => exact ih hread

theorem foldl_addRelation (hclosed : diagram.Closed) (relations : List Relation) :
    (relations.foldl Diagram.addRelation diagram).Closed := by
  induction relations generalizing diagram with
  | nil => exact hclosed
  | cons relation relations ih => exact ih (hclosed.addRelation relation)

end Closed

/-- How a diagram comes about: it is read from a text or made of a list of relations. -/
inductive Arises : Diagram → Prop
  | read {text : String} {diagram : Diagram} (hread : ofText text = .ok diagram) : Arises diagram
  | made (relations : List Relation) : Arises (ofRelations relations)

theorem Arises.closed {diagram : Diagram} (harises : diagram.Arises) : diagram.Closed := by
  cases harises with
  | read hread => exact Closed.readLines hread
  | made relations => exact closed_empty.foldl_addRelation relations

/-! ## Links against a diagram -/

/-- Both ends of the link are components. -/
def Knows (diagram : Diagram) (link : Link) : Prop :=
  link.source ∈ diagram.components ∧ link.target ∈ diagram.components

/-- The link joins different labels, and the diagram has no relation for it. -/
def Lacks (diagram : Diagram) (link : Link) : Prop :=
  link.source ≠ link.target ∧ ⟨link.source, link.target⟩ ∉ diagram.relations

instance (diagram : Diagram) (link : Link) : Decidable (diagram.Knows link) :=
  inferInstanceAs (Decidable (_ ∧ _))

instance (diagram : Diagram) (link : Link) : Decidable (diagram.Lacks link) :=
  inferInstanceAs (Decidable (_ ∧ _))

/-- The objection to a link that the diagram lacks. -/
def objection (diagram : Diagram) (link : Link) : Violation :=
  .diagram link none (if diagram.Knows link then .undeclaredRelation else .unknownComponent)

end Diagram

namespace DiagramRule

open Diagram

variable {diagram : Diagram}

/-- A link is objected to if the diagram lacks it and, where unknown labels are let pass, knows both
its ends. -/
theorem judge?_eq_ite (hclosed : diagram.Closed) (ignoreUnknown : Bool) (link : Link) :
    judge? ⟨diagram, ignoreUnknown⟩ link =
      if diagram.Lacks link ∧ (ignoreUnknown = true → diagram.Knows link) then
        some (diagram.objection link)
      else none := by
  have hdeclares : (diagram.declares link.source && diagram.declares link.target) =
      decide (diagram.Knows link) := by
    rw [Bool.eq_iff_iff, decide_eq_true_iff]
    simp [declares, Diagram.Knows]
  by_cases hloop : link.source = link.target
  · simp [judge?, Link.isLoop, Diagram.Lacks, hloop]
  · by_cases hrelation : ⟨link.source, link.target⟩ ∈ diagram.relations
    · -- Here the diagram has to be closed: a link that it allows is never unknown to it.
      have hknows : diagram.Knows link := hclosed _ hrelation
      simp [judge?, Link.isLoop, hloop, hdeclares, hknows, allows, Diagram.Lacks, hrelation]
    · by_cases hknows : diagram.Knows link
      · simp [judge?, Link.isLoop, hloop, hdeclares, hknows, allows, Diagram.Lacks, hrelation,
          Diagram.objection]
      · cases ignoreUnknown <;>
          simp [judge?, Link.isLoop, hloop, hdeclares, hknows, Diagram.Lacks, hrelation,
            Diagram.objection]

theorem check_eq_map_filter (hclosed : diagram.Closed) (ignoreUnknown : Bool) (links : List Link) :
    check ⟨diagram, ignoreUnknown⟩ links =
      (links.filter fun link =>
        diagram.Lacks link ∧ (ignoreUnknown = true → diagram.Knows link)).map
          diagram.objection := by
  rw [check, ← List.filterMap_eq_map, List.filterMap_filter]
  refine List.filterMap_congr fun link _ => ?_
  rw [judge?_eq_ite hclosed]
  simp only [decide_eq_true_iff, Function.comp_apply]

/-- In every diagram that is read or made the ends of relations are components. Links are checked
against it one by one and in order: an objection is raised to those that join different labels
without being a relation, or, where unknown labels are let pass, to those among them whose ends are
both components. It says that a relation is missing if both ends are components, and that a
component is missing otherwise. -/
theorem check_of_arises (diagram : Diagram) (harises : diagram.Arises) :
    diagram.Closed ∧ ∀ links,
      check ⟨diagram, false⟩ links =
          (links.filter fun link => diagram.Lacks link).map diagram.objection ∧
        check ⟨diagram, true⟩ links =
          (links.filter fun link => diagram.Lacks link ∧ diagram.Knows link).map
            diagram.objection := by
  refine ⟨harises.closed, fun links => ?_⟩
  constructor
  · simpa using check_eq_map_filter harises.closed false links
  · simpa using check_eq_map_filter harises.closed true links

namespace TwoArrows

open Diagram

/-- A component without an alias. -/
def plain (name : String) (isName : IsName name.toList) : Component where
  name := name.toList
  alias? := none
  isName := isName
  isAlias := by simp

theorem unlabelled : ∀ label ∈ (none : Option (List Char)), '\n' ∉ label := by simp

/-- An arrow of two dashes between components in brackets. -/
def arrow (left right : Component) (leftward : Bool) : Arrow where
  left := left
  right := right
  leftByAlias := false
  rightByAlias := false
  leftward := leftward
  body := ⟨⟨['-', '-'], by simp, by simp⟩, none⟩
  before := 0
  behind := 0
  label? := none
  oneLine := unlabelled

def web : Component :=
  plain "web" ⟨by decide, by decide, by decide, by decide⟩

def core : Component :=
  plain "core" ⟨by decide, by decide, by decide, by decide⟩

def store : Component :=
  plain "store" ⟨by decide, by decide, by decide, by decide⟩

/-- Three components with an arrow in either direction. -/
def sheet : Sheet where
  components := [web, core, store]
  arrows := [arrow web core false, arrow store core true]
  distinct := by decide
  declared := by simp [arrow]

end TwoArrows

/-- A link the wrong way round, one to a label that is no component, one that is declared, and a
loop, against a diagram that is read from a text and could be made of its relations as well. -/
theorem check_of_arises_two_relations :
    let text := "@startuml\n[web]\n[core]\n[store]\n[web] --> [core]\n[store] <-- [core]\n@enduml"
    let diagram := Diagram.ofRelations [⟨"web", "core"⟩, ⟨"core", "store"⟩]
    let links : List Link :=
      [⟨"core", "web", []⟩, ⟨"core", "log", []⟩, ⟨"web", "core", []⟩, ⟨"log", "log", []⟩]
    Diagram.ofText text = .ok diagram ∧ diagram.Arises ∧ diagram.Closed ∧
      check ⟨diagram, false⟩ links =
        [.diagram ⟨"core", "web", []⟩ none .undeclaredRelation,
          .diagram ⟨"core", "log", []⟩ none .unknownComponent] ∧
      check ⟨diagram, true⟩ links =
        [.diagram ⟨"core", "web", []⟩ none .undeclaredRelation] := by
  intro text diagram links
  have hread : Diagram.ofText text = .ok diagram := TwoArrows.sheet.ofText_append ""
  have harises : diagram.Arises := .read hread
  obtain ⟨hclosed, hcheck⟩ := check_of_arises diagram harises
  refine ⟨hread, harises, hclosed, (hcheck links).1.trans ?_, (hcheck links).2.trans ?_⟩
  · decide
  · decide

end DiagramRule

end ImportRules
