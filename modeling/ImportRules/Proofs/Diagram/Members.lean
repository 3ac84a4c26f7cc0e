import ImportRules.Diagram.Basic
import ImportRules.Proofs.Ascending
import Mathlib.Data.Prod.Lex
import Mathlib.Data.Set.Insert
import Mathlib.Data.String.Basic
/-!
# Components and relations as sets

Inserting keeps a list strictly ascending and adds nothing but the element. So a diagram that is
built by declaring components and relations, in whatever order, holds exactly what was declared, and
each of it once.
-/

namespace ImportRules

/-- Relations are ordered by their two ends. -/
def Relation.ends (relation : Relation) : String ×ₗ String :=
  toLex (relation.source, relation.target)

theorem Relation.ends_injective : Relation.ends.Injective := by
  intro a b hends
  obtain ⟨hsource, htarget⟩ := Prod.mk.inj (toLex_inj.mp hends)
  cases a
  cases b
  simp_all

theorem Relation.before_iff (a b : Relation) : a.before b = true ↔ a.ends < b.ends := by
  simp [before, ends, Prod.Lex.toLex_lt_toLex]

namespace Diagram

/-- The diagram holds the given components and relations, each once and in ascending order. -/
structure Holds (diagram : Diagram) (names : Set String) (relations : Set Relation) : Prop where
  components_pairwise : diagram.components.Pairwise (· < ·)
  mem_components : ∀ name, name ∈ diagram.components ↔ name ∈ names
  relations_pairwise : diagram.relations.Pairwise fun a b => a.ends < b.ends
  mem_relations : ∀ relation, relation ∈ diagram.relations ↔ relation ∈ relations

namespace Holds

variable {diagram : Diagram} {names : Set String} {relations : Set Relation}

theorem empty : Holds {} ∅ ∅ where
  components_pairwise := .nil
  mem_components := by simp
  relations_pairwise := .nil
  mem_relations := by simp

theorem addComponent (hholds : diagram.Holds names relations) (name : String) :
    (diagram.addComponent name).Holds (insert name names) relations where
  components_pairwise :=
    pairwise_insertAscending Function.injective_id (by simp) hholds.components_pairwise name
  mem_components other := by
    rw [Diagram.addComponent, mem_insertAscending, hholds.mem_components, Set.mem_insert_iff]
  relations_pairwise := hholds.relations_pairwise
  mem_relations := hholds.mem_relations

theorem addRelation (hholds : diagram.Holds names relations) {relation : Relation}
    (hsource : relation.source ∈ names) (htarget : relation.target ∈ names) :
    (diagram.addRelation relation).Holds names (insert relation relations) := by
  have hends := (hholds.addComponent relation.source).addComponent relation.target
  rw [Set.insert_eq_of_mem (Set.mem_insert_of_mem _ htarget), Set.insert_eq_of_mem hsource] at hends
  refine ⟨hends.components_pairwise, hends.mem_components, ?_, ?_⟩
  · exact pairwise_insertAscending Relation.ends_injective Relation.before_iff
      hholds.relations_pairwise relation
  · intro other
    rw [Diagram.addRelation, mem_insertAscending, Set.mem_insert_iff]
    exact or_congr Iff.rfl (hholds.mem_relations other)

end Holds

end Diagram

end ImportRules
