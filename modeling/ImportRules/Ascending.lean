/-!
# Lists in ascending order

Sets and maps are kept as lists that ascend by a key and have every key once.
-/

namespace ImportRules

/-- Changes the element of a key in a list that ascends by key. A key that has no element yet gets a
fresh one in its place. -/
def alterAscending {α κ : Type} [DecidableEq κ] (before : κ → κ → Bool) (key : α → κ) (place : κ)
    (fresh : α) (change : α → α) : List α → List α
  | [] => [fresh]
  | a :: rest =>
      if place = key a then change a :: rest
      else if before place (key a) then fresh :: a :: rest
      else a :: alterAscending before key place fresh change rest

/-- Inserts an element into an ascending list without repetition. -/
def insertAscending {α : Type} [DecidableEq α] (before : α → α → Bool) (a : α) : List α → List α :=
  alterAscending before id a a id

end ImportRules
