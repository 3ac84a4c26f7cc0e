import Mathlib.Data.List.Forall2
/-!
# The first error decides

Steps that may fail are done one after the other, and a list is converted item by item. The whole
succeeds exactly if every part does, and otherwise fails with the error of the first part that
fails. `Decides` says this by the faults of the parts: each part is judged by itself, and the first
of all faults is the one that is reported.
-/

namespace ImportRules

variable {ε α β : Type} {f : α → Except ε β}

theorem bind_eq_ok_iff {result : Except ε α} {next : α → Except ε β} {value : β} :
    (result >>= next) = .ok value ↔ ∃ first, result = .ok first ∧ next first = .ok value := by
  cases result <;> simp [Bind.bind, Except.bind]

theorem mapM_eq_ok_iff {items : List α} {values : List β} :
    items.mapM f = .ok values ↔
      List.Forall₂ (fun item value => f item = .ok value) items values := by
  induction items generalizing values with
  | nil =>
      rw [List.mapM_nil, List.forall₂_nil_left_iff]
      exact ⟨fun h => (Except.ok.inj h).symm, fun h => h ▸ rfl⟩
  | cons item items ih =>
      simp only [List.mapM_cons, bind_eq_ok_iff, List.forall₂_cons_left_iff, ih]
      constructor
      · rintro ⟨value, hvalue, rest, hrest, heq⟩
        exact ⟨value, rest, hvalue, hrest, (Except.ok.inj heq).symm⟩
      · rintro ⟨value, rest, hvalue, hrest, rfl⟩
        exact ⟨value, hvalue, rest, hrest, rfl⟩

/-- A step that may fail gives something with a property if there are no faults, and otherwise the
first fault. -/
def Decides {ε α : Type} (faults : List ε) (property : α → Prop) : Except ε α → Prop
  | .ok value => faults = [] ∧ property value
  | .error error => faults.head? = some error

namespace Decides

variable {ε α β : Type} {faults others : List ε} {property : α → Prop} {wanted : β → Prop}
  {result : Except ε α}

theorem bind {next : α → Except ε β} (hresult : Decides faults property result)
    (hnext : ∀ value, property value → Decides others wanted (next value)) :
    Decides (faults ++ others) wanted (result >>= next) := by
  cases result with
  | ok value =>
      obtain ⟨rfl, hvalue⟩ := hresult
      exact hnext value hvalue
  | error error =>
      have hhead : (faults ++ others).head? = some error := by
        rw [List.head?_append, show faults.head? = some error from hresult, Option.some_or]
      exact hhead

theorem imp {weaker : α → Prop} (hresult : Decides faults property result)
    (himp : ∀ value, property value → weaker value) : Decides faults weaker result := by
  cases result with
  | ok value => exact ⟨hresult.1, himp value hresult.2⟩
  | error error => exact hresult

theorem map {f : α → β} (hresult : Decides faults property result)
    (hwanted : ∀ value, property value → wanted (f value)) :
    Decides faults wanted (result.map f) := by
  cases result with
  | ok value => exact ⟨hresult.1, hwanted value hresult.2⟩
  | error error => exact hresult

theorem mapError {ζ : Type} (f : ε → ζ) (hresult : Decides faults property result) :
    Decides (faults.map f) property (result.mapError f) := by
  cases result with
  | ok value => exact ⟨List.map_eq_nil_iff.mpr hresult.1, hresult.2⟩
  | error error =>
      have hhead : (faults.map f).head? = some (f error) := by
        rw [List.head?_map, show faults.head? = some error from hresult, Option.map_some]
      exact hhead

theorem mapM {f : α → Except ε β} {faultsOf : α → List ε} {means : α → β → Prop}
    (hf : ∀ item, Decides (faultsOf item) (means item) (f item)) (items : List α) :
    Decides (items.flatMap faultsOf) (List.Forall₂ means items) (items.mapM f) := by
  induction items with
  | nil => exact ⟨rfl, .nil⟩
  | cons item items ih =>
      rw [List.mapM_cons, List.flatMap_cons]
      refine (hf item).bind fun value hvalue => ?_
      rw [← List.append_nil (items.flatMap faultsOf)]
      exact ih.bind fun values hvalues => ⟨rfl, .cons hvalue hvalues⟩

theorem ok_iff (hresult : Decides faults property result) :
    (∃ value, result = .ok value) ↔ faults = [] := by
  cases result with
  | ok value => exact iff_of_true ⟨value, rfl⟩ hresult.1
  | error error =>
      have hhead : faults.head? = some error := hresult
      refine iff_of_false (by simp) ?_
      rintro rfl
      cases hhead

theorem error_iff (hresult : Decides faults property result) {error : ε} :
    result = .error error ↔ faults.head? = some error := by
  cases result with
  | ok value =>
      rw [hresult.1]
      exact iff_of_false nofun nofun
  | error first =>
      rw [show faults.head? = some first from hresult, Except.error.injEq, Option.some.injEq]

theorem property_of_ok (hresult : Decides faults property result) {value : α}
    (hvalue : result = .ok value) : property value := by
  subst hvalue
  exact hresult.2

end Decides

end ImportRules
