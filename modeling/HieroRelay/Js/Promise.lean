import Mathlib.Data.List.Basic

/-! Joining the settled results of promises that were started together. -/

namespace HieroRelay.Js

variable {Fault Value : Type}

/-- `Promise.all`: every value in order, or a rejection as soon as one promise
rejects. Of several rejections the one listed first is reported. -/
def promiseAll : List (Except Fault Value) → Except Fault (List Value)
  | [] => .ok []
  | .error fault :: _ => .error fault
  | .ok value :: rest => (promiseAll rest).map (value :: ·)

private theorem promiseAll_ok (values : List Value) :
    promiseAll (values.map (Except.ok (ε := Fault))) = .ok values := by
  induction values with
  | nil => rfl
  | cons value rest ih => simp [promiseAll, ih, Except.map]

theorem promiseAll_eq_ok_iff {promises : List (Except Fault Value)} {values : List Value} :
    promiseAll promises = .ok values ↔ promises = values.map .ok := by
  constructor
  · intro joined
    induction promises generalizing values with
    | nil =>
      cases joined
      rfl
    | cons promise rest ih =>
      cases promise with
      | error fault => cases joined
      | ok value =>
        cases settled : promiseAll rest with
        | error fault => simp [promiseAll, settled, Except.map] at joined
        | ok others =>
          have split : value :: others = values := by
            simpa [promiseAll, settled, Except.map] using joined
          subst split
          simp [ih settled]
  · rintro rfl
    exact promiseAll_ok values

/-- The joined promise resolves exactly when each promise does. -/
theorem promiseAll_resolves_iff {promises : List (Except Fault Value)} :
    (∃ values, promiseAll promises = .ok values) ↔ ∀ promise ∈ promises, ∃ value, promise = .ok value := by
  constructor
  · rintro ⟨values, joined⟩ promise member
    rw [promiseAll_eq_ok_iff] at joined
    subst joined
    obtain ⟨value, -, rfl⟩ := List.mem_map.mp member
    exact ⟨value, rfl⟩
  · intro resolved
    induction promises with
    | nil => exact ⟨[], rfl⟩
    | cons promise rest ih =>
      obtain ⟨value, rfl⟩ := resolved promise (by simp)
      obtain ⟨values, joined⟩ := ih fun other member => resolved other (by simp [member])
      exact ⟨value :: values, by simp [promiseAll, joined, Except.map]⟩

/-- Serving every item of a list and joining the answers: there is one good answer
for each item, at its position, exactly when each item has one on its own. -/
theorem promiseAll_mapIdx_iff {Item : Type} {serve : Nat → Item → Except Fault Value}
    {Good : Nat → Item → Value → Prop} (items : List Item) :
    (∃ values, promiseAll (items.mapIdx serve) = .ok values ∧ values.length = items.length ∧
      ∀ (index : Nat) (item : Item) (value : Value), items[index]? = some item →
        values[index]? = some value → serve index item = .ok value ∧ Good index item value) ↔
    ∀ (index : Nat) (item : Item), items[index]? = some item →
      ∃ value, serve index item = .ok value ∧ Good index item value := by
  constructor
  · rintro ⟨values, -, sameLength, answers⟩ index item here
    obtain ⟨inside, -⟩ := List.getElem?_eq_some_iff.mp here
    have answered : index < values.length := sameLength ▸ inside
    exact ⟨values[index], answers index item _ here (List.getElem?_eq_getElem answered)⟩
  · intro good
    have resolved : ∀ promise ∈ items.mapIdx serve, ∃ value, promise = .ok value := by
      intro promise member
      obtain ⟨index, inside, rfl⟩ := List.mem_mapIdx.mp member
      obtain ⟨value, served, -⟩ := good index items[index] (List.getElem?_eq_getElem inside)
      exact ⟨value, served⟩
    obtain ⟨values, joined⟩ := promiseAll_resolves_iff.mpr resolved
    have pointwise := promiseAll_eq_ok_iff.mp joined
    refine ⟨values, joined, ?_, ?_⟩
    · simpa using (congrArg List.length pointwise).symm
    · intro index item value atItem atValue
      have served : serve index item = .ok value := by
        have here := congrArg (fun answers => answers[index]?) pointwise
        simpa [List.getElem?_mapIdx, atItem, atValue] using here
      obtain ⟨other, same, holds⟩ := good index item atItem
      cases served.symm.trans same
      exact ⟨served, holds⟩

end HieroRelay.Js
