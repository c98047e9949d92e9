import Mathlib.Data.List.Forall2

/-! When calls that may fail return: one after the other, and for every element of a
list. -/

namespace HieroRelay.Lib

variable {Error Element First Second : Type}

/-- A sequence of two calls returns where both return. -/
theorem bind_eq_ok_iff {call : Except Error First} {next : First → Except Error Second} {result : Second} :
    (call >>= next) = .ok result ↔ ∃ value, call = .ok value ∧ next value = .ok result := by
  cases call with
  | ok value =>
      constructor
      · intro returned
        exact ⟨value, rfl, returned⟩
      · rintro ⟨_, same, returned⟩
        cases same
        exact returned
  | error error =>
      constructor
      · intro returned
        cases returned
      · rintro ⟨_, same, _⟩
        cases same

theorem mapM_eq_ok_iff {call : Element → Except Error First} {elements : List Element} {results : List First} :
    elements.mapM call = .ok results ↔ List.Forall₂ (fun element result => call element = .ok result) elements results := by
  induction elements generalizing results with
  | nil =>
      constructor
      · intro returned
        cases returned
        exact .nil
      · intro related
        cases related
        rfl
  | cons element rest ih =>
      simp only [List.mapM_cons, bind_eq_ok_iff]
      constructor
      · rintro ⟨result, first, others, later, returned⟩
        cases returned
        exact .cons first (ih.mp later)
      · intro related
        cases related with
        | cons first later => exact ⟨_, first, _, ih.mpr later, rfl⟩

theorem exists_of_mem_left {Related : First → Second → Prop} {firsts : List First} {seconds : List Second}
    (related : List.Forall₂ Related firsts seconds) {first : First} (listed : first ∈ firsts) :
    ∃ second ∈ seconds, Related first second := by
  induction related with
  | nil => cases listed
  | cons both _ ih =>
      rcases List.mem_cons.mp listed with rfl | later
      · exact ⟨_, List.mem_cons_self, both⟩
      · obtain ⟨second, known, holds⟩ := ih later
        exact ⟨second, List.mem_cons_of_mem _ known, holds⟩

theorem exists_of_mem_right {Related : First → Second → Prop} {firsts : List First} {seconds : List Second}
    (related : List.Forall₂ Related firsts seconds) {second : Second} (listed : second ∈ seconds) :
    ∃ first ∈ firsts, Related first second := exists_of_mem_left related.flip listed

/-- Calls that cannot fail. -/
theorem mapM_ok (call : Element → First) (elements : List Element) :
    elements.mapM (fun element => (.ok (call element) : Except Error First)) = .ok (elements.map call) := by
  induction elements with
  | nil => rfl
  | cons element rest ih =>
      rw [List.mapM_cons, ih]
      rfl

end HieroRelay.Lib
