import Mathlib.Data.List.Induction
import Mathlib.Data.List.Nodup

/-! Keeping the first of equal elements, and when that commutes with reading a field of
the elements. -/

namespace HieroRelay.Lib

variable {Element Key : Type} [DecidableEq Element] [DecidableEq Key]

/-- The elements that are not among those kept already. -/
def keepNew (kept elements : List Element) : List Element :=
  elements.foldl (fun kept element => if element ∈ kept then kept else kept ++ [element]) kept

/-- Of equal elements the first one stays. -/
def uniqWith (elements : List Element) : List Element := keepNew [] elements

theorem keepNew_cons (kept : List Element) (element : Element) (rest : List Element) :
    keepNew kept (element :: rest) = keepNew (if element ∈ kept then kept else kept ++ [element]) rest := rfl

private theorem mem_keepNew (kept elements : List Element) (element : Element) :
    element ∈ keepNew kept elements ↔ element ∈ kept ∨ element ∈ elements := by
  induction elements generalizing kept with
  | nil => simp [keepNew]
  | cons head rest ih =>
      rw [keepNew_cons, ih]
      by_cases known : head ∈ kept
      · rw [if_pos known, List.mem_cons]
        constructor
        · rintro (before | later)
          · exact .inl before
          · exact .inr (.inr later)
        · rintro (before | rfl | later)
          · exact .inl before
          · exact .inl known
          · exact .inr later
      · rw [if_neg known, List.mem_append, List.mem_singleton, List.mem_cons, or_assoc]

private theorem nodup_keepNew (kept elements : List Element) (distinct : kept.Nodup) :
    (keepNew kept elements).Nodup := by
  induction elements generalizing kept with
  | nil => exact distinct
  | cons head rest ih =>
      rw [keepNew_cons]
      apply ih
      by_cases known : head ∈ kept
      · rwa [if_pos known]
      · rw [if_neg known]
        exact distinct.append (List.nodup_singleton head) (by simpa using known)

private theorem map_keepNew (field : Element → Key) (kept elements : List Element)
    (apart : ∀ first ∈ kept ++ elements, ∀ second ∈ kept ++ elements, field first = field second → first = second) :
    (keepNew kept elements).map field = keepNew (kept.map field) (elements.map field) := by
  induction elements generalizing kept with
  | nil => rfl
  | cons head rest ih =>
      have same : field head ∈ kept.map field ↔ head ∈ kept := by
        constructor
        · intro listed
          obtain ⟨other, known, equal⟩ := List.mem_map.mp listed
          rwa [← apart other (List.mem_append_left _ known) head (by simp) equal]
        · exact List.mem_map_of_mem
      rw [List.map_cons, keepNew_cons, keepNew_cons]
      by_cases known : head ∈ kept
      · rw [if_pos known, if_pos (same.mpr known)]
        apply ih
        intro first firstListed second secondListed
        exact apart first (by simp at firstListed ⊢; tauto) second (by simp at secondListed ⊢; tauto)
      · rw [if_neg known, if_neg fun listed => known (same.mp listed), ← List.map_singleton, ← List.map_append]
        apply ih
        simpa using apart

theorem mem_uniqWith (elements : List Element)
    (element : Element) : element ∈ uniqWith elements ↔ element ∈ elements := by
  simpa [uniqWith] using mem_keepNew [] elements element

theorem nodup_uniqWith (elements : List Element) : (uniqWith elements).Nodup := nodup_keepNew [] elements List.nodup_nil

theorem uniqWith_append_singleton (elements : List Element) (element : Element) :
    uniqWith (elements ++ [element]) =
      if element ∈ elements then uniqWith elements else uniqWith elements ++ [element] := by
  have appended : uniqWith (elements ++ [element]) =
      if element ∈ uniqWith elements then uniqWith elements else uniqWith elements ++ [element] := by
    unfold uniqWith keepNew
    rw [List.foldl_append]
    rfl
  rw [appended]
  exact if_congr (mem_uniqWith elements element) rfl rfl

/-- A function that keeps the first of equal elements, in their order. -/
structure UniqWith (Element : Type) [DecidableEq Element] where
  apply : List Element → List Element
  apply_nil : apply [] = []
  apply_known : ∀ elements element, element ∈ elements → apply (elements ++ [element]) = apply elements
  apply_fresh : ∀ elements element, element ∉ elements →
    apply (elements ++ [element]) = apply elements ++ [element]

namespace UniqWith

def firstKept : UniqWith Element where
  apply := uniqWith
  apply_nil := rfl
  apply_known := fun elements element known => by rw [uniqWith_append_singleton, if_pos known]
  apply_fresh := fun elements element fresh => by rw [uniqWith_append_singleton, if_neg fresh]

theorem apply_eq (uniq : UniqWith Element) (elements : List Element) : uniq.apply elements = uniqWith elements := by
  induction elements using List.reverseRecOn with
  | nil => exact uniq.apply_nil
  | append_singleton elements element ih =>
    rw [uniqWith_append_singleton]
    split
    · next known => exact (uniq.apply_known elements element known).trans ih
    · next fresh => rw [uniq.apply_fresh elements element fresh, ih]

end UniqWith

/-- The fields of what stays are what stays of the fields exactly if no two different
elements share a field. -/
theorem map_uniqWith_iff (field : Element → Key) (elements : List Element) :
    (uniqWith elements).map field = uniqWith (elements.map field) ↔
      ∀ first ∈ elements, ∀ second ∈ elements, field first = field second → first = second := by
  constructor
  · intro commutes first firstListed second secondListed
    have distinct : ((uniqWith elements).map field).Nodup := commutes ▸ nodup_uniqWith _
    exact List.inj_on_of_nodup_map distinct ((mem_uniqWith ..).mpr firstListed) ((mem_uniqWith ..).mpr secondListed)
  · intro apart
    exact map_keepNew field [] elements (by simpa using apart)

omit [DecidableEq Element] in
/-- Where only one element contributes, nothing else is listed. -/
theorem flatMap_eq_of_unique {Part : Type} {elements : List Element} (distinct : elements.Nodup) {element : Element}
    (known : element ∈ elements) (parts : Element → List Part)
    (others : ∀ other ∈ elements, other ≠ element → parts other = []) : elements.flatMap parts = parts element := by
  induction elements with
  | nil => cases known
  | cons head rest ih =>
      obtain ⟨fresh, distinct⟩ := List.nodup_cons.mp distinct
      rw [List.flatMap_cons]
      rcases List.mem_cons.mp known with rfl | later
      · have silent : rest.flatMap parts = [] := by
          apply List.flatMap_eq_nil_iff.mpr
          intro other listed
          exact others other (List.mem_cons_of_mem _ listed) fun same => fresh (same ▸ listed)
        rw [silent, List.append_nil]
      · rw [others head List.mem_cons_self fun same => fresh (same ▸ later), List.nil_append]
        exact ih distinct later fun other listed => others other (List.mem_cons_of_mem _ listed)

omit [DecidableEq Element] in
theorem filterMap_eq_of_unique {Part : Type} {elements : List Element} (distinct : elements.Nodup) {element : Element}
    (known : element ∈ elements) (part : Element → Option Part)
    (others : ∀ other ∈ elements, other ≠ element → part other = none) :
    elements.filterMap part = (part element).toList := by
  rw [List.filterMap_eq_flatMap_toList]
  apply flatMap_eq_of_unique distinct known
  intro other inside different
  rw [others other inside different, Option.toList_none]

omit [DecidableEq Element] in
/-- Where one element alone has the key, the others add nothing. -/
theorem flatMap_eq_of_key {Value : Type} (key : Element → Option Key) {wanted : Key} {values : Element → List Value}
    {elements : List Element} {element : Element} (member : element ∈ elements) (own : key element = some wanted)
    (once : (elements.filterMap key).count wanted ≤ 1)
    (others : ∀ other ∈ elements, key other ≠ some wanted → values other = []) :
    elements.flatMap values = values element := by
  obtain ⟨before, after, rfl⟩ := List.append_of_mem member
  rw [List.filterMap_append, List.filterMap_cons_some own, List.count_append, List.count_cons_self] at once
  have silent : ∀ part : List Element, (∀ other ∈ part, other ∈ before ++ element :: after) →
      (part.filterMap key).count wanted = 0 → part.flatMap values = [] := by
    intro part within none
    rw [List.flatMap_eq_nil_iff]
    intro other present
    apply others other (within other present)
    intro same
    exact List.count_eq_zero.mp none (List.mem_filterMap.mpr ⟨other, present, same⟩)
  rw [List.flatMap_append, List.flatMap_cons, silent before (fun _ present => List.mem_append_left _ present) (by omega),
    silent after (fun _ present => List.mem_append_right _ (List.mem_cons_of_mem _ present)) (by omega),
    List.nil_append, List.append_nil]

end HieroRelay.Lib
