import Mathlib.Data.List.Nodup
import Mathlib.Data.List.Sort

/-! A stable sort by a coarse order, of a list in which elements that this order does not
tell apart already stand in a finer one. -/

namespace HieroRelay.Lib

universe u
variable {Item : Type u} {coarse : Item → Item → Bool} {fine : Item → Item → Prop}

/-- Two elements stand in one of the two orders. -/
theorem pair_sublist_or {items : List Item} {first second : Item} (inFirst : first ∈ items)
    (inSecond : second ∈ items) (different : first ≠ second) :
    [first, second].Sublist items ∨ [second, first].Sublist items := by
  induction items with
  | nil => cases inFirst
  | cons head rest ih =>
    by_cases isFirst : first = head
    · subst isFirst
      have later : second ∈ rest := (List.mem_cons.mp inSecond).resolve_left (Ne.symm different)
      exact Or.inl (List.Sublist.cons_cons _ (List.singleton_sublist.mpr later))
    · by_cases isSecond : second = head
      · subst isSecond
        have later : first ∈ rest := (List.mem_cons.mp inFirst).resolve_left isFirst
        exact Or.inr (List.Sublist.cons_cons _ (List.singleton_sublist.mpr later))
      · have firstLater := (List.mem_cons.mp inFirst).resolve_left isFirst
        have secondLater := (List.mem_cons.mp inSecond).resolve_left isSecond
        rcases ih firstLater secondLater with kept | kept
        · exact Or.inl (kept.cons head)
        · exact Or.inr (kept.cons head)

theorem not_sublist_both {items : List Item} (nodup : items.Nodup) {first second : Item}
    (one : [first, second].Sublist items) : ¬ [second, first].Sublist items := by
  intro other
  induction items with
  | nil => cases one
  | cons head rest ih =>
    obtain ⟨fresh, nodup⟩ := List.nodup_cons.mp nodup
    cases one with
    | cons _ one =>
      cases other with
      | cons _ other => exact ih nodup one other
      | cons_cons _ other => exact fresh (one.subset (by simp))
    | cons_cons _ one =>
      cases other with
      | cons _ other => exact fresh (other.subset (by simp))
      | cons_cons _ other => exact fresh (one.subset (by simp))

variable (transitive : ∀ first second third, coarse first second = true → coarse second third = true →
    coarse first third = true)
  (total : ∀ first second, (coarse first second || coarse second first) = true)

include transitive total in
/-- The sorted list is in the finer order. -/
theorem pairwise_mergeSort_fine {items : List Item} (nodup : items.Nodup)
    (strict : ∀ first second, coarse second first = false → fine first second)
    (tied : items.Pairwise fun first second =>
      coarse first second = true → coarse second first = true → fine first second) :
    (items.mergeSort coarse).Pairwise fine := by
  apply List.pairwise_iff_forall_sublist.mpr
  intro first second inSorted
  have permuted := List.mergeSort_perm items coarse
  have sortedNodup : (items.mergeSort coarse).Nodup := permuted.nodup_iff.mpr nodup
  cases below : coarse second first with
  | false => exact strict first second below
  | true =>
    have inFirst : first ∈ items := permuted.mem_iff.mp (inSorted.subset (by simp))
    have inSecond : second ∈ items := permuted.mem_iff.mp (inSorted.subset (by simp))
    have different : first ≠ second := by
      intro same
      subst same
      exact not_sublist_both sortedNodup inSorted inSorted
    have kept : [first, second].Sublist items := by
      apply (pair_sublist_or inFirst inSecond different).resolve_right
      intro reversed
      have sorted := List.pair_sublist_mergeSort transitive total below reversed
      exact not_sublist_both sortedNodup inSorted sorted
    have above := List.pairwise_iff_forall_sublist.mp (List.pairwise_mergeSort transitive total items) inSorted
    exact List.pairwise_iff_forall_sublist.mp tied kept above below

/-- No element is before itself in a strict order, so none is there twice. -/
theorem nodup_of_fine {items : List Item} (irreflexive : ∀ item, ¬ fine item item)
    (ordered : items.Pairwise fine) : items.Nodup := by
  apply ordered.imp
  intro first second before same
  subst same
  exact irreflexive first before

/-- Two lists in a strict order with the same elements are the same list. -/
theorem eq_of_fine_of_mem_iff {items others : List Item} (irreflexive : ∀ item, ¬ fine item item)
    (asymmetric : ∀ first second, fine first second → ¬ fine second first)
    (ordered : items.Pairwise fine) (othersOrdered : others.Pairwise fine)
    (same : ∀ item, item ∈ items ↔ item ∈ others) : items = others := by
  have nodup := nodup_of_fine irreflexive ordered
  have othersNodup := nodup_of_fine irreflexive othersOrdered
  have permuted : items.Perm others := (List.perm_ext_iff_of_nodup nodup othersNodup).mpr same
  apply permuted.eq_of_pairwise _ ordered othersOrdered
  intro first second _ _ before after
  exact absurd after (asymmetric first second before)

end HieroRelay.Lib
