import Mathlib.Data.List.Basic
import Mathlib.Data.List.Infix

/-! Where a text first occurs in another one. -/

namespace HieroRelay.Lib

variable {needle before after text : List α}

theorem prefix_append_cons_iff {separator : α} (foreign : separator ∉ needle) :
    needle <+: before ++ separator :: after ↔ needle <+: before := by
  refine ⟨?_, fun starts => starts.trans (List.prefix_append _ _)⟩
  intro starts
  rcases List.prefix_or_prefix_of_prefix starts (List.prefix_append _ _) with short | ⟨more, rfl⟩
  · exact short
  · have reached := (List.prefix_append_right_inj before).mp starts
    cases more with
    | nil => simp
    | cons head rest =>
      obtain ⟨rfl, -⟩ := List.cons_prefix_cons.mp reached
      exact absurd (List.mem_append_right _ List.mem_cons_self) foreign

/-- What is searched for does not reach over a separator. -/
theorem infix_append_cons_iff {separator : α} (foreign : separator ∉ needle) :
    needle <:+: before ++ separator :: after ↔ needle <:+: before ∨ needle <:+: after := by
  induction before with
  | nil =>
    have start := @prefix_append_cons_iff _ needle [] after separator foreign
    rw [List.nil_append] at start ⊢
    rw [List.infix_cons_iff, start, List.prefix_nil, List.infix_nil]
  | cons head rest ih =>
    have start := @prefix_append_cons_iff _ needle (head :: rest) after separator foreign
    rw [List.cons_append] at start ⊢
    rw [List.infix_cons_iff, start, ih, List.infix_cons_iff, or_assoc]

/-- Texts without the separator end where it first occurs. -/
theorem append_separator_inj {separator : α} {first second rest more : List α} (absent : separator ∉ first)
    (otherAbsent : separator ∉ second) (same : first ++ separator :: rest = second ++ separator :: more) :
    first = second ∧ rest = more := by
  induction first generalizing second with
  | nil =>
    cases second with
    | nil => exact ⟨rfl, (List.cons.inj same).2⟩
    | cons head tail => exact absurd (List.cons.inj same).1 fun start => otherAbsent (start ▸ List.mem_cons_self)
  | cons head tail ih =>
    cases second with
    | nil => exact absurd (List.cons.inj same).1 fun start => absent (start ▸ List.mem_cons_self)
    | cons other others =>
      obtain ⟨rfl, following⟩ := List.cons.inj same
      obtain ⟨rfl, rfl⟩ :=
        ih (mt (List.mem_cons_of_mem _) absent) (mt (List.mem_cons_of_mem _) otherAbsent) following
      exact ⟨rfl, rfl⟩

/-- What ends with a separator is found where the first separator is, or behind it. -/
theorem infix_append_separator_iff {separator : α} {start : List α} (foreign : separator ∉ start)
    (absent : separator ∉ before) : start ++ [separator] <:+: before ++ separator :: after ↔
      start <:+ before ∨ start ++ [separator] <:+: after := by
  have whole : ∀ {before : List α}, separator ∉ before →
      (start ++ [separator] <+: before ++ separator :: after ↔ start = before) := by
    intro before absent
    constructor
    · rintro ⟨behind, same⟩
      rw [List.append_assoc, List.singleton_append] at same
      rcases List.append_eq_append_iff.mp same with ⟨between, rfl, rest⟩ | ⟨between, rfl, rest⟩
      · cases between with
        | nil => simp
        | cons head more => exact absurd ((List.cons.inj rest).1 ▸ by simp) absent
      · cases between with
        | nil => simp
        | cons head more => exact absurd ((List.cons.inj rest).1 ▸ by simp) foreign
    · rintro rfl
      exact ⟨after, by simp⟩
  induction before with
  | nil =>
    have first := whole absent
    rw [List.nil_append] at first ⊢
    rw [List.infix_cons_iff, first, List.suffix_nil]
  | cons head rest ih =>
    have first := whole absent
    rw [List.mem_cons, not_or] at absent
    rw [List.cons_append] at first ⊢
    have behind : start ++ [separator] <:+: rest ++ separator :: after ↔ _ := ih absent.2
    rw [List.infix_cons_iff, first, behind, List.suffix_cons_iff, or_assoc]

variable [DecidableEq α]

/-- The number of elements before the first occurrence. -/
def indexOf (needle : List α) : List α → Option Nat
  | [] => if needle = [] then some 0 else none
  | head :: rest => if needle <+: head :: rest then some 0 else (indexOf needle rest).map (· + 1)

theorem indexOf_of_prefix (starts : needle <+: text) : indexOf needle text = some 0 := by
  cases text with
  | nil => exact if_pos (List.prefix_nil.mp starts)
  | cons head rest => exact if_pos starts

theorem indexOf_le (found : indexOf needle text = some index) : index + needle.length ≤ text.length := by
  induction text generalizing index with
  | nil =>
    rw [indexOf] at found
    split at found
    · next same => simp [same, ← Option.some.inj found]
    · cases found
  | cons head rest ih =>
    rw [indexOf] at found
    split at found
    · next starts => simpa [← Option.some.inj found] using starts.length_le
    · obtain ⟨behind, there, rfl⟩ := Option.map_eq_some_iff.mp found
      have bound := ih there
      rw [List.length_cons]
      omega

/-- An occurrence in the first part is found there. -/
theorem indexOf_append_of_infix (inside : needle <:+: before) :
    ∃ index, indexOf needle (before ++ after) = some index ∧ index + needle.length ≤ before.length := by
  induction before with
  | nil =>
    obtain rfl := List.infix_nil.mp inside
    exact ⟨0, indexOf_of_prefix List.nil_prefix, Nat.le_refl _⟩
  | cons head rest ih =>
    by_cases starts : needle <+: head :: rest
    · exact ⟨0, indexOf_of_prefix (starts.trans (List.prefix_append _ _)), by simpa using starts.length_le⟩
    · obtain ⟨index, found, bound⟩ := ih ((List.infix_cons_iff.mp inside).resolve_left starts)
      by_cases earlier : needle <+: head :: rest ++ after
      · exact absurd (List.prefix_of_prefix_length_le earlier (List.prefix_append _ _)
          (by rw [List.length_cons]; omega)) starts
      · refine ⟨index + 1, ?_, by rw [List.length_cons]; omega⟩
        rw [List.cons_append] at earlier ⊢
        rw [indexOf, if_neg earlier, found]
        rfl

/-- A first part without an occurrence whose last element is not of the searched ones is passed over. -/
theorem indexOf_append_of_not_infix (absent : ¬ needle <:+: before) (separated : ∀ last ∈ before.getLast?, last ∉ needle) :
    indexOf needle (before ++ after) = (indexOf needle after).map (· + before.length) := by
  induction before with
  | nil => simp
  | cons head rest ih =>
    rw [List.infix_cons_iff, not_or] at absent
    have here : ¬ needle <+: head :: rest ++ after := by
      intro starts
      rcases List.prefix_or_prefix_of_prefix starts (List.prefix_append _ _) with short | long
      · exact absent.1 short
      · have last := List.getLast_mem (List.cons_ne_nil head rest)
        exact separated _ (List.getLast?_eq_some_getLast _) (long.subset last)
    have behind : ∀ last ∈ rest.getLast?, last ∉ needle := by
      intro last member
      refine separated last ?_
      rw [List.getLast?_cons, member]
      rfl
    rw [List.cons_append] at here ⊢
    rw [indexOf, if_neg here, ih absent.2 behind, Option.map_map]
    rfl

end HieroRelay.Lib
