import Mathlib.Algebra.Group.Nat.Defs
import Mathlib.Order.Basic
import Mathlib.Tactic.Tauto

/-! Numbers written with a fixed count of digits. Such texts are ordered as their numbers. -/

namespace HieroRelay.Lib

variable {Symbol : Type}

/-- The last digits of a number, the highest first. -/
def fixedDigits (symbol : Nat → Symbol) (base : Nat) : Nat → Nat → List Symbol
  | 0, _ => []
  | width + 1, number => fixedDigits symbol base width (number / base) ++ [symbol (number % base)]

@[simp] theorem length_fixedDigits (symbol : Nat → Symbol) (base width number : Nat) :
    (fixedDigits symbol base width number).length = width := by
  induction width generalizing number with
  | zero => rfl
  | succ width ih => simp [fixedDigits, ih]

section Order
variable [LT Symbol] {symbol : Nat → Symbol} {base width first second : Nat}

/-- Behind starts of one length, the starts decide first. -/
theorem append_lt_append_iff {start other rest more : List Symbol} (lengths : start.length = other.length) :
    start ++ rest < other ++ more ↔ start < other ∨ start = other ∧ rest < more := by
  induction start generalizing other with
  | nil =>
    obtain rfl : other = [] := List.length_eq_zero_iff.mp lengths.symm
    simp
  | cons head tail ih =>
    cases other with
    | nil => cases lengths
    | cons top bottom =>
      have shorter : tail.length = bottom.length := Nat.succ.inj lengths
      rw [List.cons_append, List.cons_append, List.cons_lt_cons_iff, List.cons_lt_cons_iff, ih shorter, List.cons.injEq]
      tauto

/-- The order of two numbers by their quotients, then by their remainders. -/
theorem lt_iff_div_mod {first second base : Nat} : first < second ↔
    first / base < second / base ∨ first / base = second / base ∧ first % base < second % base := by
  have wholeFirst := Nat.div_add_mod first base
  have wholeSecond := Nat.div_add_mod second base
  rcases Nat.eq_zero_or_pos base with rfl | positive
  · simp
  · constructor
    · intro less
      rcases Nat.lt_or_eq_of_le (Nat.div_le_div_right (c := base) (Nat.le_of_lt less)) with below | same
      · exact .inl below
      · rw [same] at wholeFirst
        exact .inr ⟨same, by omega⟩
    · rintro (below | ⟨same, less⟩)
      · exact Nat.lt_of_div_lt_div below
      · rw [same] at wholeFirst
        omega

section Digits
variable [Std.Irrefl ((· < ·) : Symbol → Symbol → Prop)]
  (ordered : ∀ digit other, digit < base → other < base → (symbol digit < symbol other ↔ digit < other))
  (inFirst : first < base ^ width) (inSecond : second < base ^ width)

include ordered inFirst inSecond

/-- Digits that are ordered as their values order the texts as the numbers. -/
theorem fixedDigits_lt_iff :
    fixedDigits symbol base width first < fixedDigits symbol base width second ↔ first < second := by
  induction width generalizing first second with
  | zero =>
    rw [Nat.pow_zero, Nat.lt_one_iff] at inFirst inSecond
    subst inFirst inSecond
    simp [fixedDigits]
  | succ width ih =>
    have positive : 0 < base := by
      by_contra zero
      simp [Nat.eq_zero_of_not_pos zero] at inFirst
    have quotient : ∀ {number}, number < base ^ (width + 1) → number / base < base ^ width := by
      intro number inside
      exact Nat.div_lt_of_lt_mul (by rwa [← Nat.pow_succ'])
    have starts : fixedDigits symbol base width (first / base) = fixedDigits symbol base width (second / base) ↔
        first / base = second / base := by
      refine ⟨?_, congrArg _⟩
      intro same
      have notLess := (ih (quotient inFirst) (quotient inSecond)).not.mp (by rw [same]; exact List.lt_irrefl _)
      have notMore := (ih (quotient inSecond) (quotient inFirst)).not.mp (by rw [same]; exact List.lt_irrefl _)
      omega
    have lengths : (fixedDigits symbol base width (first / base)).length =
        (fixedDigits symbol base width (second / base)).length := by
      rw [length_fixedDigits, length_fixedDigits]
    have symbols := ordered _ _ (Nat.mod_lt first positive) (Nat.mod_lt second positive)
    calc fixedDigits symbol base (width + 1) first < fixedDigits symbol base (width + 1) second
        ↔ first / base < second / base ∨ first / base = second / base ∧ first % base < second % base := by
          rw [fixedDigits, fixedDigits, append_lt_append_iff lengths, ih (quotient inFirst) (quotient inSecond), starts,
            List.cons_lt_cons_iff, symbols]
          simp
      _ ↔ first < second := lt_iff_div_mod.symm

theorem fixedDigits_eq_iff :
    fixedDigits symbol base width first = fixedDigits symbol base width second ↔ first = second := by
  refine ⟨?_, congrArg _⟩
  intro same
  have notLess := (fixedDigits_lt_iff ordered inFirst inSecond).not.mp (by rw [same]; exact List.lt_irrefl _)
  have notMore := (fixedDigits_lt_iff ordered inSecond inFirst).not.mp (by rw [same]; exact List.lt_irrefl _)
  omega

end Digits

end Order

end HieroRelay.Lib
