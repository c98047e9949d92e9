import Mathlib.Algebra.Group.Nat.Defs
import Mathlib.Data.Nat.Factorization.Basic
import Mathlib.Data.Nat.Log
import Mathlib.Tactic.Ring

/-! Rounding a fraction to 53 significant bits, to the nearest such number and to the even
one of two. A number is counted in a unit that is small enough for all its bits. -/

namespace HieroRelay.Lib

/-- The nearest natural number, the even one of two. -/
def roundHalfEven (numerator denominator : Nat) : Nat :=
  let quotient := numerator / denominator
  let rest := numerator % denominator
  if 2 * rest < denominator ∨ 2 * rest = denominator ∧ quotient % 2 = 0 then quotient else quotient + 1

/-- The weight of the last of 53 significant bits. -/
def lastPlace (numerator denominator : Nat) : Nat := 2 ^ (Nat.log2 (numerator / denominator) - 52)

/-- The nearest number with 53 significant bits. -/
def nearestDouble (numerator denominator : Nat) : Nat :=
  roundHalfEven numerator (denominator * lastPlace numerator denominator) * lastPlace numerator denominator

variable {numerator other denominator : Nat}

theorem div_le_roundHalfEven : numerator / denominator ≤ roundHalfEven numerator denominator := by
  unfold roundHalfEven
  dsimp only
  split <;> omega

theorem roundHalfEven_le : roundHalfEven numerator denominator ≤ numerator / denominator + 1 := by
  unfold roundHalfEven
  dsimp only
  split <;> omega

private theorem roundHalfEven_mono (below : numerator ≤ other) :
    roundHalfEven numerator denominator ≤ roundHalfEven other denominator := by
  rcases Nat.lt_or_eq_of_le (Nat.div_le_div_right (c := denominator) below) with less | same
  · exact roundHalfEven_le.trans (Nat.le_trans less div_le_roundHalfEven)
  · have rests : numerator % denominator ≤ other % denominator := by
      have first := Nat.div_add_mod numerator denominator
      have second := Nat.div_add_mod other denominator
      rw [same] at first
      omega
    unfold roundHalfEven
    dsimp only
    rw [same]
    split_ifs <;> omega

theorem lastPlace_pos : 0 < lastPlace numerator denominator := Nat.two_pow_pos _

/-- Rounding does not leave the numbers of its length, but for the next power of two. -/
theorem nearestDouble_le : nearestDouble numerator denominator ≤ 2 ^ (Nat.log2 (numerator / denominator) + 1) := by
  obtain ⟨count, whole⟩ : lastPlace numerator denominator ∣ 2 ^ (Nat.log2 (numerator / denominator) + 1) :=
    Nat.pow_dvd_pow 2 (by omega)
  have inside : numerator / denominator < lastPlace numerator denominator * count := whole ▸ Nat.lt_log2_self
  have few : numerator / (denominator * lastPlace numerator denominator) < count := by
    rw [← Nat.div_div_eq_div_mul]
    exact Nat.div_lt_of_lt_mul inside
  calc nearestDouble numerator denominator
      ≤ count * lastPlace numerator denominator := Nat.mul_le_mul_right _ (roundHalfEven_le.trans few)
    _ = 2 ^ (Nat.log2 (numerator / denominator) + 1) := by rw [whole, Nat.mul_comm]

private theorem le_nearestDouble (positive : numerator / denominator ≠ 0) :
    2 ^ Nat.log2 (numerator / denominator) ≤ nearestDouble numerator denominator := by
  obtain ⟨count, whole⟩ : lastPlace numerator denominator ∣ 2 ^ Nat.log2 (numerator / denominator) :=
    Nat.pow_dvd_pow 2 (by omega)
  have inside : lastPlace numerator denominator * count ≤ numerator / denominator := whole ▸ Nat.log2_self_le positive
  have many : count ≤ numerator / (denominator * lastPlace numerator denominator) := by
    rw [← Nat.div_div_eq_div_mul, Nat.le_div_iff_mul_le lastPlace_pos, Nat.mul_comm]
    exact inside
  calc 2 ^ Nat.log2 (numerator / denominator)
      = count * lastPlace numerator denominator := by rw [whole, Nat.mul_comm]
    _ ≤ nearestDouble numerator denominator := Nat.mul_le_mul_right _ (many.trans div_le_roundHalfEven)

/-- Rounding keeps the order. -/
theorem nearestDouble_mono (below : numerator ≤ other) :
    nearestDouble numerator denominator ≤ nearestDouble other denominator := by
  have quotients : numerator / denominator ≤ other / denominator := Nat.div_le_div_right below
  have lengths : Nat.log2 (numerator / denominator) ≤ Nat.log2 (other / denominator) := by
    rw [Nat.log2_eq_log_two, Nat.log2_eq_log_two]
    exact Nat.log_mono_right quotients
  rcases Nat.lt_or_eq_of_le lengths with shorter | same
  · have positive : other / denominator ≠ 0 := by
      intro zero
      rw [zero, Nat.log2_zero] at shorter
      exact absurd shorter (Nat.not_lt_zero _)
    calc nearestDouble numerator denominator
        ≤ 2 ^ (Nat.log2 (numerator / denominator) + 1) := nearestDouble_le
      _ ≤ 2 ^ Nat.log2 (other / denominator) := Nat.pow_le_pow_right (by decide) shorter
      _ ≤ nearestDouble other denominator := le_nearestDouble positive
  · have places : lastPlace numerator denominator = lastPlace other denominator := by rw [lastPlace, lastPlace, same]
    rw [nearestDouble, nearestDouble, places]
    exact Nat.mul_le_mul_right _ (roundHalfEven_mono below)

/-- A number of at most 53 significant bits. -/
def IsDouble (value : Nat) : Prop := ∃ bits power, bits < 2 ^ 53 ∧ value = bits * 2 ^ power

theorem isDouble_nearestDouble : IsDouble (nearestDouble numerator denominator) := by
  have few : numerator / (denominator * lastPlace numerator denominator) < 2 ^ 53 := by
    rw [← Nat.div_div_eq_div_mul]
    apply Nat.div_lt_of_lt_mul
    rw [lastPlace, ← Nat.pow_add]
    exact Nat.lt_log2_self.trans_le (Nat.pow_le_pow_right (by decide) (by omega))
  have bits := roundHalfEven_le.trans few
  rcases Nat.lt_or_eq_of_le bits with less | same
  · exact ⟨_, _, less, rfl⟩
  · refine ⟨1, 53 + (Nat.log2 (numerator / denominator) - 52), by decide, ?_⟩
    rw [nearestDouble, same, lastPlace, Nat.one_mul, Nat.pow_add]

private theorem roundHalfEven_of_dvd (positive : 0 < denominator) (whole : denominator ∣ numerator) :
    roundHalfEven numerator denominator = numerator / denominator := by
  have noRest : 2 * (numerator % denominator) < denominator := by
    rw [Nat.mod_eq_zero_of_dvd whole]
    exact positive
  exact if_pos (.inl noRest)

/-- Such a number is not rounded. -/
theorem nearestDouble_of_isDouble (double : IsDouble numerator) : nearestDouble numerator 1 = numerator := by
  obtain ⟨bits, power, few, rfl⟩ := double
  have whole : lastPlace (bits * 2 ^ power) 1 ∣ bits * 2 ^ power := by
    rcases Nat.eq_zero_or_pos bits with rfl | positive
    · exact ⟨0, Nat.zero_mul _⟩
    · have below : bits * 2 ^ power < 2 ^ (53 + power) := by
        rw [Nat.pow_add]
        exact Nat.mul_lt_mul_of_pos_right few (Nat.two_pow_pos _)
      have nonzero : bits * 2 ^ power ≠ 0 := Nat.ne_of_gt (Nat.mul_pos positive (Nat.two_pow_pos _))
      have length := (Nat.log2_lt nonzero).mpr below
      rw [lastPlace, Nat.div_one]
      exact Nat.dvd_mul_left_of_dvd (Nat.pow_dvd_pow 2 (by omega)) _
  rw [nearestDouble, Nat.one_mul, roundHalfEven_of_dvd lastPlace_pos whole, Nat.div_mul_cancel whole]

theorem nearestDouble_eq_self_iff : nearestDouble numerator 1 = numerator ↔ IsDouble numerator := by
  constructor
  · intro same
    rw [← same]
    exact isDouble_nearestDouble
  · exact nearestDouble_of_isDouble

theorem IsDouble.of_lt (small : numerator < 2 ^ 53) : IsDouble numerator := ⟨numerator, 0, small, (Nat.mul_one _).symm⟩

/-- An odd factor takes its part of the bits, a power of two takes none. -/
theorem isDouble_mul_iff {factor : Nat} (odd : Odd factor) (places : Nat) :
    IsDouble (numerator * (factor * 2 ^ places)) ↔
      ∃ bits power, bits * factor < 2 ^ 53 ∧ numerator = bits * 2 ^ power := by
  constructor
  · rintro ⟨bits, power, few, product⟩
    rcases Nat.eq_zero_or_pos numerator with rfl | positive
    · exact ⟨0, 0, by rw [Nat.zero_mul]; decide, (Nat.zero_mul _).symm⟩
    · obtain ⟨twos, rest, oddRest, rfl⟩ := Nat.exists_eq_two_pow_mul_odd (Nat.ne_of_gt positive)
      have nonzero : bits ≠ 0 := by
        rintro rfl
        have zero := product.trans (Nat.zero_mul _)
        exact absurd zero (Nat.ne_of_gt (Nat.mul_pos positive (Nat.mul_pos odd.pos (Nat.two_pow_pos _))))
      have divides : rest * factor ∣ bits * 2 ^ power := ⟨2 ^ twos * 2 ^ places, by rw [← product]; ring⟩
      have coprime : Nat.Coprime (rest * factor) (2 ^ power) :=
        (Nat.coprime_two_right.mpr (oddRest.mul odd)).pow_right power
      have least := Nat.le_of_dvd (Nat.pos_of_ne_zero nonzero) (coprime.dvd_of_dvd_mul_right divides)
      exact ⟨rest, twos, least.trans_lt few, Nat.mul_comm _ _⟩
  · rintro ⟨bits, power, few, rfl⟩
    exact ⟨bits * factor, power + places, few, by rw [Nat.pow_add]; ring⟩

end HieroRelay.Lib
