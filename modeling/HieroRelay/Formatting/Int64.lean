import HieroRelay.Formatting.TransactionValues
import Mathlib.Data.Nat.Digits.Defs

/-! Integers of 64 bits that are given as a `BigInt`: the hexadecimal text is their two's
complement, although the sign is that of the nearest double. -/

namespace HieroRelay.Formatting

open HieroRelay.Js (hexValue isHexDigit)
open HieroRelay.Lib
open HieroRelay.Redis

namespace BigInt

def numberTo0x (input : Int) : String := "0x" ++ digits 16 input

/-- A `BigInt` is never null and never `NaN`. -/
def nanOrNumberTo0x (input : Int) : String := numberTo0x input

def nanOrNumberInt64To0x (input : Int) : String :=
  let bits : Nat := 64
  if input ≠ 0 ∧ toDouble input < 0 then
    numberTo0x ((input + ((1 <<< bits : Nat) : Int)).tmod ((1 <<< bits : Nat) : Int))
  else nanOrNumberTo0x input

end BigInt

/-- A text of at most 64 bits, read in two's complement. -/
def readInt64 (text : String) : Option Int :=
  (hexBigInt text).bind fun word => if word < 2 ^ 64 then some (BitVec.ofNat 64 word).toInt else none

def InInt64 (input : Int) : Prop := -2 ^ 63 ≤ input ∧ input < 2 ^ 63

instance (input : Int) : Decidable (InInt64 input) := inferInstanceAs (Decidable (_ ∧ _))

variable {input : Int} {number : Nat}

private theorem roundToDouble_pos (positive : 0 < number) : 0 < Js.roundToDouble number := by
  rw [roundToDouble_eq_nearestDouble]
  have one : nearestDouble 1 1 = 1 := nearestDouble_of_isDouble (.of_lt (by decide))
  have least : nearestDouble 1 1 ≤ nearestDouble number 1 := nearestDouble_mono positive
  omega

/-- The rounding keeps the sign. -/
theorem toDouble_neg_iff : toDouble input < 0 ↔ input < 0 := by
  unfold toDouble
  split
  · next negative =>
      have positive : 0 < Js.roundToDouble input.natAbs := roundToDouble_pos (by omega)
      omega
  · omega

/-- The word that is written for an integer. -/
def wordOf (input : Int) : Nat := (if input < 0 then input + 2 ^ 64 else input).toNat

theorem nanOrNumberInt64To0x_eq (bounds : InInt64 input) :
    BigInt.nanOrNumberInt64To0x input = "0x" ++ digits 16 (wordOf input) := by
  obtain ⟨low, high⟩ := bounds
  unfold BigInt.nanOrNumberInt64To0x wordOf
  dsimp only
  simp only [toDouble_neg_iff]
  have power : ((1 <<< 64 : Nat) : Int) = 2 ^ 64 := by decide
  rw [power]
  by_cases negative : input < 0
  · rw [if_pos ⟨by omega, negative⟩, if_pos negative, BigInt.numberTo0x, Int.tmod_eq_of_lt (by omega) (by omega),
      Int.toNat_of_nonneg (by omega)]
  · rw [if_neg fun both => negative both.2, if_neg negative, BigInt.nanOrNumberTo0x, BigInt.numberTo0x,
      Int.toNat_of_nonneg (by omega)]

theorem wordOf_lt (bounds : InInt64 input) : wordOf input < 2 ^ 64 := by
  obtain ⟨low, high⟩ := bounds
  unfold wordOf
  split <;> omega

private theorem toInt_wordOf (bounds : InInt64 input) : (BitVec.ofNat 64 (wordOf input)).toInt = input := by
  have fits := wordOf_lt bounds
  obtain ⟨low, high⟩ := bounds
  rw [BitVec.toInt_eq_toNat_cond, BitVec.toNat_ofNat, Nat.mod_eq_of_lt fits]
  unfold wordOf
  split <;> split <;> omega

theorem readInt64_nanOrNumberInt64To0x (bounds : InInt64 input) :
    readInt64 (BigInt.nanOrNumberInt64To0x input) = some input := by
  rw [nanOrNumberInt64To0x_eq bounds, readInt64, hexBigInt_hexText, Option.bind_some, if_pos (wordOf_lt bounds),
    toInt_wordOf bounds]

private theorem hexValue_lt {digits : List Char} (hex : digits.all isHexDigit = true) :
    hexValue digits < 16 ^ digits.length := by
  induction digits with
  | nil => exact Nat.one_pos
  | cons digit rest ih =>
    rw [List.all_cons, Bool.and_eq_true] at hex
    have below := ih hex.2
    have small := hexDigitValue_lt hex.1
    rw [hexValue_cons, List.length_cons, Nat.pow_succ]
    calc Js.hexDigitValue digit * 16 ^ rest.length + hexValue rest
        < (Js.hexDigitValue digit + 1) * 16 ^ rest.length := by
          rw [Nat.add_mul, Nat.one_mul]
          omega
      _ ≤ 16 * 16 ^ rest.length := Nat.mul_le_mul_right _ small
      _ = 16 ^ rest.length * 16 := Nat.mul_comm _ _

/-- A number whose highest bit is bit 63 has sixteen digits. -/
theorem length_toDigits_of_highest (above : 2 ^ 63 ≤ number) (below : number < 2 ^ 64) :
    (Nat.toDigits 16 number).length = 16 := by
  have most := Nat.toDigits_length 16 number 16 (by decide) below
  have least := hexValue_lt (all_isHexDigit_toDigits number)
  rw [hexValue_toDigits] at least
  have more : 15 < (Nat.toDigits 16 number).length := by
    apply (Nat.pow_lt_pow_iff_right (by decide : 1 < 16)).mp
    exact Nat.lt_of_le_of_lt (Nat.le_trans (by decide : 16 ^ 15 ≤ 2 ^ 63) above) least
  omega

private theorem negative_digits (bounds : InInt64 input) (negative : input < 0) :
    ∃ digits, BigInt.nanOrNumberInt64To0x input = "0x" ++ String.ofList digits ∧ digits.all isHexDigit = true ∧
      digits.length = 16 := by
  rw [nanOrNumberInt64To0x_eq bounds, digits_natCast]
  refine ⟨_, rfl, all_isHexDigit_toDigits _, length_toDigits_of_highest ?_ (wordOf_lt bounds)⟩
  obtain ⟨low, -⟩ := bounds
  rw [wordOf, if_pos negative]
  omega

/-- The text is the two's complement of the integer, with all its digits where that is negative,
and the texts of different integers differ. -/
theorem int64_twosComplement (bounds : InInt64 input) :
    readInt64 (BigInt.nanOrNumberInt64To0x input) = some input ∧
      (input < 0 → ∃ digits, BigInt.nanOrNumberInt64To0x input = "0x" ++ String.ofList digits ∧
        digits.all isHexDigit = true ∧ digits.length = 16) ∧
      ∀ other, InInt64 other → BigInt.nanOrNumberInt64To0x input = BigInt.nanOrNumberInt64To0x other →
        input = other := by
  refine ⟨readInt64_nanOrNumberInt64To0x bounds, negative_digits bounds, ?_⟩
  intro other otherBounds same
  have read := readInt64_nanOrNumberInt64To0x bounds
  rw [same, readInt64_nanOrNumberInt64To0x otherBounds] at read
  exact (Option.some.inj read).symm

/-- The least integer of 64 bits. -/
theorem int64_least :
    readInt64 (BigInt.nanOrNumberInt64To0x (-2 ^ 63)) = some (-2 ^ 63) ∧
      ∃ digits, BigInt.nanOrNumberInt64To0x (-2 ^ 63) = "0x" ++ String.ofList digits ∧
        digits.all isHexDigit = true ∧ digits.length = 16 := by
  have least := int64_twosComplement (by decide : InInt64 (-2 ^ 63))
  exact ⟨least.1, least.2.1 (by decide)⟩

/-- A `BigNumber` is written as the `BigInt` of the same value. -/
theorem nanOrNumberInt64To0x_bigNumber (input : Int) :
    nanOrNumberInt64To0x (.given (.bigNumber input)) = BigInt.nanOrNumberInt64To0x input := by
  unfold BigInt.nanOrNumberInt64To0x
  dsimp only
  rw [nanOrNumberInt64To0x]
  have sign : input ≠ 0 ∧ toDouble input < 0 ↔ (JsInteger.bigNumber input).toNumber < 0 := by
    change _ ↔ toDouble input < 0
    rw [toDouble_neg_iff]
    omega
  simp only [sign]
  rfl

end HieroRelay.Formatting
