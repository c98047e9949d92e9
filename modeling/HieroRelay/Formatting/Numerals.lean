import HieroRelay.Blocks.Formatters
import Mathlib.Tactic.Ring

/-! Hexadecimal numerals: the digits that are written for a number, and the number that is
read from digits. -/

namespace HieroRelay.Formatting

open HieroRelay.Js (hexDigitValue hexValue isHexDigit)
open HieroRelay.Blocks

variable {digit : Char} {digits : List Char} {number : Nat}

theorem hexDigit?_eq (digit : Char) : hexDigit? digit = if isHexDigit digit then some (hexDigitValue digit) else none := by
  have decimal : ('0' ≤ digit ∧ digit ≤ '9') ↔ digit.isDigit = true := by
    simp [Char.isDigit, Char.le_def]
  have notBoth : ('A' ≤ digit ∧ digit ≤ 'F') → ¬ 'a' ≤ digit := by
    rintro ⟨-, below⟩ above
    exact absurd (Char.le_trans above below) (by decide)
  unfold hexDigit? isHexDigit hexDigitValue
  simp only [decimal, Bool.or_eq_true, Bool.and_eq_true, decide_eq_true_eq]
  by_cases ten : digit.isDigit = true
  · rw [if_pos ten, if_pos (.inl (.inl ten)), if_pos ten]
  · by_cases lower : 'a' ≤ digit ∧ digit ≤ 'f'
    · rw [if_neg ten, if_pos lower, if_pos (.inl (.inr lower)), if_neg ten, if_pos lower.1]
    · by_cases upper : 'A' ≤ digit ∧ digit ≤ 'F'
      · rw [if_neg ten, if_neg lower, if_pos upper, if_pos (.inr upper), if_neg ten, if_neg (notBoth upper)]
      · rw [if_neg ten, if_neg lower, if_neg upper, if_neg (by tauto)]

theorem isHexDigit_iff : isHexDigit digit = true ↔
    48 ≤ digit.toNat ∧ digit.toNat ≤ 57 ∨ 97 ≤ digit.toNat ∧ digit.toNat ≤ 102 ∨
      65 ≤ digit.toNat ∧ digit.toNat ≤ 70 := by
  simp only [isHexDigit, Char.isDigit, Char.le_def, Bool.or_eq_true, Bool.and_eq_true, decide_eq_true_eq,
    UInt32.le_iff_toNat_le, ge_iff_le]
  exact or_assoc

theorem hexDigitValue_lt (hex : isHexDigit digit = true) : hexDigitValue digit < 16 := by
  have bounds := isHexDigit_iff.mp hex
  unfold hexDigitValue
  split
  · next ten =>
      simp only [Char.isDigit, Bool.and_eq_true, decide_eq_true_eq] at ten
      have most : digit.toNat ≤ 57 := UInt32.le_iff_toNat_le.mp ten.2
      change digit.toNat - 48 < 16
      omega
  · next letter =>
      simp only [Char.isDigit, Bool.and_eq_true, decide_eq_true_eq, ge_iff_le, UInt32.le_iff_toNat_le] at letter
      change ¬ (48 ≤ digit.toNat ∧ digit.toNat ≤ 57) at letter
      split
      · next lower =>
          change digit.toNat - 97 + 10 < 16
          omega
      · next upper =>
          have below : ¬ 97 ≤ digit.toNat := fun above => upper (UInt32.le_iff_toNat_le.mpr above)
          change digit.toNat - 65 + 10 < 16
          omega

theorem hexDigit?_isSome (digit : Char) : (hexDigit? digit).isSome = isHexDigit digit := by
  rw [hexDigit?_eq]
  split <;> simp_all

/-- The number that is read so far counts for all the digits that follow. -/
theorem foldl_hexDigitValue (digits : List Char) (start : Nat) :
    digits.foldl (fun value digit => 16 * value + hexDigitValue digit) start =
      start * 16 ^ digits.length + hexValue digits := by
  unfold hexValue
  induction digits generalizing start with
  | nil => simp
  | cons digit rest ih =>
    rw [List.foldl_cons, ih, List.foldl_cons, ih (16 * 0 + hexDigitValue digit), List.length_cons]
    ring

theorem hexValue_append (digits more : List Char) :
    hexValue (digits ++ more) = hexValue digits * 16 ^ more.length + hexValue more := by
  rw [hexValue, List.foldl_append, foldl_hexDigitValue more]
  rfl

theorem hexValue_cons (digit : Char) (digits : List Char) :
    hexValue (digit :: digits) = hexDigitValue digit * 16 ^ digits.length + hexValue digits := by
  rw [← List.singleton_append, hexValue_append]
  simp [hexValue]

theorem hexDigitValue_pos (nonzero : digit ≠ '0') : 0 < hexDigitValue digit := by
  unfold hexDigitValue
  split
  · next ten =>
      simp only [Char.isDigit, Bool.and_eq_true, decide_eq_true_eq] at ten
      have least : 48 ≤ digit.toNat := UInt32.le_iff_toNat_le.mp ten.1
      have other : digit.toNat ≠ 48 := fun same => nonzero (Char.toNat_inj.mp same)
      change 0 < digit.toNat - 48
      omega
  · split <;> omega

/-- Digits that do not start with a zero are no zero. -/
theorem hexValue_pos (present : digits ≠ []) (nonzero : digits.head? ≠ some '0') :
    0 < hexValue digits := by
  cases digits with
  | nil => exact absurd rfl present
  | cons digit rest =>
    have positive := hexDigitValue_pos fun zero => nonzero (zero ▸ rfl)
    rw [hexValue_cons]
    have weight := Nat.mul_pos positive (Nat.pow_pos (n := rest.length) (by decide : 0 < 16))
    omega

/-- Digits are read to their end. -/
theorem leadingHex_some (hex : digits.all isHexDigit = true) (start : Nat) :
    leadingHex digits (some start) =
      some (digits.foldl (fun value digit => 16 * value + hexDigitValue digit) start) := by
  induction digits generalizing start with
  | nil => rfl
  | cons digit rest ih =>
    rw [List.all_cons, Bool.and_eq_true] at hex
    rw [leadingHex, hexDigit?_eq, if_pos hex.1]
    dsimp only
    rw [ih hex.2, Option.getD_some, Nat.mul_comm, List.foldl_cons]

theorem leadingHex_none (hex : digits.all isHexDigit = true) (present : digits ≠ []) :
    leadingHex digits none = some (hexValue digits) := by
  cases digits with
  | nil => exact absurd rfl present
  | cons digit rest =>
    rw [List.all_cons, Bool.and_eq_true] at hex
    rw [leadingHex, hexDigit?_eq, if_pos hex.1]
    dsimp only
    rw [leadingHex_some hex.2]
    rfl

theorem isHexDigit_digitChar (small : number < 16) : isHexDigit number.digitChar = true := by
  revert number
  decide

theorem hexDigitValue_digitChar (small : number < 16) : hexDigitValue number.digitChar = number := by
  revert number
  decide

theorem all_isHexDigit_toDigits (number : Nat) : (Nat.toDigits 16 number).all isHexDigit = true := by
  induction number using Nat.strongRecOn with
  | ind number ih =>
    rw [Nat.toDigits_eq_if (by decide)]
    split
    · next small => simp [isHexDigit_digitChar small]
    · next large =>
        rw [List.all_append, ih _ (Nat.div_lt_self (by omega) (by decide)), Bool.true_and]
        simp [isHexDigit_digitChar (Nat.mod_lt number (by decide : 0 < 16))]

/-- What is written for a number is read as that number. -/
theorem hexValue_toDigits (number : Nat) : hexValue (Nat.toDigits 16 number) = number := by
  induction number using Nat.strongRecOn with
  | ind number ih =>
    rw [Nat.toDigits_eq_if (by decide)]
    split
    · next small => simp [hexValue, hexDigitValue_digitChar small]
    · next large =>
        rw [hexValue_append, ih _ (Nat.div_lt_self (by omega) (by decide)), hexValue_cons,
          hexDigitValue_digitChar (Nat.mod_lt number (by decide))]
        simpa [hexValue] using Nat.div_add_mod' number 16

/-- The first digit of a number is no zero, unless it is the only one. -/
theorem head_toDigits (positive : 0 < number) : (Nat.toDigits 16 number).head? ≠ some '0' := by
  induction number using Nat.strongRecOn with
  | ind number ih =>
    rw [Nat.toDigits_eq_if (by decide)]
    split
    · next small =>
        have first : ∀ digit < 16, 0 < digit → [digit.digitChar].head? ≠ some '0' := by decide
        exact first number small positive
    · next large =>
        rw [List.head?_append_of_ne_nil _ Nat.toDigits_ne_nil]
        exact ih _ (Nat.div_lt_self (by omega) (by decide)) (Nat.div_pos (by omega) (by decide))

theorem toList_hexText (digits : List Char) : ("0x" ++ String.ofList digits).toList = '0' :: 'x' :: digits := by
  simp

theorem hexText_inj {digits more : List Char} :
    "0x" ++ String.ofList digits = "0x" ++ String.ofList more ↔ digits = more := by
  simp [String.ext_iff]

theorem prepend0x_hex (hex : digits.all isHexDigit = true) :
    prepend0x (String.ofList digits) = "0x" ++ String.ofList digits := by
  have notPrefixed : startsWith (String.ofList digits) "0x" = false := by
    rw [startsWith, String.toList_ofList]
    rcases digits with - | ⟨digit, - | ⟨second, rest⟩⟩
    · rfl
    · simp [List.isPrefixOf]
    · have notMark : ¬ 'x' = second := by
        rintro rfl
        simp [isHexDigit] at hex
      simp [List.isPrefixOf, notMark]
  rw [prepend0x, if_neg (by rw [notPrefixed]; decide)]

theorem parseHex_hexText (hex : digits.all isHexDigit = true) (present : digits ≠ []) :
    parseHex ("0x" ++ String.ofList digits) = some (hexValue digits) := by
  rw [parseHex, toList_hexText, if_pos (.inl rfl)]
  exact leadingHex_none hex present

end HieroRelay.Formatting
