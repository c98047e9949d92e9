import HieroRelay.Formatting.Numerals
import HieroRelay.Lib.Doubles
import HieroRelay.Redis.ContractResults

/-! The value of a transaction in weibars: which amounts of tinybars are converted exactly. -/

namespace HieroRelay.Formatting

open HieroRelay.Js (hexValue isHexDigit roundToDouble)
open HieroRelay.Lib
open HieroRelay.Blocks (EMPTY_HEX TINYBAR_TO_WEIBAR_COEF TOTAL_SUPPLY_TINYBARS)
open HieroRelay.Redis
open HieroRelay.Redis.CommonService (formatContractResult formatted textsOf transactionOf)

variable {amount : Nat}

/-- `BigInt(text)` of a hexadecimal text, with nothing where there is no number. -/
def hexBigInt (text : String) : Option Nat :=
  match Js.hexDigits text with
  | some (digit :: rest) => some (hexValue (digit :: rest))
  | _ => none

def weibarHexToTinyBarInt (value : String) : Option Int :=
  if value = EMPTY_HEX then some 0
  else (hexBigInt value).map fun weiBigInt =>
    let tinybarValue := weiBigInt / TINYBAR_TO_WEIBAR_COEF
    if tinybarValue = 0 ∧ weiBigInt > 0 then 1 else toDouble tinybarValue

private theorem hexDigits_hexText (number : Nat) :
    Js.hexDigits ("0x" ++ String.ofList (Nat.toDigits 16 number)) = some (Nat.toDigits 16 number) := by
  rw [Js.hexDigits, toList_hexText]
  simp [all_isHexDigit_toDigits number]

theorem digits_natCast (base number : Nat) : digits base number = String.ofList (Nat.toDigits base number) := by
  unfold digits
  dsimp only
  rw [if_neg (by omega), Int.natAbs_natCast]

theorem hexBigInt_hexText (number : Nat) : hexBigInt ("0x" ++ digits 16 number) = some number := by
  rw [hexBigInt, digits_natCast, hexDigits_hexText]
  cases written : Nat.toDigits 16 number with
  | nil => exact absurd written Nat.toDigits_ne_nil
  | cons digit rest =>
    change some (hexValue (digit :: rest)) = some number
    rw [← written, hexValue_toDigits]

theorem roundToDouble_eq_nearestDouble (value : Nat) : roundToDouble value = nearestDouble value 1 := by
  unfold roundToDouble
  split
  · next small => exact (nearestDouble_of_isDouble (.of_lt small)).symm
  · unfold nearestDouble roundHalfEven lastPlace
    simp only [Nat.div_one, Nat.one_mul, Bool.or_eq_true, Bool.and_eq_true, decide_eq_true_eq, beq_iff_eq]
    split <;> rfl

theorem toDouble_natCast (value : Nat) : toDouble value = (nearestDouble value 1 : Int) := by
  rw [toDouble, if_neg (by omega), Int.natAbs_natCast, roundToDouble_eq_nearestDouble]

/-- The total supply is not rounded, so no amount becomes more than it. -/
theorem nearestDouble_le_supply (bounded : amount ≤ TOTAL_SUPPLY_TINYBARS) :
    nearestDouble amount 1 ≤ TOTAL_SUPPLY_TINYBARS := by
  have whole : IsDouble TOTAL_SUPPLY_TINYBARS := ⟨19073486328125, 18, by decide, by decide⟩
  exact (nearestDouble_mono bounded).trans (Nat.le_of_eq (nearestDouble_of_isDouble whole))

/-- The weibars of an amount of tinybars, which both its own and their rounding take part in. -/
def weibarsOfAmount (amount : Nat) : Nat := nearestDouble (nearestDouble amount 1 * TINYBAR_TO_WEIBAR_COEF) 1

theorem tinybarsToWeibars_parse (json : JSONBigInt) (amount : Nat) (allowNegativeValues : Bool) :
    tinybarsToWeibars (.given (json.parse amount)) allowNegativeValues =
      if nearestDouble amount 1 ≤ TOTAL_SUPPLY_TINYBARS then .ok (.given (.number (weibarsOfAmount amount)))
      else .error (.error "Value cannot be more than the total supply of tinybars in the blockchain") := by
  simp only [tinybarsToWeibars, toNumber_parse, toDouble_natCast]
  rw [if_neg (by omega)]
  split_ifs with most bounded bounded
  · omega
  · rfl
  · rw [← Int.natCast_mul, toDouble_natCast]
    rfl
  · omega

/-- No amount of the supply is refused. -/
theorem tinybarsToWeibars_of_le (json : JSONBigInt) (bounded : amount ≤ TOTAL_SUPPLY_TINYBARS) :
    tinybarsToWeibars (.given (json.parse amount)) true = .ok (.given (.number (weibarsOfAmount amount))) := by
  rw [tinybarsToWeibars_parse, if_pos (nearestDouble_le_supply bounded)]

theorem nanOrNumberInt64To0x_natCast (value : Nat) :
    nanOrNumberInt64To0x (.given (.number value)) = "0x" ++ digits 16 value := by
  have natural : ¬ (JsInteger.number value).toNumber < 0 := by
    change ¬ (value : Int) < 0
    omega
  rw [nanOrNumberInt64To0x, if_neg natural]
  rfl

private theorem hexText_injective {number other : Nat} (same : "0x" ++ digits 16 number = "0x" ++ digits 16 other) :
    number = other := by
  have read := hexBigInt_hexText number
  rw [same, hexBigInt_hexText] at read
  exact (Option.some.inj read).symm

/-- An amount that is at most 922337203 up to a power of two. -/
def ExactInWeibars (amount : Nat) : Prop := ∃ bits power, bits ≤ 922337203 ∧ amount = bits * 2 ^ power

theorem exactInWeibars_iff : ExactInWeibars amount ↔ IsDouble (amount * TINYBAR_TO_WEIBAR_COEF) := by
  have coefficient : TINYBAR_TO_WEIBAR_COEF = 9765625 * 2 ^ 10 := by decide
  rw [coefficient, isDouble_mul_iff (by decide)]
  constructor
  · rintro ⟨bits, power, few, rfl⟩
    exact ⟨bits, power, by omega, rfl⟩
  · rintro ⟨bits, power, few, rfl⟩
    exact ⟨bits, power, by omega, rfl⟩

theorem ExactInWeibars.isDouble (exact : ExactInWeibars amount) : IsDouble amount := by
  obtain ⟨bits, power, few, rfl⟩ := exact
  exact ⟨bits, power, by omega, rfl⟩

theorem weibarsOfAmount_iff :
    weibarsOfAmount amount = amount * TINYBAR_TO_WEIBAR_COEF ↔ ExactInWeibars amount := by
  rw [exactInWeibars_iff]
  constructor
  · intro same
    rw [← same]
    exact isDouble_nearestDouble
  · intro double
    rw [weibarsOfAmount, nearestDouble_of_isDouble (exactInWeibars_iff.mpr double).isDouble,
      nearestDouble_of_isDouble double]

private theorem weibarHexToTinyBarInt_exact (exact : ExactInWeibars amount) :
    weibarHexToTinyBarInt ("0x" ++ digits 16 ((amount * TINYBAR_TO_WEIBAR_COEF : Nat) : Int)) = some (amount : Int) := by
  have coefficient : 0 < TINYBAR_TO_WEIBAR_COEF := by decide
  have notEmpty : "0x" ++ digits 16 ((amount * TINYBAR_TO_WEIBAR_COEF : Nat) : Int) ≠ EMPTY_HEX := by
    intro empty
    have read := hexBigInt_hexText (amount * TINYBAR_TO_WEIBAR_COEF)
    rw [empty] at read
    exact Option.some_ne_none _ read.symm
  rw [weibarHexToTinyBarInt, if_neg notEmpty, hexBigInt_hexText, Option.map_some]
  dsimp only
  rw [Nat.mul_div_cancel _ coefficient, toDouble_natCast, nearestDouble_of_isDouble exact.isDouble]
  have whole : ¬ (amount = 0 ∧ amount * TINYBAR_TO_WEIBAR_COEF > 0) := by
    rintro ⟨rfl, more⟩
    exact absurd more (by decide)
  rw [if_neg whole]

theorem formatted_inv {cr : ContractResult JsInteger} {transaction : Transaction}
    (produced : formatContractResult (some cr) = .ok (some transaction)) :
    ∃ texts weibars kind, textsOf cr = .ok texts ∧ tinybarsToWeibars cr.amount true = .ok weibars ∧
      TransactionFactory.createTransactionByType cr.type (nanOrNumberTo0x cr.v) cr.max_priority_fee_per_gas
        cr.max_fee_per_gas = some kind ∧ transaction = transactionOf cr texts weibars kind := by
  rw [formatContractResult, formatted] at produced
  cases read : textsOf cr with
  | error thrown =>
    rw [read] at produced
    cases produced
  | ok texts =>
    cases converted : tinybarsToWeibars cr.amount true with
    | error thrown =>
      rw [read, converted] at produced
      cases produced
    | ok weibars =>
      rw [read, converted] at produced
      obtain ⟨kind, created, built⟩ := Option.map_eq_some_iff.mp (Except.ok.inj produced)
      exact ⟨texts, weibars, kind, rfl, rfl, created, built.symm⟩

theorem value_formatted {json : JSONBigInt} {cr : ContractResult Int} {transaction : Transaction} (given : cr.amount = .given amount)
    (produced : formatContractResult (some (json.parse <$> cr)) = .ok (some transaction)) :
    transaction.value = "0x" ++ digits 16 (weibarsOfAmount amount) := by
  obtain ⟨texts, weibars, kind, -, converted, -, rfl⟩ := formatted_inv produced
  have read : (json.parse <$> cr).amount = .given (json.parse amount) := by
    change cr.amount.map json.parse = _
    rw [given]
    rfl
  rw [read, tinybarsToWeibars_parse] at converted
  split at converted
  · cases converted
    exact nanOrNumberInt64To0x_natCast _
  · cases converted

/-- The value is that of the amount and converted back to it exactly for an amount of few bits. -/
theorem value_exact_iff {json : JSONBigInt} {cr : ContractResult Int} {transaction : Transaction} (given : cr.amount = .given amount)
    (produced : formatContractResult (some (json.parse <$> cr)) = .ok (some transaction)) :
    (transaction.value = "0x" ++ digits 16 ((amount * TINYBAR_TO_WEIBAR_COEF : Nat) : Int) ∧
      weibarHexToTinyBarInt transaction.value = some (amount : Int)) ↔ ExactInWeibars amount := by
  rw [value_formatted given produced]
  constructor
  · rintro ⟨same, -⟩
    exact weibarsOfAmount_iff.mp (hexText_injective same)
  · intro exact
    rw [weibarsOfAmount_iff.mpr exact]
    exact ⟨rfl, weibarHexToTinyBarInt_exact exact⟩

/-- A contract result that moves an amount of tinybars. -/
def transferOf (amount : Int) : ContractResult Int where
  amount := .given amount
  block_hash := .given "0xb1"
  block_number := .given 17
  chain_id := .given "0x127"
  from_address := .given "0x1001"
  function_parameters := .given "0x"
  gas_price := .given "0x5a"
  gas_used := .given 21000
  hash := .given "0x4a"
  max_fee_per_gas := .given "0x59"
  max_priority_fee_per_gas := .null
  nonce := .given 1
  r := .given "0x1f"
  result := .given "SUCCESS"
  s := .given "0x2f"
  to_address := .given "0x1002"
  transaction_index := .given 0
  type := .given 2
  v := .given 1

/-- Its transaction with a value. -/
def transactionOfTransfer (value : String) : Transaction where
  kind := .Transaction1559 "0x1" "0x0" "0x59"
  blockHash := "0xb1"
  blockNumber := some "0x11"
  chainId := .given "0x127"
  fromAddress := "0x1001"
  gas := "0x5208"
  gasPrice := "0xd18c2e2800"
  hash := "0x4a"
  input := .given "0x"
  nonce := "0x1"
  r := "0x1f"
  s := "0x2f"
  toAddress := some "0x1002"
  transactionIndex := some "0x0"
  type := "0x2"
  v := "0x1"
  value

theorem format_one_hbar : formatContractResult (some (JSONBigInt.byLength.parse <$> transferOf 100000000)) =
    .ok (some (transactionOfTransfer "0xde0b6b3a7640000")) := by
  decide +kernel

/-- One hbar is exact. -/
theorem value_of_one_hbar :
    (transactionOfTransfer "0xde0b6b3a7640000").value = "0x" ++ digits 16 ((100000000 * TINYBAR_TO_WEIBAR_COEF : Nat) : Int) ∧
      weibarHexToTinyBarInt (transactionOfTransfer "0xde0b6b3a7640000").value = some ((100000000 : Nat) : Int) :=
  (value_exact_iff rfl format_one_hbar).mpr ⟨390625, 8, by decide, by decide⟩

private theorem format_ten_hbar_and_one : formatContractResult
    (some (JSONBigInt.byLength.parse <$> transferOf 1000000001)) =
    .ok (some (transactionOfTransfer "0x8ac72306ddf3e000")) := by
  decide +kernel

/-- The tinybar on top of ten hbar is lost. -/
theorem tinybar_lost :
    ¬ ∀ (json : JSONBigInt) (amount : Nat) (cr : ContractResult Int) (transaction : Transaction), amount ≤ TOTAL_SUPPLY_TINYBARS →
      cr.amount = .given amount → formatContractResult (some (json.parse <$> cr)) = .ok (some transaction) →
      transaction.value = "0x" ++ digits 16 ((amount * TINYBAR_TO_WEIBAR_COEF : Nat) : Int) ∧
        weibarHexToTinyBarInt transaction.value = some (amount : Int) := by
  intro claim
  have same := (claim .byLength 1000000001 (transferOf 1000000001) _ (by decide) rfl format_ten_hbar_and_one).2
  revert same
  decide

end HieroRelay.Formatting
