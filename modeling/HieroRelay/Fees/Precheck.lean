import HieroRelay.Debug.DebugImpl

/-! The checks of the gas price and of the balance before a raw transaction is sent. Where a
transaction has no gas price, its two fees are added up. -/

namespace HieroRelay.Fees

open HieroRelay.Blocks (TINYBAR_TO_WEIBAR_COEF)
open HieroRelay.Debug (RESOURCE_NOT_FOUND)
open HieroRelay.Relay (JsonRpcError)

inductive TransactionType where
  | legacy
  | accessList
  | dynamicFee
  deriving Repr, DecidableEq

/-- A transaction with what `ethers` answers for its fields: a fee that its type has is never
null, and one that its type does not have always is. -/
structure Transaction where
  type : TransactionType
  gasPrice : Option Nat
  maxFeePerGas : Option Nat
  maxPriorityFeePerGas : Option Nat
  value : Nat
  gasLimit : Nat
  sender : Option String
  serialized : String
  ofType : match type with
    | .dynamicFee => gasPrice = none ∧ maxFeePerGas.isSome = true ∧ maxPriorityFeePerGas.isSome = true
    | _ => gasPrice.isSome = true ∧ maxFeePerGas = none ∧ maxPriorityFeePerGas = none

def GAS_PRICE_TOO_LOW (gasPrice minGasPrice : Nat) : JsonRpcError :=
  { code := -32009, message := s!"Gas price '{gasPrice}' is below configured minimum gas price '{minGasPrice}'" }

def INSUFFICIENT_ACCOUNT_BALANCE : JsonRpcError :=
  { code := -32000, message := "Insufficient funds for transfer" }

def DETERMINISTIC_DEPLOYER_TRANSACTION : String :=
  "0xf8a58085174876e800830186a08080b853604580600e600039806000f350fe7fffffffffffffffffffffffffffffffffffffffffffffffffffffffffffffffe03601600081602082378035828234f58015156039578182fd5b8082525050506014600cf31ba02222222222222222222222222222222222222222222222222222222222222222a02222222222222222222222222222222222222222222222222222222222222222"

/-- The sum of two amounts that may be null: of nulls it is zero, and the two kinds do not mix. -/
def addFees : Option Nat → Option Nat → Except JsonRpcError Nat
  | some first, some second => .ok (first + second)
  | none, none => .ok 0
  | _, _ => .error (Relay.predefined.INTERNAL_ERROR "Cannot mix BigInt and other types, use explicit conversions")

/-- `BigInt(tx.gasPrice || tx.maxFeePerGas! + tx.maxPriorityFeePerGas!)` -/
def txGasPrice (tx : Transaction) : Except JsonRpcError Nat :=
  match tx.gasPrice with
  | some (price + 1) => .ok (price + 1)
  | _ => addFees tx.maxFeePerGas tx.maxPriorityFeePerGas

/-- What the mirror node tells of the sender; the balance may be null. -/
structure MirrorAccount where
  balance : Option Int
  deriving Repr, DecidableEq

namespace Precheck

def isDeterministicDeploymentTransaction (tx : Transaction) : Bool :=
  tx.serialized == DETERMINISTIC_DEPLOYER_TRANSACTION

def gasPrice (GAS_PRICE_TINY_BAR_BUFFER : Nat) (tx : Transaction) (networkGasPriceInWeiBars : Nat) :
    Except JsonRpcError Unit := do
  let txGasPrice ← txGasPrice tx
  let passes := networkGasPriceInWeiBars ≤ txGasPrice || isDeterministicDeploymentTransaction tx
  if passes then return ()
  if GAS_PRICE_TINY_BAR_BUFFER ≠ 0 && networkGasPriceInWeiBars ≤ txGasPrice + GAS_PRICE_TINY_BAR_BUFFER then return ()
  throw (GAS_PRICE_TOO_LOW txGasPrice networkGasPriceInWeiBars)

def balance (tx : Transaction) (account : Option MirrorAccount) : Except JsonRpcError Unit := do
  let txGasPrice ← txGasPrice tx
  let txTotalValue := tx.value + txGasPrice * tx.gasLimit
  match account with
  | none =>
      let sender := tx.sender.getD "null"
      throw (RESOURCE_NOT_FOUND s!"tx.from '{sender}'.")
  | some { balance := none } =>
      throw (Relay.predefined.INTERNAL_ERROR "balance precheck: Cannot read properties of null (reading 'balance')")
  | some { balance := some balance } =>
      if txTotalValue ≤ balance * TINYBAR_TO_WEIBAR_COEF then return () else throw INSUFFICIENT_ACCOUNT_BALANCE

end Precheck

/-- What a unit of gas may cost at most. -/
def Transaction.feeCap (tx : Transaction) : Nat :=
  match tx.type with
  | .dynamicFee => tx.maxFeePerGas.getD 0
  | _ => tx.gasPrice.getD 0

/-- The price of the checks. -/
def Transaction.checkedPrice (tx : Transaction) : Nat :=
  match tx.type with
  | .dynamicFee => tx.maxFeePerGas.getD 0 + tx.maxPriorityFeePerGas.getD 0
  | _ => tx.gasPrice.getD 0

theorem txGasPrice_eq (tx : Transaction) : txGasPrice tx = .ok tx.checkedPrice := by
  obtain ⟨type, gasPrice, maxFeePerGas, maxPriorityFeePerGas, value, gasLimit, sender, serialized, ofType⟩ := tx
  have legacyPrice : ∀ price, (match some price with
      | some (price + 1) => .ok (price + 1)
      | _ => addFees none none : Except JsonRpcError Nat) = .ok price := by
    intro price
    cases price <;> rfl
  cases type with
  | dynamicFee =>
    obtain ⟨rfl, fee, priority⟩ : gasPrice = none ∧ maxFeePerGas.isSome = true ∧
      maxPriorityFeePerGas.isSome = true := ofType
    obtain ⟨fee, rfl⟩ := Option.isSome_iff_exists.mp fee
    obtain ⟨priority, rfl⟩ := Option.isSome_iff_exists.mp priority
    rfl
  | legacy =>
    obtain ⟨price, rfl, rfl⟩ : gasPrice.isSome = true ∧ maxFeePerGas = none ∧ maxPriorityFeePerGas = none := ofType
    obtain ⟨price, rfl⟩ := Option.isSome_iff_exists.mp price
    exact legacyPrice _
  | accessList =>
    obtain ⟨price, rfl, rfl⟩ : gasPrice.isSome = true ∧ maxFeePerGas = none ∧ maxPriorityFeePerGas = none := ofType
    obtain ⟨price, rfl⟩ := Option.isSome_iff_exists.mp price
    exact legacyPrice _

theorem gasPrice_ok_iff (GAS_PRICE_TINY_BAR_BUFFER networkGasPriceInWeiBars : Nat) (tx : Transaction) :
    Precheck.gasPrice GAS_PRICE_TINY_BAR_BUFFER tx networkGasPriceInWeiBars = .ok () ↔
      networkGasPriceInWeiBars ≤ tx.checkedPrice + GAS_PRICE_TINY_BAR_BUFFER ∨
        Precheck.isDeterministicDeploymentTransaction tx = true := by
  rw [Precheck.gasPrice, txGasPrice_eq, Js.ok_bind]
  dsimp only
  split
  · next passes =>
      rw [Bool.or_eq_true, decide_eq_true_eq] at passes
      refine iff_of_true rfl (passes.imp_left fun enough => ?_)
      omega
  · next low =>
      rw [Bool.or_eq_true, decide_eq_true_eq, not_or] at low
      rw [or_iff_left low.2]
      split
      · next within =>
          rw [Bool.and_eq_true, decide_eq_true_eq, decide_eq_true_eq] at within
          exact iff_of_true rfl within.2
      · next short =>
          rw [Bool.and_eq_true, decide_eq_true_eq, decide_eq_true_eq] at short
          refine iff_of_false nofun ?_
          omega

private theorem balance_ok_iff (tx : Transaction) (balance : Int) :
    Precheck.balance tx (some { balance := some balance }) = .ok () ↔
      tx.value + tx.checkedPrice * tx.gasLimit ≤ balance * TINYBAR_TO_WEIBAR_COEF := by
  rw [Precheck.balance, txGasPrice_eq, Js.ok_bind]
  dsimp only
  split
  · next paid => exact iff_of_true rfl (mod_cast paid)
  · next short => exact iff_of_false nofun (mod_cast short)

/-- The checks of every type of transaction, over all its fields. -/
theorem prechecks_ok_iff (GAS_PRICE_TINY_BAR_BUFFER networkGasPriceInWeiBars : Nat) (tx : Transaction) (balance : Int) :
    (Precheck.gasPrice GAS_PRICE_TINY_BAR_BUFFER tx networkGasPriceInWeiBars = .ok () ↔
      networkGasPriceInWeiBars ≤ tx.checkedPrice + GAS_PRICE_TINY_BAR_BUFFER ∨
        Precheck.isDeterministicDeploymentTransaction tx = true) ∧
    (Precheck.balance tx (some { balance := some balance }) = .ok () ↔
      tx.value + tx.checkedPrice * tx.gasLimit ≤ balance * TINYBAR_TO_WEIBAR_COEF) :=
  ⟨gasPrice_ok_iff GAS_PRICE_TINY_BAR_BUFFER networkGasPriceInWeiBars tx, balance_ok_iff tx balance⟩

/-- One tinybar for each unit of gas at most, and one more as a priority fee. -/
def exampleTransaction : Transaction where
  type := .dynamicFee
  gasPrice := none
  maxFeePerGas := some 10000000000
  maxPriorityFeePerGas := some 10000000000
  value := 0
  gasLimit := 21000
  sender := some "0xa"
  serialized := "0x02"
  ofType := ⟨rfl, rfl, rfl⟩

/-- Its sender has the 21000 tinybars that it may cost at most, and is refused. -/
theorem exampleTransaction_prechecks :
    ¬ ∀ (GAS_PRICE_TINY_BAR_BUFFER networkGasPriceInWeiBars : Nat) (tx : Transaction) (balance : Int),
      (Precheck.gasPrice GAS_PRICE_TINY_BAR_BUFFER tx networkGasPriceInWeiBars = .ok () ↔
        networkGasPriceInWeiBars ≤ tx.feeCap + GAS_PRICE_TINY_BAR_BUFFER ∨
          Precheck.isDeterministicDeploymentTransaction tx = true) ∧
      (Precheck.balance tx (some { balance := some balance }) = .ok () ↔
        tx.value + tx.feeCap * tx.gasLimit ≤ balance * TINYBAR_TO_WEIBAR_COEF) := by
  intro capped
  have passes := (capped 0 0 exampleTransaction 21000).2.mpr (by decide)
  exact absurd passes nofun

end HieroRelay.Fees
