import HieroRelay.Fees.Precheck
import HieroRelay.Formatting.Numerals
import HieroRelay.Hapi.SDKClient
import HieroRelay.Lib.Doubles

/-! All the checks before a raw transaction is sent, in their order. They read texts of
hexadecimal digits and numbers that may be rounded; what they decide is said of the bytes and
of the exact numbers. -/

namespace HieroRelay.Fees

open HieroRelay.Blocks (TINYBAR_TO_WEIBAR_COEF prepend0x)
open HieroRelay.Debug (RESOURCE_NOT_FOUND)
open HieroRelay.Hapi (toHexText)
open HieroRelay.Lib (IsDouble Prog nearestDouble roundHalfEven)
open HieroRelay.Relay (JsonRpcError)

def GAS_LIMIT_TOO_HIGH (gasLimit : String) (maxGas : Nat) : JsonRpcError :=
  { code := -32005, message := s!"Transaction gas limit '{gasLimit}' exceeds max gas per sec limit '{maxGas}'" }

def GAS_LIMIT_TOO_LOW (gasLimit : String) (requiredGas : Nat) : JsonRpcError :=
  { code := -32003
    message := s!"Transaction gas limit provided '{gasLimit}' is insufficient of " ++
      s!"intrinsic gas required '{requiredGas}'" }

def UNSUPPORTED_CHAIN_ID (requested current : String) : JsonRpcError :=
  { code := -32000, message := s!"ChainId ({requested}) not supported. The correct chainId is {current}" }

def UNSUPPORTED_TRANSACTION_TYPE : JsonRpcError :=
  { code := -32611, message := "Unsupported transaction type" }

def VALUE_TOO_LOW : JsonRpcError :=
  { code := -32602, message := "Value can't be non-zero and less than 10_000_000_000 wei which is 1 tinybar" }

def RECEIVER_SIGNATURE_ENABLED : JsonRpcError :=
  { code := -32000, message := "Operation is not supported when receiver's signature is enabled." }

def TRANSACTION_SIZE_LIMIT_EXCEEDED (actualSize expectedSize : Nat) : JsonRpcError :=
  { code := -32201, message := s!"Oversized data: transaction size {actualSize}, transaction limit {expectedSize}" }

def CALL_DATA_SIZE_LIMIT_EXCEEDED (actualSize expectedSize : Nat) : JsonRpcError :=
  { code := -32201, message := s!"Oversized data: call data size {actualSize}, call data size limit {expectedSize}" }

def TX_BASE_COST : Nat := 21000

def TX_DATA_ZERO_COST : Nat := 4

def ISTANBUL_TX_DATA_NON_ZERO_COST : Nat := 16

/-- A transaction that was read from its bytes. One with blobs has the fees of a dynamic one. -/
structure RawTransaction extends Transaction where
  isBlob : Bool
  nonce : Nat
  chainId : Nat
  signatureV : Option Nat
  receiver : Option String
  callData : List UInt8
  bytes : List UInt8
  blobFees : isBlob = true → type = .dynamicFee
  serialized_eq : serialized.toList = '0' :: 'x' :: toHexText bytes

/-- `tx.data` -/
def RawTransaction.data (tx : RawTransaction) : List Char := '0' :: 'x' :: toHexText tx.callData

/-- `tx.type` -/
def RawTransaction.typeNumber (tx : RawTransaction) : Nat :=
  if tx.isBlob then 3
  else match tx.type with
    | .legacy => 0
    | .accessList => 1
    | .dynamicFee => 2

/-- The decimal digits that are written of a number: as few as are read back as it, with the
zeros behind them. -/
def fewestDigits (number : Nat) : (zeros : Nat) → Nat × Nat
  | 0 => (number, 0)
  | zeros + 1 =>
      let digits := roundHalfEven number (10 ^ (zeros + 1))
      if nearestDouble (digits * 10 ^ (zeros + 1)) 1 = number then (digits, zeros + 1) else fewestDigits number zeros

/-- `number.toString()`, with an exponent from 10^21 on. -/
def numberText (number : Nat) : String :=
  let (digits, zeros) := fewestDigits number (Nat.log2 number)
  let written := Nat.toDigits 10 digits
  if written.length + zeros ≤ 21 then String.ofList (written ++ List.replicate zeros '0')
  else
    let fraction := if written.length = 1 then [] else '.' :: written.tail
    let exponent := written.length - 1 + zeros
    String.ofList (written.take 1 ++ fraction) ++ s!"e+{exponent}"

example : numberText (2 ^ 64) = "18446744073709552000" ∧ numberText (10 ^ 21) = "1e+21" ∧
    numberText 21000 = "21000" := by
  decide +kernel

/-- `number.toString(16)`: a power of two as base shows every digit. -/
def hexadecimal (number : Nat) : List Char := Nat.toDigits 16 number

/-- The configured limits, with the chain as the number that its text shows. -/
structure PrecheckConfig where
  chainNumber : Nat
  CALL_DATA_SIZE_LIMIT : Nat
  SEND_RAW_TRANSACTION_SIZE_LIMIT : Nat
  MAX_TRANSACTION_FEE_THRESHOLD : Nat
  GAS_PRICE_TINY_BAR_BUFFER : Nat

/-- The numbers that are compared with rounded ones are safe. -/
structure PrecheckConfig.Safe (config : PrecheckConfig) : Prop where
  chain : config.chainNumber < 2 ^ 53
  threshold : config.MAX_TRANSACTION_FEE_THRESHOLD < 2 ^ 53

def PrecheckConfig.chain (config : PrecheckConfig) : String :=
  "0x" ++ String.ofList (hexadecimal config.chainNumber)

structure MirrorAccountInfo extends MirrorAccount where
  ethereum_nonce : Option Nat
  receiver_sig_required : Option Bool
  deriving Repr, DecidableEq

inductive PrecheckOp where
  | getAccount (idOrAliasOrEvmAddress : String)
  deriving Repr, DecidableEq

inductive PrecheckError where
  | rpc (error : JsonRpcError)
  | mirrorNode (statusCode : Nat)
  deriving Repr, DecidableEq

/-- An account that the mirror node does not have is null. -/
abbrev PrecheckOp.Answer (_ : PrecheckOp) : Type := Except PrecheckError (Option MirrorAccountInfo)

abbrev Checking (Result : Type) := ExceptT PrecheckError (Prog PrecheckOp PrecheckOp.Answer) Result

/-- `text.replace('0x', '')` -/
def without0x : List Char → List Char
  | [] => []
  | char :: rest => if ['0', 'x'] <+: char :: rest then (char :: rest).drop 2 else char :: without0x rest

namespace Precheck

def getAccount (address : String) : Checking (Option MirrorAccountInfo) :=
  ExceptT.mk (Prog.op (.getAccount address))

/-- A check that asks nothing. -/
def checked (outcome : Except JsonRpcError Unit) : Checking Unit := ExceptT.mk (.done (outcome.mapError .rpc))

/-- Zero and other bytes, of two characters each; behind the end there is no character. -/
def countBytes : List Char → (zeros nonZeros : Nat) → Nat × Nat
  | [], zeros, nonZeros => (zeros, nonZeros)
  | [_], zeros, nonZeros => (zeros, nonZeros + 1)
  | first :: second :: rest, zeros, nonZeros =>
      if first = '0' ∧ second = '0' then countBytes rest (zeros + 1) nonZeros
      else countBytes rest zeros (nonZeros + 1)

def transactionIntrinsicGasCost (data : List Char) : Nat :=
  let counted := countBytes (without0x data) 0 0
  TX_BASE_COST + TX_DATA_ZERO_COST * counted.1 + ISTANBUL_TX_DATA_NON_ZERO_COST * counted.2

variable (config : PrecheckConfig) (tx : RawTransaction)

def callDataSize : Except JsonRpcError Unit :=
  let totalCallDataSizeInBytes := (without0x tx.data).length / 2
  if totalCallDataSizeInBytes > config.CALL_DATA_SIZE_LIMIT then
    throw (CALL_DATA_SIZE_LIMIT_EXCEEDED totalCallDataSizeInBytes config.CALL_DATA_SIZE_LIMIT)
  else return ()

def transactionSize : Except JsonRpcError Unit :=
  let totalRawTransactionSizeInBytes := (without0x tx.serialized.toList).length / 2
  if totalRawTransactionSizeInBytes > config.SEND_RAW_TRANSACTION_SIZE_LIMIT then
    throw (TRANSACTION_SIZE_LIMIT_EXCEEDED totalRawTransactionSizeInBytes config.SEND_RAW_TRANSACTION_SIZE_LIMIT)
  else return ()

def transactionType : Except JsonRpcError Unit :=
  if tx.typeNumber = 3 then throw UNSUPPORTED_TRANSACTION_TYPE else return ()

def gasLimit : Except JsonRpcError Unit :=
  let gasLimit := nearestDouble tx.gasLimit 1
  let intrinsicGasCost := transactionIntrinsicGasCost tx.data
  if gasLimit > config.MAX_TRANSACTION_FEE_THRESHOLD then
    throw (GAS_LIMIT_TOO_HIGH (numberText gasLimit) config.MAX_TRANSACTION_FEE_THRESHOLD)
  else if gasLimit < intrinsicGasCost then
    throw (GAS_LIMIT_TOO_LOW (numberText gasLimit) intrinsicGasCost)
  else return ()

def verifyAccount : Checking MirrorAccountInfo := do
  match ← getAccount (tx.sender.getD "null") with
  | none =>
      let sender := tx.sender.getD "null"
      throw (.rpc (RESOURCE_NOT_FOUND s!"address '{sender}'."))
  | some accountInfo => return accountInfo

/-- A nonce that is null counts as zero. -/
def nonce (accountInfoNonce : Option Nat) : Except JsonRpcError Unit :=
  match accountInfoNonce with
  | some accountInfoNonce =>
      if accountInfoNonce > tx.nonce then throw (Relay.predefined.NONCE_TOO_LOW tx.nonce accountInfoNonce)
      else return ()
  | none => return ()

def isLegacyUnprotectedEtx : Bool := tx.chainId == 0 && (tx.signatureV == some 27 || tx.signatureV == some 28)

def chainId : Except JsonRpcError Unit :=
  let txChainId := prepend0x (String.ofList (hexadecimal (nearestDouble tx.chainId 1)))
  let passes := isLegacyUnprotectedEtx tx || txChainId == config.chain
  if passes then return () else throw (UNSUPPORTED_CHAIN_ID txChainId config.chain)

def value : Except JsonRpcError Unit :=
  if tx.value > 0 ∧ tx.value < TINYBAR_TO_WEIBAR_COEF then throw VALUE_TOO_LOW else return ()

def receiverAccount : Checking Unit :=
  match tx.receiver with
  | none => return ()
  | some receiver => do
      match ← getAccount receiver with
      | some { receiver_sig_required := some true, .. } => throw (.rpc RECEIVER_SIGNATURE_ENABLED)
      | _ => return ()

def sendRawTransactionCheck (networkGasPriceInWeiBars : Nat) : Checking Unit := do
  checked (callDataSize config tx)
  checked (transactionSize config tx)
  checked (transactionType tx)
  checked (gasLimit config tx)
  let mirrorAccountInfo ← verifyAccount tx
  checked (nonce tx mirrorAccountInfo.ethereum_nonce)
  checked (chainId config tx)
  checked (value tx)
  checked (gasPrice config.GAS_PRICE_TINY_BAR_BUFFER tx.toTransaction networkGasPriceInWeiBars)
  checked (balance tx.toTransaction (some mirrorAccountInfo.toMirrorAccount))
  receiverAccount tx

end Precheck

/-! What the checks decide. -/

/-- Conditions with the errors for those that do not hold: the first of these counts. -/
def firstError {Error : Type} : List (Bool × Error) → Except Error Unit
  | [] => .ok ()
  | (holds, error) :: rest => if holds then firstError rest else .error error

/-- A zero byte costs less. -/
def intrinsicGas (callData : List UInt8) : Nat :=
  TX_BASE_COST + TX_DATA_ZERO_COST * callData.countP (· = 0) +
    ISTANBUL_TX_DATA_NON_ZERO_COST * callData.countP (· ≠ 0)

namespace RawTransaction

variable (config : PrecheckConfig) (tx : RawTransaction) (networkGasPriceInWeiBars : Nat)

/-- Those of the transaction alone. -/
def ownConditions : List (Bool × JsonRpcError) := [
  (tx.callData.length ≤ config.CALL_DATA_SIZE_LIMIT,
    CALL_DATA_SIZE_LIMIT_EXCEEDED tx.callData.length config.CALL_DATA_SIZE_LIMIT),
  (tx.bytes.length ≤ config.SEND_RAW_TRANSACTION_SIZE_LIMIT,
    TRANSACTION_SIZE_LIMIT_EXCEEDED tx.bytes.length config.SEND_RAW_TRANSACTION_SIZE_LIMIT),
  (!tx.isBlob, UNSUPPORTED_TRANSACTION_TYPE),
  (tx.gasLimit ≤ config.MAX_TRANSACTION_FEE_THRESHOLD,
    GAS_LIMIT_TOO_HIGH (numberText (nearestDouble tx.gasLimit 1)) config.MAX_TRANSACTION_FEE_THRESHOLD),
  (intrinsicGas tx.callData ≤ tx.gasLimit,
    GAS_LIMIT_TOO_LOW (numberText tx.gasLimit) (intrinsicGas tx.callData))]

/-- Before the chain identifiers of EIP-155. -/
def Unprotected (tx : RawTransaction) : Prop := tx.chainId = 0 ∧ (tx.signatureV = some 27 ∨ tx.signatureV = some 28)

instance (tx : RawTransaction) : Decidable tx.Unprotected := inferInstanceAs (Decidable (_ ∧ _))

/-- Those of the transaction and the account of its sender. -/
def accountConditions (account : MirrorAccountInfo) : List (Bool × JsonRpcError) := [
  (account.ethereum_nonce.getD 0 ≤ tx.nonce,
    Relay.predefined.NONCE_TOO_LOW tx.nonce (account.ethereum_nonce.getD 0)),
  (tx.Unprotected ∨ tx.chainId = config.chainNumber,
    UNSUPPORTED_CHAIN_ID ("0x" ++ String.ofList (hexadecimal (nearestDouble tx.chainId 1))) config.chain),
  (tx.value = 0 ∨ TINYBAR_TO_WEIBAR_COEF ≤ tx.value, VALUE_TOO_LOW),
  (networkGasPriceInWeiBars ≤ tx.checkedPrice + config.GAS_PRICE_TINY_BAR_BUFFER ∨
      tx.serialized = DETERMINISTIC_DEPLOYER_TRANSACTION,
    GAS_PRICE_TOO_LOW tx.checkedPrice networkGasPriceInWeiBars),
  (account.balance.isSome,
    Relay.predefined.INTERNAL_ERROR "balance precheck: Cannot read properties of null (reading 'balance')"),
  (tx.value + tx.checkedPrice * tx.gasLimit ≤ account.balance.getD 0 * TINYBAR_TO_WEIBAR_COEF,
    INSUFFICIENT_ACCOUNT_BALANCE)]

/-- The receiver does not ask for a signature. -/
def receiverConditions (accounts : String → Except PrecheckError (Option MirrorAccountInfo)) :
    List (Bool × PrecheckError) :=
  match tx.receiver.map accounts with
  | some (.error error) => [(false, error)]
  | some (.ok (some account)) => [(account.receiver_sig_required ≠ some true, .rpc RECEIVER_SIGNATURE_ENABLED)]
  | _ => []

/-- All of them, over what the mirror node tells of accounts. -/
def conditions (accounts : String → Except PrecheckError (Option MirrorAccountInfo)) : List (Bool × PrecheckError) :=
  let sender := tx.sender.getD "null"
  (tx.ownConditions config).map (Prod.map id .rpc) ++
    match accounts sender with
    | .error error => [(false, error)]
    | .ok none => [(false, .rpc (RESOURCE_NOT_FOUND s!"address '{sender}'."))]
    | .ok (some account) =>
        (tx.accountConditions config networkGasPriceInWeiBars account).map (Prod.map id .rpc) ++
          tx.receiverConditions accounts

end RawTransaction

section FirstError
variable {Error : Type} {conditions : List (Bool × Error)}

@[simp] theorem firstError_nil : firstError ([] : List (Bool × Error)) = .ok () := rfl

@[simp] theorem firstError_true (error : Error) :
    firstError ((true, error) :: conditions) = firstError conditions := rfl

@[simp] theorem firstError_false (error : Error) : firstError ((false, error) :: conditions) = .error error := rfl

private theorem firstError_append (others : List (Bool × Error)) :
    firstError (conditions ++ others) = firstError conditions >>= fun _ => firstError others := by
  induction conditions with
  | nil => rfl
  | cons condition rest ih =>
    obtain ⟨holds, error⟩ := condition
    cases holds with
    | true => exact ih
    | false => rfl

private theorem firstError_map {Other : Type} (rename : Error → Other) :
    firstError (conditions.map (Prod.map id rename)) = (firstError conditions).mapError rename := by
  induction conditions with
  | nil => rfl
  | cons condition rest ih =>
    obtain ⟨holds, error⟩ := condition
    cases holds with
    | true => exact ih
    | false => rfl

/-- They return where all of them hold. -/
theorem firstError_eq_ok_iff : firstError conditions = .ok () ↔ ∀ condition ∈ conditions, condition.1 = true := by
  induction conditions with
  | nil => simp
  | cons condition rest ih =>
    obtain ⟨holds, error⟩ := condition
    cases holds with
    | true => simpa using ih
    | false => simp

end FirstError

/-! The texts of digits. -/

@[simp] theorem toHexText_cons (byte : UInt8) (rest : List UInt8) :
    toHexText (byte :: rest) =
      Nat.digitChar (byte.toNat / 16) :: Nat.digitChar (byte.toNat % 16) :: toHexText rest := rfl

private theorem length_toHexText (bytes : List UInt8) : (toHexText bytes).length = 2 * bytes.length := by
  induction bytes with
  | nil => rfl
  | cons byte rest ih =>
    rw [toHexText_cons, List.length_cons, List.length_cons, List.length_cons, ih]
    omega

@[simp] theorem without0x_marked (digits : List Char) : without0x ('0' :: 'x' :: digits) = digits := by
  rw [without0x, if_pos ⟨digits, rfl⟩]
  rfl

theorem digitChar_eq_zero_iff {digit : Nat} (small : digit < 16) : Nat.digitChar digit = '0' ↔ digit = 0 := by
  revert digit
  decide

/-- Both digits of a byte are zero where the byte is. -/
theorem digitChars_eq_zero_iff (byte : UInt8) :
    Nat.digitChar (byte.toNat / 16) = '0' ∧ Nat.digitChar (byte.toNat % 16) = '0' ↔ byte = 0 := by
  have small := byte.toNat_lt
  rw [digitChar_eq_zero_iff (by omega), digitChar_eq_zero_iff (Nat.mod_lt _ (by decide)), ← UInt8.toNat_inj]
  change _ ↔ byte.toNat = 0
  omega

namespace Precheck

private theorem countBytes_toHexText (bytes : List UInt8) (zeros nonZeros : Nat) :
    countBytes (toHexText bytes) zeros nonZeros =
      (zeros + bytes.countP (· = 0), nonZeros + bytes.countP (· ≠ 0)) := by
  induction bytes generalizing zeros nonZeros with
  | nil => rfl
  | cons byte rest ih =>
    rw [toHexText_cons, countBytes, ih, ih]
    by_cases zero : byte = 0
    · rw [if_pos ((digitChars_eq_zero_iff byte).mpr zero)]
      simp only [zero, decide_true, List.countP_cons_of_pos, ne_eq, not_true, decide_false, Bool.false_eq_true,
        not_false_eq_true, List.countP_cons_of_neg]
      rw [Nat.add_right_comm, Nat.add_assoc]
    · rw [if_neg (mt (digitChars_eq_zero_iff byte).mp zero)]
      simp only [zero, decide_false, Bool.false_eq_true, not_false_eq_true, List.countP_cons_of_neg, ne_eq,
        decide_true, List.countP_cons_of_pos]
      rw [Nat.add_right_comm, Nat.add_assoc]

variable {config : PrecheckConfig} {tx : RawTransaction}

/-- The loop over the text finds what the bytes cost. -/
theorem transactionIntrinsicGasCost_data : transactionIntrinsicGasCost tx.data = intrinsicGas tx.callData := by
  rw [transactionIntrinsicGasCost, RawTransaction.data, without0x_marked, countBytes_toHexText, intrinsicGas]
  simp

theorem size_of_marked (bytes : List UInt8) :
    (without0x ('0' :: 'x' :: toHexText bytes)).length / 2 = bytes.length := by
  rw [without0x_marked, length_toHexText, Nat.mul_div_cancel_left _ (by decide)]

/-- A number and its rounding are on the same side of a safe one. -/
theorem lt_nearestDouble_iff {limit number : Nat} (safe : limit < 2 ^ 53) :
    limit < nearestDouble number 1 ↔ limit < number := by
  have exactly : nearestDouble limit 1 = limit := Lib.nearestDouble_of_isDouble (.of_lt safe)
  constructor
  · intro below
    by_contra above
    have rounded : nearestDouble number 1 ≤ nearestDouble limit 1 := Lib.nearestDouble_mono (not_lt.mp above)
    rw [exactly] at rounded
    exact absurd below (not_lt.mpr rounded)
  · intro below
    have least : nearestDouble (limit + 1) 1 = limit + 1 := by
      rcases Nat.lt_or_eq_of_le (Nat.succ_le_of_lt safe) with less | same
      · exact Lib.nearestDouble_of_isDouble (.of_lt less)
      · exact Lib.nearestDouble_of_isDouble ⟨1, 53, by decide, by rw [Nat.one_mul]; exact same⟩
    have rounded : nearestDouble (limit + 1) 1 ≤ nearestDouble number 1 := Lib.nearestDouble_mono below
    rw [least] at rounded
    exact rounded

private theorem nearestDouble_of_le {limit number : Nat} (safe : limit < 2 ^ 53) (below : number ≤ limit) :
    nearestDouble number 1 = number := Lib.nearestDouble_of_isDouble (.of_lt (below.trans_lt safe))

/-- One condition that a check tests. -/
theorem check_eq_firstError {holds : Prop} [Decidable holds] {error : JsonRpcError} {failed : Prop} [Decidable failed]
    (opposite : failed ↔ ¬ holds) :
    (if failed then throw error else return () : Except JsonRpcError Unit) = firstError [(decide holds, error)] := by
  by_cases kept : holds
  · rw [if_neg (mt opposite.mp (not_not.mpr kept)), decide_eq_true kept]
    rfl
  · rw [if_pos (opposite.mpr kept), decide_eq_false kept]
    rfl

variable (config tx)

private theorem callDataSize_eq : callDataSize config tx = firstError
    [(tx.callData.length ≤ config.CALL_DATA_SIZE_LIMIT,
      CALL_DATA_SIZE_LIMIT_EXCEEDED tx.callData.length config.CALL_DATA_SIZE_LIMIT)] := by
  rw [callDataSize, RawTransaction.data, size_of_marked]
  exact check_eq_firstError not_le.symm

private theorem transactionSize_eq : transactionSize config tx = firstError
    [(tx.bytes.length ≤ config.SEND_RAW_TRANSACTION_SIZE_LIMIT,
      TRANSACTION_SIZE_LIMIT_EXCEEDED tx.bytes.length config.SEND_RAW_TRANSACTION_SIZE_LIMIT)] := by
  rw [transactionSize, tx.serialized_eq, size_of_marked]
  exact check_eq_firstError not_le.symm

private theorem transactionType_eq : transactionType tx = firstError [(!tx.isBlob, UNSUPPORTED_TRANSACTION_TYPE)] := by
  rw [transactionType, RawTransaction.typeNumber]
  cases tx.isBlob with
  | true => rfl
  | false => cases tx.type <;> rfl

variable {config} in
/-- The rounded limit is not too high where the exact one is not, and then it is exact. -/
theorem gasLimit_eq (safe : config.Safe) : gasLimit config tx = firstError
    [(tx.gasLimit ≤ config.MAX_TRANSACTION_FEE_THRESHOLD,
      GAS_LIMIT_TOO_HIGH (numberText (nearestDouble tx.gasLimit 1)) config.MAX_TRANSACTION_FEE_THRESHOLD),
    (intrinsicGas tx.callData ≤ tx.gasLimit,
      GAS_LIMIT_TOO_LOW (numberText tx.gasLimit) (intrinsicGas tx.callData))] := by
  have high : config.MAX_TRANSACTION_FEE_THRESHOLD < nearestDouble tx.gasLimit 1 ↔
    config.MAX_TRANSACTION_FEE_THRESHOLD < tx.gasLimit := lt_nearestDouble_iff safe.threshold
  rw [gasLimit, transactionIntrinsicGasCost_data]
  by_cases above : config.MAX_TRANSACTION_FEE_THRESHOLD < tx.gasLimit
  · rw [if_pos (high.mpr above), decide_eq_false (not_le.mpr above)]
    rfl
  · have below := not_lt.mp above
    rw [if_neg (mt high.mp above), decide_eq_true below, firstError_true,
      nearestDouble_of_le safe.threshold below]
    exact check_eq_firstError not_le.symm

private theorem nonce_eq (accountInfoNonce : Option Nat) : nonce tx accountInfoNonce = firstError
    [(accountInfoNonce.getD 0 ≤ tx.nonce,
      Relay.predefined.NONCE_TOO_LOW tx.nonce (accountInfoNonce.getD 0))] := by
  cases accountInfoNonce with
  | none => rfl
  | some known => exact check_eq_firstError not_le.symm

private theorem value_eq : value tx = firstError
    [(tx.value = 0 ∨ TINYBAR_TO_WEIBAR_COEF ≤ tx.value, VALUE_TOO_LOW)] :=
  check_eq_firstError (by omega)

private theorem toDigits_inj {first second : Nat} :
    Nat.toDigits 16 first = Nat.toDigits 16 second ↔ first = second := by
  constructor
  · intro same
    rw [← Formatting.hexValue_toDigits first, same, Formatting.hexValue_toDigits]
  · exact congrArg _

private theorem prepend0x_hexadecimal (number : Nat) :
    prepend0x (String.ofList (hexadecimal number)) = "0x" ++ String.ofList (hexadecimal number) :=
  Formatting.prepend0x_hex (Formatting.all_isHexDigit_toDigits number)

variable {config} in
/-- The rounded identifier has the digits of the chain where the exact one is the chain. -/
theorem hexadecimal_eq_iff (safe : config.Safe) : hexadecimal (nearestDouble tx.chainId 1) =
    hexadecimal config.chainNumber ↔ tx.chainId = config.chainNumber := by
  rw [hexadecimal, hexadecimal, toDigits_inj]
  rcases Nat.lt_or_ge tx.chainId (2 ^ 53) with small | large
  · rw [Lib.nearestDouble_of_isDouble (.of_lt small)]
  · have rounded : 2 ^ 53 - 1 < nearestDouble tx.chainId 1 := (lt_nearestDouble_iff (by decide)).mpr (by omega)
    have safeChain := safe.chain
    omega

private theorem isLegacyUnprotectedEtx_eq : isLegacyUnprotectedEtx tx = decide tx.Unprotected := by
  rw [Bool.eq_iff_iff, decide_eq_true_eq]
  simp [isLegacyUnprotectedEtx, RawTransaction.Unprotected]

variable {config} in
private theorem chainId_eq (safe : config.Safe) : chainId config tx = firstError
    [(tx.Unprotected ∨ tx.chainId = config.chainNumber,
      UNSUPPORTED_CHAIN_ID ("0x" ++ String.ofList (hexadecimal (nearestDouble tx.chainId 1)))
        config.chain)] := by
  have shown : ("0x" ++ String.ofList (hexadecimal (nearestDouble tx.chainId 1)) == config.chain) =
      decide (tx.chainId = config.chainNumber) := by
    rw [PrecheckConfig.chain, Bool.eq_iff_iff, beq_iff_eq, decide_eq_true_eq, ← hexadecimal_eq_iff tx safe]
    exact Formatting.hexText_inj
  rw [chainId, prepend0x_hexadecimal, shown, isLegacyUnprotectedEtx_eq, ← Bool.decide_or]
  by_cases passes : tx.Unprotected ∨ tx.chainId = config.chainNumber
  · rw [decide_eq_true passes]
    rfl
  · rw [decide_eq_false passes]
    rfl

/-- The buffer of zero is no exception. -/
theorem gasPrice_eq (networkGasPriceInWeiBars : Nat) :
    gasPrice config.GAS_PRICE_TINY_BAR_BUFFER tx.toTransaction networkGasPriceInWeiBars = firstError
      [(networkGasPriceInWeiBars ≤ tx.checkedPrice + config.GAS_PRICE_TINY_BAR_BUFFER ∨
          tx.serialized = DETERMINISTIC_DEPLOYER_TRANSACTION,
        GAS_PRICE_TOO_LOW tx.checkedPrice networkGasPriceInWeiBars)] := by
  have passing := gasPrice_ok_iff config.GAS_PRICE_TINY_BAR_BUFFER networkGasPriceInWeiBars tx.toTransaction
  rw [isDeterministicDeploymentTransaction, beq_iff_eq] at passing
  by_cases enough : networkGasPriceInWeiBars ≤ tx.checkedPrice + config.GAS_PRICE_TINY_BAR_BUFFER ∨
      tx.serialized = DETERMINISTIC_DEPLOYER_TRANSACTION
  · rw [passing.mpr enough, decide_eq_true enough]
    rfl
  · rw [decide_eq_false enough, firstError_false]
    rw [not_or] at enough
    rw [gasPrice, txGasPrice_eq, Js.ok_bind, isDeterministicDeploymentTransaction, beq_eq_false_iff_ne.mpr enough.2,
      Bool.or_false]
    dsimp only
    rw [if_neg (by simp; omega), if_neg (by simp; omega)]
    rfl

private theorem balance_eq (account : MirrorAccount) : balance tx.toTransaction (some account) = firstError
    [(account.balance.isSome,
      Relay.predefined.INTERNAL_ERROR "balance precheck: Cannot read properties of null (reading 'balance')"),
    (tx.value + tx.checkedPrice * tx.gasLimit ≤ account.balance.getD 0 * TINYBAR_TO_WEIBAR_COEF,
      INSUFFICIENT_ACCOUNT_BALANCE)] := by
  obtain ⟨known⟩ := account
  rw [balance, txGasPrice_eq, Js.ok_bind]
  cases known with
  | none => rfl
  | some tinybars =>
    dsimp only
    rw [Option.isSome_some, firstError_true, Option.getD_some]
    by_cases paid : (tx.value + tx.checkedPrice * tx.gasLimit : Int) ≤ tinybars * TINYBAR_TO_WEIBAR_COEF
    · rw [decide_eq_true paid, if_pos (mod_cast paid)]
      rfl
    · rw [decide_eq_false paid, if_neg (mod_cast paid)]
      rfl

section Run
variable {config tx} {accounts : String → Except PrecheckError (Option MirrorAccountInfo)}

/-- What the mirror node tells of each account. -/
def answers (accounts : String → Except PrecheckError (Option MirrorAccountInfo)) :
    (op : PrecheckOp) → PrecheckOp.Answer op
  | .getAccount address => accounts address

theorem answeredBy_getAccount (address : String) :
    (getAccount address).run.answeredBy (answers accounts) = accounts address := rfl

/-- A check in front of others puts its conditions in front of theirs. -/
theorem answeredBy_checked_bind {outcome : Except JsonRpcError Unit} {conditions : List (Bool × JsonRpcError)}
    {next : Unit → Checking Unit} {others : List (Bool × PrecheckError)} (first : outcome = firstError conditions)
    (rest : (next ()).run.answeredBy (answers accounts) = firstError others) :
    (checked outcome >>= next).run.answeredBy (answers accounts) =
      firstError (conditions.map (Prod.map id .rpc) ++ others) := by
  rw [ExceptT.run_bind, Prog.answeredBy_bind, firstError_append, firstError_map, ← first, ← rest]
  cases outcome with
  | ok _ => rfl
  | error error => rfl

private theorem answeredBy_receiverAccount :
    (receiverAccount tx).run.answeredBy (answers accounts) = firstError (tx.receiverConditions accounts) := by
  unfold receiverAccount RawTransaction.receiverConditions
  cases tx.receiver with
  | none => rfl
  | some receiver =>
    rw [ExceptT.run_bind, Prog.answeredBy_bind, Option.map_some, answeredBy_getAccount]
    cases accounts receiver with
    | error error => rfl
    | ok found =>
      cases found with
      | none => rfl
      | some account =>
        obtain ⟨known, accountNonce, signature⟩ := account
        cases signature with
        | none => rfl
        | some required => cases required <;> rfl

private theorem answeredBy_verifyAccount_bind (next : MirrorAccountInfo → Checking Unit) :
    (verifyAccount tx >>= next).run.answeredBy (answers accounts) =
      match accounts (tx.sender.getD "null") with
      | .error error => .error error
      | .ok none =>
          let sender := tx.sender.getD "null"
          .error (.rpc (RESOURCE_NOT_FOUND s!"address '{sender}'."))
      | .ok (some account) => (next account).run.answeredBy (answers accounts) := by
  rw [verifyAccount, bind_assoc, ExceptT.run_bind, Prog.answeredBy_bind, answeredBy_getAccount]
  cases accounts (tx.sender.getD "null") with
  | error error => rfl
  | ok found => cases found <;> rfl

/-- The checks that follow once the account is known. -/
theorem answeredBy_accountChecks (safe : config.Safe) (networkGasPriceInWeiBars : Nat) (account : MirrorAccountInfo) :
    (do
        checked (nonce tx account.ethereum_nonce)
        checked (chainId config tx)
        checked (value tx)
        checked (gasPrice config.GAS_PRICE_TINY_BAR_BUFFER tx.toTransaction networkGasPriceInWeiBars)
        checked (balance tx.toTransaction (some account.toMirrorAccount))
        receiverAccount tx : Checking Unit).run.answeredBy (answers accounts) =
      firstError ((tx.accountConditions config networkGasPriceInWeiBars account).map (Prod.map id .rpc) ++
        tx.receiverConditions accounts) := by
  apply answeredBy_checked_bind (nonce_eq tx account.ethereum_nonce)
  apply answeredBy_checked_bind (chainId_eq tx safe)
  apply answeredBy_checked_bind (value_eq tx)
  apply answeredBy_checked_bind (gasPrice_eq config tx networkGasPriceInWeiBars)
  apply answeredBy_checked_bind (balance_eq tx account.toMirrorAccount)
  exact answeredBy_receiverAccount

private theorem answeredBy_sendRawTransactionCheck (safe : config.Safe) (networkGasPriceInWeiBars : Nat) :
    (sendRawTransactionCheck config tx networkGasPriceInWeiBars).run.answeredBy (answers accounts) =
      firstError (tx.conditions config networkGasPriceInWeiBars accounts) := by
  apply answeredBy_checked_bind (callDataSize_eq config tx)
  apply answeredBy_checked_bind (transactionSize_eq config tx)
  apply answeredBy_checked_bind (transactionType_eq tx)
  apply answeredBy_checked_bind (gasLimit_eq tx safe)
  rw [answeredBy_verifyAccount_bind]
  cases accounts (tx.sender.getD "null") with
  | error error => rfl
  | ok found =>
    cases found with
    | none => rfl
    | some account => exact answeredBy_accountChecks safe networkGasPriceInWeiBars account

end Run

def exampleConfig : PrecheckConfig where
  chainNumber := 295
  CALL_DATA_SIZE_LIMIT := 131072
  SEND_RAW_TRANSACTION_SIZE_LIMIT := 133120
  MAX_TRANSACTION_FEE_THRESHOLD := 15000000
  GAS_PRICE_TINY_BAR_BUFFER := 10000000000

/-- A call with one byte that is not zero, whose gas is just its intrinsic cost. -/
def exampleCall : RawTransaction where
  type := .dynamicFee
  gasPrice := none
  maxFeePerGas := some 20000000000
  maxPriorityFeePerGas := some 0
  value := 10000000000
  gasLimit := 21020
  sender := some "0xa"
  serialized := "0x0201"
  ofType := ⟨rfl, rfl, rfl⟩
  isBlob := false
  nonce := 7
  chainId := 295
  signatureV := some 28
  receiver := some "0xb"
  callData := [0, 1]
  bytes := [2, 1]
  blobFees := nofun
  serialized_eq := by decide

/-- The sender can just pay, and the receiver may ask for a signature. -/
def exampleAccounts (receiver_sig_required : Bool) (address : String) :
    Except PrecheckError (Option MirrorAccountInfo) :=
  if address = "0xa" then
    .ok (some { balance := some 42041, ethereum_nonce := some 7, receiver_sig_required := some false })
  else .ok (some { balance := none, ethereum_nonce := none, receiver_sig_required })

end Precheck

end HieroRelay.Fees
