import HieroRelay.Blocks.Answers
import HieroRelay.Blocks.BlockService
import HieroRelay.Formatting.Int64
import HieroRelay.Lib.Alike

/-! The block service formats a contract result with its integers as they are, the formatters of the
cached records with what the JSON parser makes of them. They send the same transactions. -/

namespace HieroRelay.Formatting

open HieroRelay.Blocks (InternalError RelayError hexText respond)
open HieroRelay.Filters (HexNumber numberTo0x)
open HieroRelay.Js (JsError roundToDouble)
open HieroRelay.Lib (Outcomes nearestDouble)
open HieroRelay.Redis

/-- What is missing is null. -/
def fieldOf {Value : Type} : Option Value → Redis.Field Value
  | none => .null
  | some value => .given value

def integerField (number : Option Nat) : Redis.Field Int := fieldOf (number.map Int.ofNat)

/-- The record of a contract result in the answer of the mirror node. -/
def recordOf (cr : Blocks.ContractResult) : ContractResult Int where
  amount := fieldOf (cr.amount.map Int64.toInt)
  block_hash := .given cr.blockHash
  block_number := integerField cr.blockNumber
  chain_id := fieldOf cr.chainId
  from_address := fieldOf cr.fromAddress
  function_parameters := .given cr.functionParameters
  gas_price := fieldOf cr.gasPrice
  gas_used := integerField cr.gasUsed
  hash := .given cr.hash
  max_fee_per_gas := fieldOf cr.maxFeePerGas
  max_priority_fee_per_gas := fieldOf cr.maxPriorityFeePerGas
  nonce := integerField cr.nonce
  r := fieldOf cr.r
  result := .given cr.result
  s := fieldOf cr.s
  to_address := fieldOf cr.toAddress
  transaction_index := integerField cr.transactionIndex
  type := integerField cr.type
  v := integerField cr.v

def chainIdField : Blocks.ChainId → Redis.Field String
  | .absent => .undefined
  | .null => .null
  | .id chainId => .given chainId

def kindOf : Blocks.TransactionKind → TransactionKind
  | .Transaction => .Transaction
  | .Transaction2930 yParity => .Transaction2930 (hexText yParity)
  | .Transaction1559 yParity maxPriorityFeePerGas maxFeePerGas =>
      .Transaction1559 (hexText yParity) maxPriorityFeePerGas maxFeePerGas

/-- A transaction of the block service with its numbers as texts. -/
def sentTransaction (transaction : Blocks.Transaction) : Transaction where
  kind := kindOf transaction.kind
  blockHash := transaction.blockHash
  blockNumber := transaction.blockNumber.map hexText
  chainId := chainIdField transaction.chainId
  fromAddress := transaction.fromAddress
  gas := hexText transaction.gas
  gasPrice := transaction.gasPrice
  hash := transaction.hash
  input := .given transaction.input
  nonce := hexText transaction.nonce
  r := transaction.r
  s := transaction.s
  toAddress := transaction.toAddress
  transactionIndex := transaction.transactionIndex.map hexText
  type := hexText transaction.type
  v := hexText transaction.v
  value := (transaction.value.map hexText).getD "0x0"

/-- An error with the message that the other side throws. -/
inductive SameMessage : RelayError → JsError → Prop where
  | sender : SameMessage (.INTERNAL_ERROR .nullFrom) (.typeError InternalError.nullFrom.message)
  | amount : SameMessage (.INTERNAL_ERROR .totalSupply) (.error InternalError.totalSupply.message)

section Numbers

variable (json : JSONBigInt)

theorem hexText_eq (value : Nat) : hexText (numberTo0x value) = "0x" ++ digits 16 (value : Int) := by
  rw [digits_natCast]
  rfl

theorem nanOrNumberTo0x_eq (number : Option Nat) :
    nanOrNumberTo0x ((integerField number).map json.parse) = hexText (Blocks.nanOrNumberTo0x number) := by
  cases number with
  | none => rfl
  | some value =>
    rw [Blocks.nanOrNumberTo0x, Option.getD_some, hexText_eq]
    exact congrArg ("0x" ++ ·) toString16_parse

private theorem nullableNumberTo0x_eq (number : Option Nat) :
    nullableNumberTo0x ((integerField number).map json.parse) = (Blocks.nullableNumberTo0x number).map hexText := by
  cases number with
  | none => rfl
  | some value =>
    rw [Blocks.nullableNumberTo0x, Option.map_some, Option.map_some, hexText_eq]
    exact congrArg (some <| "0x" ++ ·) toString16_parse

theorem hexText_zero : hexText Blocks.ZERO_HEX = "0x0" := by decide

private theorem feePerGas_eq (fee : Option String) :
    TransactionFactory.feePerGas (fieldOf fee) = Blocks.TransactionFactory.feePerGas fee := by
  cases fee with
  | none => exact hexText_zero.symm
  | some fee =>
    rw [fieldOf, TransactionFactory.feePerGas, Blocks.TransactionFactory.feePerGas, hexText_zero]

private theorem createTransactionByType_eq (type : Option Nat) (fields : Blocks.TransactionFields)
    (maxPriorityFeePerGas maxFeePerGas : Option String) :
    TransactionFactory.createTransactionByType ((integerField type).map json.parse) (hexText fields.v)
        (fieldOf maxPriorityFeePerGas) (fieldOf maxFeePerGas) =
      (Blocks.TransactionFactory.createTransactionByType type fields maxPriorityFeePerGas maxFeePerGas).map
        fun transaction => kindOf transaction.kind := by
  have known : ∀ value : Nat, isShort value = true →
      (integerField (some value)).map json.parse = .given (.number value) := fun value short =>
    congrArg Redis.Field.given (json.parse_of_short short)
  rcases type with _ | _ | _ | _ | value
  · rfl
  · rw [known 0 (by decide)]
    rfl
  · rw [known 1 (by decide)]
    rfl
  · rw [known 2 (by decide)]
    simp only [TransactionFactory.createTransactionByType, feePerGas_eq]
    rfl
  · show TransactionFactory.createTransactionByType (.given (json.parse (value + 3 : Nat))) _ _ _ = none
    cases short : isShort (value + 3 : Nat) with
    | true =>
      rw [json.parse_of_short short]
      unfold TransactionFactory.createTransactionByType
      split <;> simp_all <;> omega
    | false =>
      rw [json.parse_of_long short]
      rfl

/-- The negative amount of a reverted call in two's complement. -/
theorem nanOrNumberInt64To0x_negative {value : Int} (negative : value < 0) (least : -9223372036854775808 ≤ value) :
    nanOrNumberInt64To0x (.given (json.parse value)) = hexText (Blocks.nanOrNumberInt64To0x (some value)) := by
  have whole : (json.parse value).toBigInt = value := by
    cases short : isShort value with
    | true => rw [json.parse_of_short short, JsInteger.toBigInt]
    | false => rw [json.parse_of_long short, JsInteger.toBigInt]
  have below : (json.parse value).toNumber < 0 := by
    rw [toNumber_parse]
    exact toDouble_neg_iff.mpr negative
  rw [nanOrNumberInt64To0x, if_pos below, whole, Blocks.nanOrNumberInt64To0x, Option.getD_some, if_pos negative,
    hexText_eq]
  rw [Int.tmod_eq_emod_of_nonneg (by omega), Int.toNat_of_nonneg (Int.emod_nonneg _ (by decide))]

private theorem amount_eq (amount : Option Int64) :
    match Blocks.tinybarsToWeibars amount with
    | none => tinybarsToWeibars ((fieldOf (amount.map Int64.toInt)).map json.parse) true =
        .error (.error InternalError.totalSupply.message)
    | some value => ∃ weibars,
        tinybarsToWeibars ((fieldOf (amount.map Int64.toInt)).map json.parse) true = .ok weibars ∧
          nanOrNumberInt64To0x weibars = hexText (Blocks.nanOrNumberInt64To0x value) := by
  cases amount with
  | none => exact ⟨.null, rfl, by decide⟩
  | some amount =>
    have given : (fieldOf ((some amount).map Int64.toInt)).map json.parse = .given (json.parse amount.toInt) := rfl
    rw [given, Blocks.tinybarsToWeibars]
    by_cases negative : amount.toInt < 0
    · rw [if_pos negative]
      refine ⟨.given (json.parse amount.toInt), ?_, nanOrNumberInt64To0x_negative json negative amount.le_toInt⟩
      rw [tinybarsToWeibars, toNumber_parse]
      simp [toDouble_neg_iff.mpr negative]
    · rw [if_neg negative]
      obtain ⟨number, same⟩ := Int.eq_ofNat_of_zero_le (Int.not_lt.mp negative)
      rw [same, tinybarsToWeibars_parse, Int.toNat_natCast, roundToDouble_eq_nearestDouble]
      by_cases bounded : nearestDouble number 1 ≤ Blocks.TOTAL_SUPPLY_TINYBARS
      · rw [if_pos bounded, if_neg (Nat.not_lt.mpr bounded)]
        refine ⟨_, rfl, ?_⟩
        rw [nanOrNumberInt64To0x_natCast, roundToDouble_eq_nearestDouble, Blocks.nanOrNumberInt64To0x,
          Option.getD_some, if_neg (Int.not_lt.mpr (Int.natCast_nonneg _)), Int.toNat_natCast, hexText_eq]
        rfl
      · rw [if_neg bounded, if_pos (Nat.lt_of_not_le bounded)]
        rfl

end Numbers

section Records

variable (json : JSONBigInt) (cr : Blocks.ContractResult)

theorem signaturePart_eq (part : Option String) :
    CommonService.signaturePart (fieldOf part) = .ok (Blocks.formatSignature part) := by
  cases part with
  | none => exact congrArg Except.ok hexText_zero.symm
  | some part => rfl

private theorem gasPriceOf_eq (gasPrice : Option String) :
    CommonService.gasPriceOf (fieldOf gasPrice) = Blocks.formatGasPrice gasPrice := by
  cases gasPrice with
  | none => exact hexText_zero.symm
  | some gasPrice =>
    rw [fieldOf, CommonService.gasPriceOf, Blocks.formatGasPrice, hexText_zero, hexText_eq, Nat.cast_mul]

theorem textsOf_recordOf : CommonService.textsOf (json.parse <$> recordOf cr) = (do
    let blockHash ← CommonService.textTo 66 (.given cr.blockHash)
    let fromAddress ← CommonService.textTo 42 (fieldOf cr.fromAddress)
    let hash ← CommonService.textTo 66 (.given cr.hash)
    let r ← CommonService.signaturePart (fieldOf cr.r)
    let s ← CommonService.signaturePart (fieldOf cr.s)
    return { blockHash, fromAddress, hash, r, s }) := rfl

/-- The texts of a record with a sender. -/
theorem textsOf_eq {fromAddress : String} (sender : cr.fromAddress = some fromAddress) :
    CommonService.textsOf (json.parse <$> recordOf cr) = .ok {
      blockHash := Filters.toHash32 cr.blockHash
      fromAddress := Blocks.substring fromAddress 0 42
      hash := Blocks.substring cr.hash 0 66
      r := Blocks.formatSignature cr.r
      s := Blocks.formatSignature cr.s } := by
  rw [textsOf_recordOf, sender, signaturePart_eq, signaturePart_eq, Filters.toHash32, ← Blocks.substring_zero]
  rfl

/-- The fields of a transaction are sent alike. -/
theorem sentTransaction_eq {fromAddress : String} {value : Option Int} {weibars : Redis.Field JsInteger}
    (amount : nanOrNumberInt64To0x weibars = hexText (Blocks.nanOrNumberInt64To0x value))
    {transaction : Blocks.Transaction}
    (fields : transaction.toTransactionFields = Blocks.commonFields cr fromAddress value) :
    sentTransaction transaction = CommonService.transactionOf (json.parse <$> recordOf cr) {
      blockHash := Filters.toHash32 cr.blockHash
      fromAddress := Blocks.substring fromAddress 0 42
      hash := Blocks.substring cr.hash 0 66
      r := Blocks.formatSignature cr.r
      s := Blocks.formatSignature cr.s } weibars (kindOf transaction.kind) := by
  obtain ⟨_, kind⟩ := transaction
  obtain rfl := fields
  have chainId : chainIdField (Blocks.formatChainId cr.chainId) =
      if fieldOf cr.chainId = .given Blocks.EMPTY_HEX then .undefined else fieldOf cr.chainId := by
    cases cr.chainId with
    | none => rfl
    | some chainId =>
      by_cases empty : chainId = Blocks.EMPTY_HEX
      · simp [fieldOf, Blocks.formatChainId, chainIdField, empty]
      · simp [fieldOf, Blocks.formatChainId, chainIdField, empty]
  have toAddress : cr.toAddress.map (Blocks.substring · 0 42) =
      (CommonService.textTo 42 (fieldOf cr.toAddress)).toOption := by
    cases cr.toAddress <;> rfl
  simp only [sentTransaction, Blocks.commonFields, CommonService.transactionOf, chainId, toAddress,
    ← nanOrNumberTo0x_eq json, ← nullableNumberTo0x_eq json, ← gasPriceOf_eq, Option.map_some, Option.getD_some,
    ← amount]
  rfl

/-- The transaction of the block service is the one that the cached records give when they come
fresh from the mirror node. -/
theorem outcomes_formatContractResult (node : Blocks.MirrorNode) :
    Outcomes SameMessage (fun transaction sent => transaction.map sentTransaction = sent)
      (respond node (Blocks.formatContractResult cr))
      (CommonService.formatContractResult (some (json.parse <$> recordOf cr))) := by
  have formatted : CommonService.formatContractResult (some (json.parse <$> recordOf cr)) = (do
      let texts ← CommonService.textsOf (json.parse <$> recordOf cr)
      let value ← tinybarsToWeibars ((fieldOf (cr.amount.map Int64.toInt)).map json.parse) true
      return (TransactionFactory.createTransactionByType ((integerField cr.type).map json.parse)
        (nanOrNumberTo0x ((integerField cr.v).map json.parse)) (fieldOf cr.maxPriorityFeePerGas)
        (fieldOf cr.maxFeePerGas)).map (CommonService.transactionOf (json.parse <$> recordOf cr) texts value)) := rfl
  rw [formatted, Blocks.formatContractResult]
  cases sender : cr.fromAddress with
  | none =>
    rw [textsOf_recordOf, sender]
    exact .error .sender
  | some fromAddress =>
    rw [textsOf_eq json cr sender, Js.ok_bind]
    have amount := amount_eq json cr.amount
    cases converted : Blocks.tinybarsToWeibars cr.amount with
    | none =>
      rw [converted] at amount
      rw [amount]
      exact .error .amount
    | some value =>
      rw [converted] at amount
      obtain ⟨weibars, given, same⟩ := amount
      rw [given, Js.ok_bind]
      apply Outcomes.ok
      have kinds := createTransactionByType_eq json cr.type (Blocks.commonFields cr fromAddress value)
        cr.maxPriorityFeePerGas cr.maxFeePerGas
      rw [show (Blocks.commonFields cr fromAddress value).v = Blocks.nanOrNumberTo0x cr.v from rfl] at kinds
      rw [nanOrNumberTo0x_eq, kinds]
      cases built : Blocks.TransactionFactory.createTransactionByType cr.type (Blocks.commonFields cr fromAddress value)
        cr.maxPriorityFeePerGas cr.maxFeePerGas with
      | none => rfl
      | some transaction =>
        have fields := Blocks.TransactionFactory.createTransactionByType_fields built
        exact congrArg some (sentTransaction_eq json cr same fields)

end Records

end HieroRelay.Formatting
