import HieroRelay.Blocks.LogsBloomUtils
import HieroRelay.Blocks.MirrorNode

/-! The transactions and receipts that are sent, and the factories that build them from
records of the mirror node or from logs. -/

namespace HieroRelay.Blocks

open HieroRelay.Filters (HexNumber Log numberTo0x toHash32)

def ZERO_HEX : HexNumber := numberTo0x 0
def ONE_HEX : String := "0x1"
def TWO_HEX : HexNumber := numberTo0x 2
def ONE_TWO_THREE_FOUR_HEX : HexNumber := numberTo0x 0x1234
def EMPTY_HEX : String := "0x"
def INVALID_EVM_INSTRUCTION : String := "0xfe"
def TX_DEFAULT_GAS_DEFAULT : Nat := 400000
def FUNCTION_SELECTOR_CHAR_LENGTH : Nat := 10
def ZERO_HEX_8_BYTE : String := "0x0000000000000000"
def ZERO_HEX_32_BYTE : String := "0x0000000000000000000000000000000000000000000000000000000000000000"
def ZERO_ADDRESS_HEX : String := "0x0000000000000000000000000000000000000000"
def DEFAULT_ROOT_HASH : String := "0x56e81f171bcc55a6ff8345e692c0f86e5b48e01b996cadc001622fb5e363b421"
def EMPTY_ARRAY_HEX : String := "0x1dcc4de8dec75d7aab85b567b6ccd41ad312451b948a7413f0a142fd40d49347"

def HTS_CREATE_FUNCTIONS_SELECTORS : List String :=
  ["0x27d97be3", "0xc23baeb6", "0x0fb65bf3", "0xef2d1098", "0xb937581a", "0x2af0c59a", "0x9dc711e0", "0x9c89bb35",
    "0xea83f293", "0x5bc7c0e6", "0x45733969", "0xabb54eb5"]

/-- A chain id may be left out, or sent as null. -/
inductive ChainId where
  | absent
  | null
  | id (text : String)
  deriving Repr, DecidableEq

structure TransactionFields where
  blockHash : String
  blockNumber : Option HexNumber
  chainId : ChainId
  fromAddress : String
  gas : HexNumber
  gasPrice : String
  hash : String
  input : String
  nonce : HexNumber
  r : String
  s : String
  toAddress : Option String
  transactionIndex : Option HexNumber
  type : HexNumber
  v : HexNumber
  value : Option HexNumber
  deriving Repr, DecidableEq

/-- The class of a transaction with the fields it adds; its access list is always empty. -/
inductive TransactionKind where
  | Transaction
  | Transaction2930 (yParity : HexNumber)
  | Transaction1559 (yParity : HexNumber) (maxPriorityFeePerGas maxFeePerGas : String)
  deriving Repr, DecidableEq

structure Transaction extends TransactionFields where
  kind : TransactionKind
  deriving Repr, DecidableEq

namespace TransactionFactory

def feePerGas : Option String → String
  | none => hexText ZERO_HEX
  | some fee => if fee = EMPTY_HEX then hexText ZERO_HEX else prepend0x (trimPrecedingZeros fee)

/-- Null for any other type. -/
def createTransactionByType (type : Option Nat) (fields : TransactionFields)
    (maxPriorityFeePerGas maxFeePerGas : Option String) : Option Transaction :=
  match type with
  | some 0 => some { toTransactionFields := fields, kind := .Transaction }
  | some 1 => some { toTransactionFields := fields, kind := .Transaction2930 fields.v }
  | some 2 => some {
      toTransactionFields := fields
      kind := .Transaction1559 fields.v (feePerGas maxPriorityFeePerGas) (feePerGas maxFeePerGas) }
  | none => some { toTransactionFields := fields, kind := .Transaction }
  | _ => none

theorem createTransactionByType_fields {type : Option Nat} {fields : TransactionFields}
    {maxPriorityFeePerGas maxFeePerGas : Option String} {transaction : Transaction}
    (built : createTransactionByType type fields maxPriorityFeePerGas maxFeePerGas = some transaction) :
    transaction.toTransactionFields = fields := by
  unfold createTransactionByType at built
  split at built <;> cases built <;> rfl

def createTransactionFromLog (chainId : String) (log : Log) : Option Transaction :=
  createTransactionByType (some 2) {
    blockHash := log.blockHash
    blockNumber := some log.blockNumber
    chainId := .id chainId
    fromAddress := log.address
    gas := numberTo0x TX_DEFAULT_GAS_DEFAULT
    gasPrice := INVALID_EVM_INSTRUCTION
    hash := log.transactionHash
    input := ZERO_HEX_8_BYTE
    nonce := nanOrNumberTo0x (some 0)
    r := EMPTY_HEX
    s := EMPTY_HEX
    toAddress := some log.address
    transactionIndex := some log.transactionIndex
    type := TWO_HEX
    v := ZERO_HEX
    value := none } (some (hexText ZERO_HEX)) (some (hexText ZERO_HEX))

end TransactionFactory

/-- A receipt; `revertReason` is left out where there is none. -/
structure TransactionReceipt where
  blockHash : String
  blockNumber : HexNumber
  contractAddress : Option String
  cumulativeGasUsed : HexNumber
  effectiveGasPrice : HexNumber
  fromAddress : Option String
  gasUsed : HexNumber
  logs : List Log
  logsBloom : String
  root : String
  status : String
  toAddress : Option String
  transactionHash : String
  transactionIndex : HexNumber
  type : Option HexNumber
  revertReason : Option String
  deriving Repr, DecidableEq

structure ReceiptRootHashLog where
  address : String
  data : String
  topics : List String
  deriving Repr, DecidableEq

/-- What the root of the receipts is computed from. -/
structure ReceiptRootHash where
  cumulativeGasUsed : HexNumber
  logs : List ReceiptRootHashLog
  logsBloom : String
  root : Option String
  status : String
  transactionIndex : Option HexNumber
  type : Option HexNumber
  deriving Repr, DecidableEq

/-- `numberTo0x` of a number that a record may lack. -/
def requiredNumberTo0x : Option Nat → Throwing HexNumber
  | some number => return numberTo0x number
  | none => throw (.INTERNAL_ERROR .nullNumber)

namespace TransactionReceiptFactory

/-- The receipt of the first log; the other logs are not read. -/
def createSyntheticReceipt (keccak256 : String → Digest) (syntheticLogs : List Log) (present : syntheticLogs ≠ [])
    (gasPriceForTimestamp : HexNumber) : TransactionReceipt where
  blockHash := (syntheticLogs.head present).blockHash
  blockNumber := (syntheticLogs.head present).blockNumber
  contractAddress := some (syntheticLogs.head present).address
  cumulativeGasUsed := ZERO_HEX
  effectiveGasPrice := gasPriceForTimestamp
  fromAddress := some ZERO_ADDRESS_HEX
  gasUsed := ZERO_HEX
  logs := [syntheticLogs.head present]
  logsBloom := LogsBloomUtils.buildLogsBloom keccak256 (syntheticLogs.head present).address
    (syntheticLogs.head present).topics
  root := DEFAULT_ROOT_HASH
  status := ONE_HEX
  toAddress := some (syntheticLogs.head present).address
  transactionHash := (syntheticLogs.head present).transactionHash
  transactionIndex := (syntheticLogs.head present).transactionIndex
  type := none
  revertReason := none

/-- The last forty characters of the call result, where a token was created. -/
def getContractAddressFromReceipt (receiptResponse : ContractResult) : Option String :=
  if substring receiptResponse.functionParameters 0 FUNCTION_SELECTOR_CHAR_LENGTH ∈ HTS_CREATE_FUNCTIONS_SELECTORS then
    some (prepend0x (String.ofList (receiptResponse.callResult.toList.drop (receiptResponse.callResult.length - 40))))
  else receiptResponse.address

def revertReasonOf : Option String → Option String
  | none => none
  | some message =>
      if message = "" then none
      else some (if isHex (prepend0x message) then message else prepend0x (ASCIIToHex message))

def createRegularReceipt (receiptResponse : ContractResult) (effectiveGas : HexNumber) (fromAddress : Option String)
    (logs : List Log) (toAddress : Option String) : Throwing TransactionReceipt := do
  let blockNumber ← requiredNumberTo0x receiptResponse.blockNumber
  let transactionIndex ← requiredNumberTo0x receiptResponse.transactionIndex
  return {
    blockHash := toHash32 receiptResponse.blockHash
    blockNumber
    contractAddress := getContractAddressFromReceipt receiptResponse
    cumulativeGasUsed := numberTo0x receiptResponse.blockGasUsed
    effectiveGasPrice := effectiveGas
    fromAddress
    gasUsed := nanOrNumberTo0x receiptResponse.gasUsed
    logs
    logsBloom := if receiptResponse.bloom = EMPTY_HEX then LogsBloomUtils.EMPTY_BLOOM else receiptResponse.bloom
    root := orDefault receiptResponse.root DEFAULT_ROOT_HASH
    status := receiptResponse.status
    toAddress := if receiptResponse.createdContractIds.any (some · = receiptResponse.contractId) then none else toAddress
    transactionHash := toHash32 receiptResponse.hash
    transactionIndex
    type := nullableNumberTo0x receiptResponse.type
    revertReason := revertReasonOf receiptResponse.errorMessage }

end TransactionReceiptFactory

end HieroRelay.Blocks
