import HieroRelay.Blocks.BlockService

/-! The transaction service: a transaction by its hash or by its index in a block, and the
receipt of a transaction. -/

namespace HieroRelay.Blocks.TransactionService

open HieroRelay.Filters (AddressParam HexNumber Log numberTo0x toHash32)

variable (relay : Relay)

def paramHash (hash : String) : LogsParams where
  timestamp := none
  transactionHash := some hash
  topics := []

def getTransactionByHash (hash : String) : Throwing (Option Transaction) := do
  match ← MirrorNodeClient.getContractResultWithRetry relay hash with
  | none =>
      match ← CommonService.getLogsWithParams relay .absent (paramHash hash) with
      | [] => return none
      | log :: _ => return TransactionFactory.createTransactionFromLog relay.chain log
  | some contractResult =>
      let fromAddress ← CommonService.resolveEvmAddress contractResult.fromAddress [.ACCOUNT]
      let toAddress ← CommonService.resolveEvmAddress contractResult.toAddress
      let chainId := some (orDefault contractResult.chainId relay.chain)
      formatContractResult { contractResult with fromAddress, toAddress, chainId }

/-- The chain id stays as the mirror node has it. -/
def getTransactionByBlockHashOrBlockNumAndIndex (blockParam : ContractResultsParams) :
    Throwing (Option Transaction) := do
  match ← MirrorNodeClient.getContractResultsWithRetry relay blockParam with
  | [] => return none
  | contractResult :: _ =>
      let toAddress ← CommonService.resolveEvmAddress contractResult.toAddress
      let fromAddress ← CommonService.resolveEvmAddress contractResult.fromAddress [.ACCOUNT]
      formatContractResult { contractResult with fromAddress, toAddress }

def getTransactionByBlockHashAndIndex (blockHash : String) (transactionIndex : Nat) : Throwing (Option Transaction) :=
  getTransactionByBlockHashOrBlockNumAndIndex relay (.blockHash blockHash transactionIndex)

def getTransactionByBlockNumberAndIndex (blockNumOrTag : Filters.BlockParam) (transactionIndex : Nat) :
    Throwing (Option Transaction) := do
  let blockNum ← CommonService.translateBlockTag blockNumOrTag
  getTransactionByBlockHashOrBlockNumAndIndex relay (.blockNumber blockNum transactionIndex)

/-- A log of the detail, with the hashes and numbers of its result. -/
def receiptLog (receiptResponse : ContractResult) (log : ContractResultLog) : Throwing Log := do
  let blockNumber ← requiredNumberTo0x receiptResponse.blockNumber
  let logIndex ← requiredNumberTo0x log.index
  let transactionIndex ← requiredNumberTo0x receiptResponse.transactionIndex
  return {
    address := log.address
    blockHash := toHash32 receiptResponse.blockHash
    blockNumber
    data := log.data
    logIndex
    removed := false
    topics := log.topics
    transactionHash := toHash32 receiptResponse.hash
    transactionIndex }

def handleRegularTransactionReceipt (receiptResponse : ContractResult) : Throwing TransactionReceipt := do
  let effectiveGas ← CommonService.getCurrentGasPriceForBlock receiptResponse.blockHash
  let logs ← receiptResponse.logs.mapM (receiptLog receiptResponse)
  let fromAddress ← CommonService.resolveEvmAddress receiptResponse.fromAddress
  let toAddress ← CommonService.resolveEvmAddress receiptResponse.toAddress
  TransactionReceiptFactory.createRegularReceipt receiptResponse effectiveGas fromAddress logs toAddress

def handleSyntheticTransactionReceipt (hash : String) : Throwing (Option TransactionReceipt) := do
  let syntheticLogs ← CommonService.getLogsWithParams relay .absent (paramHash hash)
  if present : syntheticLogs ≠ [] then
    let gasPriceForTimestamp ← CommonService.getCurrentGasPriceForBlock (syntheticLogs.head present).blockHash
    return some (TransactionReceiptFactory.createSyntheticReceipt relay.keccak256 syntheticLogs present gasPriceForTimestamp)
  else return none

def getTransactionReceipt (hash : String) : Throwing (Option TransactionReceipt) := do
  match ← MirrorNodeClient.getContractResultWithRetry relay hash with
  | none => handleSyntheticTransactionReceipt relay hash
  | some receiptResponse => return some (← handleRegularTransactionReceipt receiptResponse)

end HieroRelay.Blocks.TransactionService
