import HieroRelay.Blocks.CommonService
import HieroRelay.Lib.Uniq

/-! The block service: a block with its transactions, and the receipts of a block. -/

namespace HieroRelay.Blocks

open HieroRelay.Lib (uniqWith)
open HieroRelay.Filters (AddressParam HexNumber Log numberTo0x toHash32)

/-- `statuses.includes` of the result, or of the error message read as text. -/
def Relay.isRevertedDueToHederaSpecificValidation (relay : Relay) (contractResult : ContractResult) : Bool :=
  relay.hederaSpecificRevertStatuses.contains contractResult.result ||
    relay.hederaSpecificRevertStatuses.contains (hexToASCII (strip0x (contractResult.errorMessage.getD "")))

/-- `BigInt(gas_price)` in weibars, and a text that is no number as it is. -/
def formatGasPrice : Option String → String
  | none => hexText ZERO_HEX
  | some gasPrice =>
      if gasPrice = EMPTY_HEX then hexText ZERO_HEX
      else if isHex gasPrice then hexText (numberTo0x ((parseHex gasPrice).getD 0 * TINYBAR_TO_WEIBAR_COEF))
      else "0x" ++ gasPrice

def formatSignature : Option String → String
  | none => hexText ZERO_HEX
  | some signature => stripLeadingZeroForSignatures (substring signature 0 66)

def formatChainId : Option String → ChainId
  | none => .null
  | some chainId => if chainId = EMPTY_HEX then .absent else .id chainId

/-- `commonFields` of a sender that is not null and an amount in weibars. -/
def commonFields (cr : ContractResult) (fromAddress : String) (value : Option Int) : TransactionFields where
  blockHash := toHash32 cr.blockHash
  blockNumber := nullableNumberTo0x cr.blockNumber
  chainId := formatChainId cr.chainId
  fromAddress := substring fromAddress 0 42
  gas := nanOrNumberTo0x cr.gasUsed
  gasPrice := formatGasPrice cr.gasPrice
  hash := substring cr.hash 0 66
  input := cr.functionParameters
  nonce := nanOrNumberTo0x cr.nonce
  r := formatSignature cr.r
  s := formatSignature cr.s
  toAddress := cr.toAddress.map (substring · 0 42)
  transactionIndex := nullableNumberTo0x cr.transactionIndex
  type := nanOrNumberTo0x cr.type
  v := nanOrNumberTo0x cr.v
  value := some (nanOrNumberInt64To0x value)

/-- Null for a type that is not known. -/
def formatContractResult (cr : ContractResult) : Throwing (Option Transaction) :=
  match cr.fromAddress with
  | none => throw (.INTERNAL_ERROR .nullFrom)
  | some fromAddress =>
      match tinybarsToWeibars cr.amount with
      | none => throw (.INTERNAL_ERROR .totalSupply)
      | some value =>
          return TransactionFactory.createTransactionByType cr.type (commonFields cr fromAddress value)
            cr.maxPriorityFeePerGas cr.maxFeePerGas

namespace ReceiptsRootUtils

variable (relay : Relay)

/-- The bloom of a transaction without a result joins the first log of the block with
the topics of its own first log. -/
def receiptRootHash (contractResults : List ContractResult) (logs : List Log) (txHash : String) :
    Throwing ReceiptRootHash := do
  let logsPerTx := logs.filter fun log => log.transactionHash == txHash
  let rootLogs := logsPerTx.map fun log => { address := log.address, data := log.data, topics := log.topics }
  let logIndex := logsPerTx.head?.map Log.transactionIndex
  match contractResults.find? fun cr => cr.hash == txHash with
  | some cr => return {
      cumulativeGasUsed := numberTo0x cr.blockGasUsed
      logs := rootLogs
      logsBloom := cr.bloom
      root := cr.root
      status := cr.status
      transactionIndex := (nullableNumberTo0x cr.transactionIndex).or logIndex
      type := if cr.type = some 0 then none else nullableNumberTo0x cr.type }
  | none =>
      match logs.head?, logsPerTx.head? with
      | none, _ => throw (.INTERNAL_ERROR .missingAddress)
      | some _, none => throw (.INTERNAL_ERROR .missingTopics)
      | some first, some log => return {
          cumulativeGasUsed := ZERO_HEX
          logs := rootLogs
          logsBloom := LogsBloomUtils.buildLogsBloom relay.keccak256 first.address log.topics
          root := some ZERO_HEX_32_BYTE
          status := ONE_HEX
          transactionIndex := logIndex
          type := none }

def buildReceiptRootHashes (txHashes : List String) (contractResults : List ContractResult) (logs : List Log) :
    Throwing (List ReceiptRootHash) :=
  txHashes.mapM (receiptRootHash relay contractResults logs)

end ReceiptsRootUtils

/-- The transactions of a block: their hashes, or the whole objects. -/
inductive TransactionArray where
  | hashes (hashes : List String)
  | details (transactions : List Transaction)
  deriving Repr, DecidableEq

/-- The hashes that are listed. -/
def TransactionArray.hashList : TransactionArray → List String
  | .hashes list => list
  | .details transactions => transactions.map fun transaction => transaction.hash

structure Block where
  baseFeePerGas : HexNumber
  difficulty : HexNumber
  extraData : String
  gasLimit : HexNumber
  gasUsed : HexNumber
  hash : String
  logsBloom : String
  miner : String
  mixHash : String
  nonce : String
  number : HexNumber
  parentHash : String
  receiptsRoot : String
  timestamp : HexNumber
  sha3Uncles : String
  size : HexNumber
  stateRoot : String
  totalDifficulty : HexNumber
  transactions : TransactionArray
  transactionsRoot : String
  deriving Repr, DecidableEq

namespace BlockService

def BLOCK_GAS_LIMIT : Nat := 30000000

def paramTimestamp (block : MirrorNodeBlock) : LogsParams where
  timestamp := some (block.timestampFrom, block.timestampTo)
  transactionHash := none
  topics := []

/-- The results that passed the validation, with their addresses resolved. -/
def prepareTransactionArray (relay : Relay) (present : ContractResult → Throwing Entry) :
    List ContractResult → Throwing (List Entry)
  | [] => return []
  | contractResult :: rest => do
      if relay.isRevertedDueToHederaSpecificValidation contractResult then prepareTransactionArray relay present rest
      else
        let fromAddress ← CommonService.resolveEvmAddress contractResult.fromAddress [.ACCOUNT]
        let toAddress ← CommonService.resolveEvmAddress contractResult.toAddress
        let chainId := some (orDefault contractResult.chainId relay.chain)
        let entry ← present { contractResult with fromAddress, toAddress, chainId }
        return entry :: (← prepareTransactionArray relay present rest)

/-- The synthetic transaction of a log. -/
def syntheticTransaction (chain : String) (log : Log) : Option Transaction :=
  TransactionFactory.createTransactionByType (some 2) {
    blockHash := log.blockHash
    blockNumber := some log.blockNumber
    chainId := .id chain
    fromAddress := log.address
    gas := numberTo0x TX_DEFAULT_GAS_DEFAULT
    gasPrice := INVALID_EVM_INSTRUCTION
    hash := log.transactionHash
    input := ZERO_HEX_8_BYTE
    nonce := nanOrNumberTo0x (some 0)
    r := hexText ZERO_HEX
    s := hexText ZERO_HEX
    toAddress := some log.address
    transactionIndex := some log.transactionIndex
    type := TWO_HEX
    v := ZERO_HEX
    value := some ONE_TWO_THREE_FOUR_HEX } (some (hexText ZERO_HEX)) (some (hexText ZERO_HEX))

/-- `populateSyntheticTransactions` with details. -/
def populateSyntheticDetails (relay : Relay) (logs : List Log) (transactionsArray : List Transaction) :
    List Transaction :=
  let filteredLogs := logs.filter fun log =>
    !transactionsArray.any fun transaction => transaction.hash == log.transactionHash
  relay.uniqTransactions.apply (transactionsArray ++ filteredLogs.filterMap (syntheticTransaction relay.chain))

/-- `populateSyntheticTransactions` without details. -/
def populateSyntheticHashes (relay : Relay) (logs : List Log) (transactionsArray : List String) : List String :=
  let filteredLogs := logs.filter fun log => !transactionsArray.contains log.transactionHash
  relay.uniqHashes.apply (transactionsArray ++ filteredLogs.map Log.transactionHash)

/-- Reading the hash of a transaction of an unknown type, which is null, fails. -/
def withHash : Option Transaction → Throwing Transaction
  | some transaction => return transaction
  | none => throw (.INTERNAL_ERROR .nullHash)

/-- The array that `getBlock` builds. -/
def transactionArray (relay : Relay) (contractResults : List ContractResult) (logs : List Log) :
    Bool → Throwing TransactionArray
  | true => do
      let formatted ← prepareTransactionArray relay formatContractResult contractResults
      let transactions ← formatted.mapM withHash
      return .details (populateSyntheticDetails relay logs transactions)
  | false => do
      let hashes ← prepareTransactionArray relay (fun contractResult => return contractResult.hash) contractResults
      return .hashes (populateSyntheticHashes relay logs hashes)

/-- `BlockFactory.createBlock` -/
def createBlock (relay : Relay) (blockResponse : MirrorNodeBlock)
    (receipts : List ReceiptRootHash) (txArray : TransactionArray) (gasPrice : HexNumber) : Block where
  baseFeePerGas := gasPrice
  difficulty := ZERO_HEX
  extraData := EMPTY_HEX
  gasLimit := numberTo0x BLOCK_GAS_LIMIT
  gasUsed := numberTo0x blockResponse.gasUsed
  hash := toHash32 blockResponse.hash
  logsBloom := if blockResponse.logsBloom = EMPTY_HEX then LogsBloomUtils.EMPTY_BLOOM else blockResponse.logsBloom
  miner := ZERO_ADDRESS_HEX
  mixHash := ZERO_HEX_32_BYTE
  nonce := ZERO_HEX_8_BYTE
  number := numberTo0x blockResponse.number
  parentHash := substring blockResponse.previousHash 0 66
  receiptsRoot := relay.getRootHash receipts
  timestamp := numberTo0x blockResponse.seconds
  sha3Uncles := EMPTY_ARRAY_HEX
  size := numberTo0x blockResponse.size
  stateRoot := DEFAULT_ROOT_HASH
  totalDifficulty := ZERO_HEX
  transactions := txArray
  transactionsRoot := if txArray.hashList.length = 0 then DEFAULT_ROOT_HASH else toHash32 blockResponse.hash

/-- A list of contract results is never null, so that a block that exists is sent. -/
def getBlock (relay : Relay) (blockHashOrNumber : BlockHashOrNumber)
    (showDetails : Bool) : Throwing (Option Block) := do
  match ← CommonService.getHistoricalBlockResponse relay blockHashOrNumber with
  | none => return none
  | some blockResponse =>
      let contractResults ← MirrorNodeClient.getContractResultsWithRetry relay
        (.timestamp blockResponse.timestampFrom blockResponse.timestampTo)
      let logs ← CommonService.getLogsWithParams relay .absent (paramTimestamp blockResponse)
      (if showDetails && contractResults.length ≥ relay.transactionCountMaxBlockRange then
        throw (.MAX_BLOCK_SIZE blockResponse.count) else pure () : Throwing Unit)
      let txArray ← transactionArray relay contractResults logs showDetails
      let receipts ← ReceiptsRootUtils.buildReceiptRootHashes relay txArray.hashList contractResults logs
      let gasPrice ← CommonService.gasPrice relay
      return some (createBlock relay blockResponse receipts txArray gasPrice)

/-- `logsByHash.get(hash) || []` -/
def logsByHash (logs : List Log) (hash : String) : List Log :=
  logs.filter fun log => log.transactionHash == hash

/-- Null where the transaction was reverted by a validation of Hedera. -/
def regularReceipt (relay : Relay) (effectiveGas : HexNumber) (logs : List Log) (contractResult : ContractResult) :
    Throwing (Option TransactionReceipt) := do
  if relay.isRevertedDueToHederaSpecificValidation contractResult then return none
  else
    let fromAddress ← CommonService.resolveEvmAddress contractResult.fromAddress
    let toAddress ← CommonService.resolveEvmAddress contractResult.toAddress
    return some (← TransactionReceiptFactory.createRegularReceipt contractResult effectiveGas fromAddress
      (logsByHash logs contractResult.hash) toAddress)

/-- One receipt for each hash of a log that no contract result has, in the order of the
first logs. -/
def syntheticReceipts (relay : Relay) (effectiveGas : HexNumber) (logs : List Log)
    (contractResults : List ContractResult) :
    List TransactionReceipt :=
  (uniqWith (logs.map Log.transactionHash)).filterMap fun txHash =>
    if txHash ∈ contractResults.map ContractResult.hash then none
    else if present : logsByHash logs txHash ≠ [] then
      some (TransactionReceiptFactory.createSyntheticReceipt relay.keccak256 (logsByHash logs txHash) present effectiveGas)
    else none

/-- The gas price is asked for with the timestamp in the place of the request details, so
that it is the price now. -/
def getBlockReceipts (relay : Relay) (blockHashOrBlockNumber : BlockHashOrNumber) :
    Throwing (Option (List TransactionReceipt)) := do
  match ← CommonService.getHistoricalBlockResponse relay blockHashOrBlockNumber with
  | none => return none
  | some block =>
      let contractResults ← MirrorNodeClient.getContractResults (.timestamp block.timestampFrom block.timestampTo)
      if contractResults = [] then return some []
      else
        let effectiveGas := numberTo0x (← CommonService.getGasPriceInWeibars none)
        let logs ← CommonService.getLogsWithParams relay .absent (paramTimestamp block)
        let resolvedReceipts ← contractResults.mapM (regularReceipt relay effectiveGas logs)
        return some (resolvedReceipts.filterMap id ++ syntheticReceipts relay effectiveGas logs contractResults)

end BlockService

end HieroRelay.Blocks
