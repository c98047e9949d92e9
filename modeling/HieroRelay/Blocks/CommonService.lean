import HieroRelay.Blocks.Factories
import HieroRelay.Lib.Uniq

/-! The client of the mirror node with its polling for records that are ready, and the
common service: block ranges, logs, addresses and gas prices. -/

namespace HieroRelay.Blocks

open HieroRelay.Lib (UniqWith)
open HieroRelay.Filters (AddressParam BlockParam HexNumber Log numberTo0x toHash32 zeroAddress)

/-- The configuration, with the hash function, the trie of the receipts, and `_.uniqWith(_, _.isEqual)`
at the two kinds of arrays that it is called with. -/
structure Relay where
  chain : String
  hederaSpecificRevertStatuses : List String
  mirrorNodeRequestRetryCount : Nat
  gasPricePercentageBuffer : Nat
  transactionCountMaxBlockRange : Nat
  maxBlockRange : Nat
  blockRangeLimit : Nat
  /-- Whether two timestamps are more than seven days apart, as floats. -/
  exceedsTimestampRange : Nat → Nat → Bool
  keccak256 : String → Digest
  getRootHash : List ReceiptRootHash → String
  uniqTransactions : UniqWith Transaction
  uniqHashes : UniqWith String

namespace MirrorNodeClient

/-- The rounds of polling that are left, each with the records fetched last; the last
round fails where a record is still not ready. -/
def pollWhileImmature (fetch : Throwing Records) (immature : Records → Bool) : Nat → Records → Throwing Records
  | 0, records => return records
  | roundsLeft + 1, records => do
      if immature records then
        if roundsLeft = 0 then throw .DEPENDENT_SERVICE_IMMATURE_RECORDS
        else pollWhileImmature fetch immature roundsLeft (← fetch)
      else return records

def retrying (retryCount : Nat) (fetch : Throwing Records) (immature : Records → Bool) : Throwing Records := do
  pollWhileImmature fetch immature retryCount (← fetch)

def getLatestBlock : Throwing (List MirrorNodeBlock) := do answered (← await .getLatestBlock)

def getBlockByHash (hash : String) : Throwing (Option MirrorNodeBlock) := do
  answered (← await (.getBlockByHash hash))

def getBlockByNumber (number : Nat) : Throwing (Option MirrorNodeBlock) := do
  answered (← await (.getBlockByNumber number))

def getContractResults (params : ContractResultsParams) : Throwing (List ContractResult) := do
  answered (← await (.getContractResults params))

def getContractResult (transactionIdOrHash : String) : Throwing (Option ContractResult) := do
  answered (← await (.getContractResult transactionIdOrHash))

/-- `getContractResultWithRetry` of `getContractResults`. -/
def getContractResultsWithRetry (relay : Relay) (params : ContractResultsParams) : Throwing (List ContractResult) :=
  retrying relay.mirrorNodeRequestRetryCount (getContractResults params) fun results =>
    results.any ContractResult.immature

/-- `getContractResultWithRetry` of `getContractResult`; a result that is missing ends
the polling. -/
def getContractResultWithRetry (relay : Relay) (transactionIdOrHash : String) : Throwing (Option ContractResult) :=
  retrying relay.mirrorNodeRequestRetryCount (getContractResult transactionIdOrHash) fun result =>
    result.any ContractResult.immature

def getContractResultsLogs (params : LogsParams) : Throwing (List ContractLog) := do
  answered (← await (.getContractResultsLogs none params))

def getContractResultsLogsWithRetry (relay : Relay) (params : LogsParams) : Throwing (List ContractLog) :=
  retrying relay.mirrorNodeRequestRetryCount (getContractResultsLogs params) fun logs => logs.any ContractLog.immature

/-- The logs of an address are fetched once. -/
def getContractResultsLogsByAddress (address : String) (params : LogsParams) : Throwing (List ContractLog) := do
  if address == zeroAddress then return []
  else answered (← await (.getContractResultsLogs (some address) params))

def getNetworkFees (timestamp : Option Nat) : Throwing (List NetworkFee) := do
  answered (← await (.getNetworkFees timestamp))

/-- Shard, realm and number of an address in hexadecimal, a missing part as `NaN`. -/
def toEntityId (address : String) : String :=
  let digits := address.toList.drop 2
  let part (text : List Char) : String := ((parseHex (String.ofList text)).map (toString <| Js.roundToDouble ·)).getD "NaN"
  part (digits.take 8) ++ "." ++ part ((digits.take 24).drop 8) ++ "." ++ part (digits.drop 24)

/-- A contract first, then an account or a token, which do not share an address. -/
def resolveEntityType (entityIdentifier : String) (searchableTypes : List EntityType) :
    Throwing (Option (EntityType × Entity)) := do
  let contract ← (if EntityType.CONTRACT ∈ searchableTypes then await (.getContract entityIdentifier)
    else pure none : Throwing (Option Entity))
  match contract with
  | some entity => return some (.CONTRACT, entity)
  | none =>
      let account ← (if EntityType.ACCOUNT ∈ searchableTypes then await (.getAccount entityIdentifier)
        else pure none : Throwing (Option Entity))
      let token ← (if EntityType.TOKEN ∈ searchableTypes then await (.getTokenById (toEntityId entityIdentifier))
        else pure none : Throwing (Option Entity))
      return (account.map (EntityType.ACCOUNT, ·)).or (token.map (EntityType.TOKEN, ·))

end MirrorNodeClient

/-- A block hash, or a number or tag. -/
inductive BlockHashOrNumber where
  | hash (hash : String)
  | block (block : BlockParam)
  deriving Repr, DecidableEq

namespace CommonService

open HieroRelay.Filters.CommonService (addTopicsToParams isSingleAddress)

variable (relay : Relay)

def resolveEvmAddress (address : Option String)
    (searchableTypes : List EntityType := [.CONTRACT, .TOKEN, .ACCOUNT]) : Throwing (Option String) := do
  match address with
  | none => return none
  | some "" => return some ""
  | some address =>
      match ← MirrorNodeClient.resolveEntityType address searchableTypes with
      | some (.CONTRACT, { evmAddress := some evmAddress }) =>
          return some (if evmAddress = "" then address else evmAddress)
      | some (.ACCOUNT, { evmAddress := some evmAddress }) =>
          return some (if evmAddress = "" then address else evmAddress)
      | _ => return some address

/-- In weibars, of the fee for Ethereum transactions. -/
def gasPriceOf (fees : List NetworkFee) : Option Nat :=
  match fees.find? fun fee => fee.transactionType == "EthereumTransaction" with
  | some fee => if fee.gas = 0 then none else some (fee.gas * TINYBAR_TO_WEIBAR_COEF)
  | none => none

/-- The price now, or at a timestamp. -/
def getGasPriceInWeibars (timestamp : Option Nat) : Throwing Nat := do
  match gasPriceOf (← MirrorNodeClient.getNetworkFees timestamp) with
  | some price => return price
  | none => throw .COULD_NOT_ESTIMATE_GAS_PRICE

/-- The rounded percentage in tinybars, as weibars. -/
def addPercentageBufferToGasPrice (gasPrice : Nat) : Nat :=
  gasPrice + (gasPrice / TINYBAR_TO_WEIBAR_COEF * relay.gasPricePercentageBuffer + 50) / 100 * TINYBAR_TO_WEIBAR_COEF

def gasPrice : Throwing HexNumber := do
  return numberTo0x (addPercentageBufferToGasPrice relay (← getGasPriceInWeibars none))

/-- The price at the start of the block, and now where there is no such block. -/
def getCurrentGasPriceForBlock (blockHash : String) : Throwing HexNumber := do
  let block ← MirrorNodeClient.getBlockByHash blockHash
  return numberTo0x (← getGasPriceInWeibars (block.map MirrorNodeBlock.seconds))

/-- The block of a hash, a number or a tag; a number as text is looked up unless it is
far beyond the head. -/
def getHistoricalBlockResponse : BlockHashOrNumber → Throwing (Option MirrorNodeBlock)
  | .hash "0x" => return none
  | .hash hash => MirrorNodeClient.getBlockByHash hash
  | .block (.hex number) => do
      match ← MirrorNodeClient.getLatestBlock with
      | [] => throw (.INTERNAL_ERROR .missingBlock)
      | latestBlock :: _ =>
          if number.value > latestBlock.number + relay.maxBlockRange then return none
          else MirrorNodeClient.getBlockByNumber number.value
  | .block (.number value) => MirrorNodeClient.getBlockByNumber value
  | .block .earliest => MirrorNodeClient.getBlockByNumber 0
  | .block _ => return (← MirrorNodeClient.getLatestBlock).head?

def getLatestBlockNumber : Throwing HexNumber := do
  match ← MirrorNodeClient.getLatestBlock with
  | block :: _ => return numberTo0x block.number
  | [] => throw .COULD_NOT_RETRIEVE_LATEST_BLOCK

def translateBlockTag : BlockParam → Throwing Nat
  | .earliest => return 0
  | .hex number => return number.value
  | .number value => return value
  | _ => return (← getLatestBlockNumber).value

def checkMissingFromBlock (fromBlock toBlock : BlockParam) : Throwing Unit := do
  if !toBlock.blockTagIsLatestOrPending then
    let latestBlockNumber ← getLatestBlockNumber
    if toBlock.toNumber != some latestBlockNumber.value && !fromBlock.truthy then
      throw .MISSING_FROM_BLOCK_PARAM

/-- The timestamps of the range, or nothing where a block of it is missing. -/
def validateBlockRangeAndAddTimestampToParams (fromBlock toBlock : BlockParam) (address : AddressParam) :
    Throwing (Option (Nat × Nat)) := do
  checkMissingFromBlock fromBlock toBlock
  match ← getHistoricalBlockResponse relay (.block fromBlock.orLatest) with
  | none => return none
  | some fromBlockResponse =>
      if fromBlock.orLatest = toBlock.orLatest then
        return some (fromBlockResponse.timestampFrom, fromBlockResponse.timestampTo)
      else
        match ← getHistoricalBlockResponse relay (.block toBlock.orLatest) with
        | none => return none
        | some toBlockResponse =>
            if relay.exceedsTimestampRange fromBlockResponse.timestampFrom toBlockResponse.timestampTo then
              throw .TIMESTAMP_RANGE_TOO_LARGE
            else if fromBlockResponse.number > toBlockResponse.number then throw .INVALID_BLOCK_RANGE
            else if !isSingleAddress address &&
                toBlockResponse.number - fromBlockResponse.number > relay.blockRangeLimit then
              throw .RANGE_TOO_LARGE
            else return some (fromBlockResponse.timestampFrom, toBlockResponse.timestampTo)

def validateBlockHashAndAddTimestampToParams (blockHash : String) : Throwing (Option (Nat × Nat)) := do
  let block ← MirrorNodeClient.getBlockByHash blockHash
  return block.map fun block => (block.timestampFrom, block.timestampTo)

/-- The queries of the addresses, whose answers do not depend on each other. -/
def logsOfAddresses (params : LogsParams) : List String → Throwing (List ContractLog)
  | [] => return []
  | address :: rest => do
      let logResult ← MirrorNodeClient.getContractResultsLogsByAddress address params
      return logResult ++ (← logsOfAddresses params rest)

def getLogsByAddress (addresses : List String) (params : LogsParams) : Throwing (List ContractLog) := do
  return (← logsOfAddresses params addresses).mergeSort fun first second => first.timestamp ≤ second.timestamp

/-- `new Log` of a record. -/
def logOf (log : ContractLog) : Throwing Log := do
  let blockNumber ← requiredNumberTo0x log.blockNumber
  let logIndex ← requiredNumberTo0x log.index
  let transactionIndex ← requiredNumberTo0x log.transactionIndex
  return {
    address := log.address
    blockHash := toHash32 log.blockHash
    blockNumber
    data := log.data
    logIndex
    removed := false
    topics := log.topics
    transactionHash := toHash32 log.transactionHash
    transactionIndex }

def getLogsWithParams (address : AddressParam) (params : LogsParams) : Throwing (List Log) := do
  let logResults ← (match address with
    | .absent => MirrorNodeClient.getContractResultsLogsWithRetry relay params
    | .one address =>
        if address = "" then MirrorNodeClient.getContractResultsLogsWithRetry relay params
        else getLogsByAddress [address] params
    | .many addresses => getLogsByAddress addresses params)
  logResults.mapM logOf

def getLogs (blockHash : Option String) (fromBlock toBlock : BlockParam) (address : AddressParam)
    (topics : Option (List (Option (List String)))) : Throwing (List Log) := do
  let timestamp ← (match blockHash with
    | some blockHash => validateBlockHashAndAddTimestampToParams blockHash
    | none => validateBlockRangeAndAddTimestampToParams relay fromBlock toBlock address)
  match timestamp with
  | none => return []
  | some timestamp =>
      getLogsWithParams relay address {
        timestamp := some timestamp
        transactionHash := none
        topics := addTopicsToParams topics }

end CommonService

end HieroRelay.Blocks
