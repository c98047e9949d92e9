import HieroRelay.Filters.MirrorNode
import HieroRelay.Lib.Prog

/-! Block ranges and logs of the common service, as programs over the queries to the
mirror node and the cache entry of a filter. -/

namespace HieroRelay.Filters

open HieroRelay.Lib

/-- A number as the text `0x…`. -/
structure HexNumber where
  value : Nat
  deriving Repr, DecidableEq

def numberTo0x (input : Nat) : HexNumber := { value := input }

def toHash32 (value : String) : String := String.ofList (value.toList.take 66)

/-- A block tag, a number as text, or a number as a filter that was polled keeps it. -/
inductive BlockParam where
  | latest
  | pending
  | safe
  | finalized
  | earliest
  | hex (number : HexNumber)
  | number (value : Nat)
  deriving Repr, DecidableEq

namespace BlockParam

def blockTagIsLatestOrPending : BlockParam → Bool
  | .latest | .pending | .safe | .finalized => true
  | _ => false

/-- All tags of the head become `latest`. -/
def orLatest (block : BlockParam) : BlockParam :=
  if block.blockTagIsLatestOrPending then .latest else block

/-- `Number(block)`, with nothing for `NaN`. -/
def toNumber : BlockParam → Option Nat
  | .hex text => some text.value
  | .number value => some value
  | _ => none

def truthy : BlockParam → Bool
  | .number value => value != 0
  | _ => true

end BlockParam

/-- `address?: string | string[]` -/
inductive AddressParam where
  | absent
  | one (address : String)
  | many (addresses : List String)
  deriving Repr, DecidableEq

/-- An empty address is falsy, as one that is absent. -/
def AddressParam.orAbsent : AddressParam → AddressParam
  | .one address => if address = "" then .absent else .one address
  | address => address

theorem AddressParam.eq_of_orAbsent_eq_many {address : AddressParam} {addresses : List String}
    (listed : address.orAbsent = .many addresses) : address = .many addresses := by
  cases address with
  | absent => cases listed
  | one single =>
    unfold orAbsent at listed
    dsimp only at listed
    split at listed <;> cases listed
  | many addresses => exact listed

/-- The log of a response, where `removed` is always false. -/
structure Log where
  address : String
  blockHash : String
  blockNumber : HexNumber
  data : String
  logIndex : HexNumber
  removed : Bool
  topics : List String
  transactionHash : String
  transactionIndex : HexNumber
  deriving Repr, DecidableEq

def Log.ofMirrorNode (log : MirrorNodeLog) : Log where
  address := log.address
  blockHash := toHash32 log.blockHash
  blockNumber := numberTo0x log.blockNumber
  data := log.data
  logIndex := numberTo0x log.index
  removed := false
  topics := log.topics
  transactionHash := toHash32 log.transactionHash
  transactionIndex := numberTo0x log.transactionIndex

/-- The parameters of a filter: the positions of `topics` may be null. -/
structure LogFilterParams where
  fromBlock : BlockParam
  toBlock : BlockParam
  address : AddressParam
  topics : Option (List (Option (List String)))
  deriving Repr, DecidableEq

inductive FilterParams where
  | log (params : LogFilterParams)
  | newBlock (blockAtCreation : HexNumber)
  deriving Repr, DecidableEq

structure Filter where
  params : FilterParams
  lastQueried : Option Nat
  deriving Repr, DecidableEq

inductive FilterError where
  | UNSUPPORTED_METHOD
  | FILTER_NOT_FOUND
  | MISSING_FROM_BLOCK_PARAM
  | INVALID_BLOCK_RANGE
  | TIMESTAMP_RANGE_TOO_LARGE
  | RANGE_TOO_LARGE
  | COULD_NOT_RETRIEVE_LATEST_BLOCK
  | typeError
  | mirrorNode
  deriving Repr, DecidableEq

/-- The entry of one filter in the cache, and the queries. -/
inductive FilterOp where
  | getFilter
  | setFilter (filter : Filter)
  | getLatestBlock
  | getBlock (number : Nat)
  | getBlocks (gt : Nat)
  | getContractResultsLogs (address : Option String) (params : LogsParams)
  deriving Repr, DecidableEq

/-- A query that fails has no answer. -/
abbrev FilterOp.Answer : FilterOp → Type
  | .getFilter => Option Filter
  | .setFilter _ => Unit
  | .getLatestBlock => Option (List MirrorNodeBlock)
  | .getBlock _ => Option (Option MirrorNodeBlock)
  | .getBlocks _ => Option (List MirrorNodeBlock)
  | .getContractResultsLogs _ _ => Option (List MirrorNodeLog)

abbrev Throwing (Result : Type) := ExceptT FilterError (Prog FilterOp FilterOp.Answer) Result

def await (op : FilterOp) : Throwing op.Answer := ExceptT.lift (Prog.op op)

def answered {Answer : Type} : Option Answer → Throwing Answer
  | some answer => return answer
  | none => throw .mirrorNode

namespace MirrorNodeClient

/-- The head alone. -/
def getLatestBlock : Throwing (List MirrorNodeBlock) := do answered (← await .getLatestBlock)

/-- A block that is missing is nothing, not an error. -/
def getBlock (number : Nat) : Throwing (Option MirrorNodeBlock) := do answered (← await (.getBlock number))

def getBlocks (gt : Nat) : Throwing (List MirrorNodeBlock) := do answered (← await (.getBlocks gt))

def getContractResultsLogsWithRetry (params : LogsParams) : Throwing (List MirrorNodeLog) := do
  answered (← await (.getContractResultsLogs none params))

def getContractResultsLogsByAddress (address : String) (params : LogsParams) : Throwing (List MirrorNodeLog) := do
  if address == zeroAddress then return []
  else answered (← await (.getContractResultsLogs (some address) params))

end MirrorNodeClient

structure CommonService where
  maxBlockRange : Nat
  blockRangeLimit : Nat
  /-- Whether two timestamps are more than seven days apart, as floats. -/
  exceedsTimestampRange : Nat → Nat → Bool

namespace CommonService

variable (service : CommonService)

def getLatestBlockNumber : Throwing HexNumber := do
  match ← MirrorNodeClient.getLatestBlock with
  | block :: _ => return numberTo0x block.number
  | [] => throw .COULD_NOT_RETRIEVE_LATEST_BLOCK

/-- A number as text is looked up unless it is far beyond the head; a number has no
length, so that this check is left out. -/
def getHistoricalBlockResponse : BlockParam → Throwing (Option MirrorNodeBlock)
  | .hex number => do
      match ← MirrorNodeClient.getLatestBlock with
      | [] => throw .typeError
      | latestBlock :: _ =>
          if number.value > latestBlock.number + service.maxBlockRange then return none
          else MirrorNodeClient.getBlock number.value
  | .number value => MirrorNodeClient.getBlock value
  | .earliest => MirrorNodeClient.getBlock 0
  | _ => return (← MirrorNodeClient.getLatestBlock).head?

/-- Both checks of a range begin with this one. -/
def checkMissingFromBlock (fromBlock toBlock : BlockParam) : Throwing Unit := do
  if !toBlock.blockTagIsLatestOrPending then
    let latestBlockNumber ← getLatestBlockNumber
    if toBlock.toNumber != some latestBlockNumber.value && !fromBlock.truthy then
      throw .MISSING_FROM_BLOCK_PARAM

/-- `null` counts as zero, `NaN` as neither. -/
def exceeds : Option Nat → Option Nat → Bool
  | some first, some second => first > second
  | _, _ => false

def unknown (number : Option Nat) : Bool := number.getD 0 == 0

/-- The numbers of the range, asked for where one of them is not known. -/
def blockRangeNumbers (fromBlock toBlock : BlockParam) : Throwing (Option Nat × Option Nat) := do
  let fromBlockNumber := if fromBlock.blockTagIsLatestOrPending then some 0 else fromBlock.toNumber
  let toBlockNumber := if toBlock.blockTagIsLatestOrPending then some 0 else toBlock.toNumber
  if unknown fromBlockNumber || unknown toBlockNumber then
    let fromBlockResponse ← service.getHistoricalBlockResponse fromBlock.orLatest
    let toBlockResponse ← service.getHistoricalBlockResponse toBlock.orLatest
    return ((fromBlockResponse.map MirrorNodeBlock.number).or fromBlockNumber,
      (toBlockResponse.map MirrorNodeBlock.number).or toBlockNumber)
  else return (fromBlockNumber, toBlockNumber)

def validateBlockRange (fromBlock toBlock : BlockParam) : Throwing Bool := do
  checkMissingFromBlock fromBlock toBlock
  let (fromBlockNumber, toBlockNumber) ← service.blockRangeNumbers fromBlock toBlock
  if exceeds fromBlockNumber toBlockNumber then throw .INVALID_BLOCK_RANGE
  return true

def isSingleAddress : AddressParam → Bool
  | .absent => false
  | .one address => address != ""
  | .many addresses => addresses.length == 1

/-- The timestamps of the range, or nothing where a block of it is missing. -/
def validateBlockRangeAndAddTimestampToParams (fromBlock toBlock : BlockParam) (address : AddressParam) :
    Throwing (Option (Nat × Nat)) := do
  checkMissingFromBlock fromBlock toBlock
  match ← service.getHistoricalBlockResponse fromBlock.orLatest with
  | none => return none
  | some fromBlockResponse =>
      if fromBlock.orLatest = toBlock.orLatest then
        return some (fromBlockResponse.timestampFrom, fromBlockResponse.timestampTo)
      else
        match ← service.getHistoricalBlockResponse toBlock.orLatest with
        | none => return none
        | some toBlockResponse =>
            if service.exceedsTimestampRange fromBlockResponse.timestampFrom toBlockResponse.timestampTo then
              throw .TIMESTAMP_RANGE_TOO_LARGE
            else if fromBlockResponse.number > toBlockResponse.number then throw .INVALID_BLOCK_RANGE
            else if !isSingleAddress address &&
                toBlockResponse.number - fromBlockResponse.number > service.blockRangeLimit then
              throw .RANGE_TOO_LARGE
            else return some (fromBlockResponse.timestampFrom, toBlockResponse.timestampTo)

/-- The positions that are not null; the mirror node is asked for the first four. -/
def addTopicsToParams (topics : Option (List (Option (List String)))) : List (Nat × List String) :=
  ((topics.getD []).zipIdx.filterMap fun (topic, position) => topic.map (position, ·)).filter fun topic =>
    topic.1 < 4

/-- The queries of the addresses; their ranges are fixed, so that it does not matter when
each is answered. -/
def logsOfAddresses (params : LogsParams) : List String → Throwing (List MirrorNodeLog)
  | [] => return []
  | address :: rest => do
      let logResult ← MirrorNodeClient.getContractResultsLogsByAddress address params
      return logResult ++ (← logsOfAddresses params rest)

def sortedByTimestamp (logs : List MirrorNodeLog) : List MirrorNodeLog :=
  logs.mergeSort fun first second => first.timestamp ≤ second.timestamp

def getLogsByAddress (addresses : List String) (params : LogsParams) : Throwing (List MirrorNodeLog) := do
  return sortedByTimestamp (← logsOfAddresses params addresses)

def getLogsWithParams (address : AddressParam) (params : LogsParams) : Throwing (List Log) := do
  let logResults ← (match address.orAbsent with
    | .absent => MirrorNodeClient.getContractResultsLogsWithRetry params
    | .one address => getLogsByAddress [address] params
    | .many addresses => getLogsByAddress addresses params)
  return logResults.map Log.ofMirrorNode

/-- `getLogs` without a block hash. -/
def getLogs (fromBlock toBlock : BlockParam) (address : AddressParam)
    (topics : Option (List (Option (List String)))) : Throwing (List Log) := do
  match ← service.validateBlockRangeAndAddTimestampToParams fromBlock toBlock address with
  | none => return []
  | some (timestampGte, timestampLte) =>
      getLogsWithParams address { timestampGte, timestampLte, topics := addTopicsToParams topics }

end CommonService

end HieroRelay.Filters
