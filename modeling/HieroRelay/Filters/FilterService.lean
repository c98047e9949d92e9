import HieroRelay.Filters.CommonService

/-! Filters: their creation, and the poll for what is new. -/

namespace HieroRelay.Filters

open HieroRelay.Lib

/-- What a poll returns: logs, or hashes of blocks. -/
inductive Change where
  | log (log : Log)
  | blockHash (hash : String)
  deriving Repr, DecidableEq

structure INewFilterParams where
  fromBlock : Option BlockParam
  toBlock : Option BlockParam
  address : AddressParam
  topics : Option (List (Option (List String)))
  deriving Repr, DecidableEq

structure FilterService where
  common : CommonService
  filterApiEnabled : Bool

namespace FilterService

variable (service : FilterService)

def requireFiltersEnabled : Throwing Unit := do
  if !service.filterApiEnabled then throw .UNSUPPORTED_METHOD

def createFilter (params : FilterParams) : Throwing Unit :=
  await (.setFilter { params, lastQueried := none })

/-- Of the tags of the head only `latest` is replaced by the number of the head. -/
def newFilter (params : INewFilterParams) : Throwing Unit := do
  service.requireFiltersEnabled
  let fromBlock := params.fromBlock.getD .latest
  let toBlock := params.toBlock.getD .latest
  let _ ← service.common.validateBlockRange fromBlock toBlock
  let fromBlock ← (if fromBlock = .latest then BlockParam.hex <$> CommonService.getLatestBlockNumber
    else pure fromBlock)
  createFilter (.log { fromBlock, toBlock, address := params.address, topics := params.topics })

def newBlockFilter : Throwing Unit := do
  service.requireFiltersEnabled
  createFilter (.newBlock (← CommonService.getLatestBlockNumber))

/-- `filter.lastQueried || fromBlock` -/
def lastQueriedOr (lastQueried : Option Nat) (fromBlock : BlockParam) : BlockParam :=
  match lastQueried with
  | none | some 0 => fromBlock
  | some number => .number number

def lastBlockOr (lastQueried : Option Nat) (blockAtCreation : HexNumber) : Nat :=
  match lastQueried with
  | none | some 0 => blockAtCreation.value
  | some number => number

/-- The new logs, and the block after the last of them or after the head. -/
def logChanges (params : LogFilterParams) (lastQueried : Option Nat) : Throwing (List Change × Nat) := do
  let result ← service.common.getLogs (lastQueriedOr lastQueried params.fromBlock) params.toBlock params.address
    params.topics
  let latestBlockNumber ← (match result.getLast? with
    | some log => pure log.blockNumber
    | none => CommonService.getLatestBlockNumber)
  return (result.map .log, latestBlockNumber.value + 1)

/-- The hashes of the new blocks, and the last of them or the head. -/
def blockChanges (blockAtCreation : HexNumber) (lastQueried : Option Nat) : Throwing (List Change × Nat) := do
  let blocks ← MirrorNodeClient.getBlocks (lastBlockOr lastQueried blockAtCreation)
  let latestBlockNumber ← (match blocks.getLast? with
    | some block => pure block.number
    | none => HexNumber.value <$> CommonService.getLatestBlockNumber)
  return (blocks.map fun block => .blockHash block.hash, latestBlockNumber)

def getFilterChanges : Throwing (List Change) := do
  service.requireFiltersEnabled
  match ← await .getFilter with
  | none => throw .FILTER_NOT_FOUND
  | some filter =>
      let (result, latestBlockNumber) ← (match filter.params with
        | .log params => service.logChanges params filter.lastQueried
        | .newBlock blockAtCreation => blockChanges blockAtCreation filter.lastQueried)
      await (.setFilter { filter with lastQueried := some latestBlockNumber })
      return result

end FilterService

end HieroRelay.Filters
