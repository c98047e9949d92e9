import HieroRelay.Blocks.Formatters

/-! The records of the mirror node and the queries for them. Timestamps are numbers of
nanoseconds. A record that is not ready yet lacks some of its numbers, or has block hash
`0x`. -/

namespace HieroRelay.Blocks

open HieroRelay.Lib

structure MirrorNodeBlock where
  count : Nat
  gasUsed : Nat
  hash : String
  logsBloom : String
  number : Nat
  previousHash : String
  size : Nat
  timestampFrom : Nat
  timestampTo : Nat
  deriving Repr, DecidableEq

/-- `timestamp.from.split('.')[0]` -/
def MirrorNodeBlock.seconds (block : MirrorNodeBlock) : Nat := block.timestampFrom / 1000000000

/-- A log inside the detail of a contract result. -/
structure ContractResultLog where
  address : String
  data : String
  index : Option Nat
  topics : List String
  deriving Repr, DecidableEq

/-- A contract result; only the detail of one result has its logs. -/
structure ContractResult where
  address : Option String
  amount : Option Int64
  blockGasUsed : Nat
  blockHash : String
  blockNumber : Option Nat
  bloom : String
  callResult : String
  chainId : Option String
  contractId : Option String
  createdContractIds : List String
  errorMessage : Option String
  fromAddress : Option String
  functionParameters : String
  gasPrice : Option String
  gasUsed : Option Nat
  hash : String
  logs : List ContractResultLog
  maxFeePerGas : Option String
  maxPriorityFeePerGas : Option String
  nonce : Option Nat
  r : Option String
  result : String
  root : Option String
  s : Option String
  status : String
  toAddress : Option String
  transactionIndex : Option Nat
  type : Option Nat
  v : Option Nat
  deriving Repr, DecidableEq

/-- A log of the endpoints for logs. -/
structure ContractLog where
  address : String
  blockHash : String
  blockNumber : Option Nat
  data : String
  index : Option Nat
  timestamp : Nat
  topics : List String
  transactionHash : String
  transactionIndex : Option Nat
  deriving Repr, DecidableEq

/-- `transaction_index == null || block_number == null || block_hash == '0x'` -/
def ContractResult.immature (result : ContractResult) : Bool :=
  result.transactionIndex.isNone || result.blockNumber.isNone || result.blockHash == "0x"

def ContractLog.immature (log : ContractLog) : Bool :=
  log.transactionIndex.isNone || log.blockNumber.isNone || log.index.isNone || log.blockHash == "0x"

structure Entity where
  evmAddress : Option String
  deriving Repr, DecidableEq

inductive EntityType where
  | CONTRACT
  | ACCOUNT
  | TOKEN
  deriving Repr, DecidableEq

structure NetworkFee where
  gas : Nat
  transactionType : String
  deriving Repr, DecidableEq

inductive ContractResultsParams where
  | timestamp (gte lte : Nat)
  | blockHash (blockHash : String) (transactionIndex : Nat)
  | blockNumber (blockNumber : Nat) (transactionIndex : Nat)
  deriving Repr, DecidableEq

/-- The topics have their positions. -/
structure LogsParams where
  timestamp : Option (Nat × Nat)
  transactionHash : Option String
  topics : List (Nat × List String)
  deriving Repr, DecidableEq

inductive MirrorOp where
  | getLatestBlock
  | getBlockByHash (hash : String)
  | getBlockByNumber (number : Nat)
  | getContractResults (params : ContractResultsParams)
  | getContractResult (transactionIdOrHash : String)
  | getContractResultsLogs (address : Option String) (params : LogsParams)
  | getContract (contractIdOrAddress : String)
  | getAccount (idOrAliasOrEvmAddress : String)
  | getTokenById (tokenId : String)
  | getNetworkFees (timestamp : Option Nat)
  deriving Repr, DecidableEq

/-- A query that fails has no answer; for an entity that is the same as one not found. A
list has all its pages, and what is not found is null. -/
abbrev MirrorOp.Answer : MirrorOp → Type
  | .getLatestBlock => Option (List MirrorNodeBlock)
  | .getBlockByHash _ => Option (Option MirrorNodeBlock)
  | .getBlockByNumber _ => Option (Option MirrorNodeBlock)
  | .getContractResults _ => Option (List ContractResult)
  | .getContractResult _ => Option (Option ContractResult)
  | .getContractResultsLogs _ _ => Option (List ContractLog)
  | .getContract _ => Option Entity
  | .getAccount _ => Option Entity
  | .getTokenById _ => Option Entity
  | .getNetworkFees _ => Option (List NetworkFee)

/-- What makes a call fail with an internal error. -/
inductive InternalError where
  | nullNumber
  | nullHash
  | nullFrom
  | missingAddress
  | missingTopics
  | missingBlock
  | totalSupply
  deriving Repr, DecidableEq

/-- The text after `Error invoking RPC`. -/
def InternalError.message : InternalError → String
  | nullNumber => "Cannot read properties of null (reading 'toString')"
  | nullHash => "Cannot read properties of null (reading 'hash')"
  | nullFrom => "Cannot read properties of null (reading 'substring')"
  | missingAddress => "Cannot read properties of undefined (reading 'address')"
  | missingTopics => "Cannot read properties of undefined (reading 'topics')"
  | missingBlock => "Cannot read properties of undefined (reading 'number')"
  | totalSupply => "Value cannot be more than the total supply of tinybars in the blockchain"

inductive RelayError where
  | DEPENDENT_SERVICE_IMMATURE_RECORDS
  | MAX_BLOCK_SIZE (blockSize : Nat)
  | COULD_NOT_ESTIMATE_GAS_PRICE
  | COULD_NOT_RETRIEVE_LATEST_BLOCK
  | MISSING_FROM_BLOCK_PARAM
  | INVALID_BLOCK_RANGE
  | TIMESTAMP_RANGE_TOO_LARGE
  | RANGE_TOO_LARGE
  | mirrorNode
  | INTERNAL_ERROR (error : InternalError)
  deriving Repr, DecidableEq

abbrev Throwing (Result : Type) := ExceptT RelayError (Prog MirrorOp MirrorOp.Answer) Result

def await (op : MirrorOp) : Throwing op.Answer := ExceptT.lift (Prog.op op)

def answered {Answer : Type} : Option Answer → Throwing Answer
  | some answer => return answer
  | none => throw .mirrorNode

end HieroRelay.Blocks
