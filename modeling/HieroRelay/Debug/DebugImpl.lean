import HieroRelay.Debug.TracerConfig
import HieroRelay.Entities.MirrorNodeClient
import HieroRelay.Lib.Table
import HieroRelay.Lib.Transcript
import HieroRelay.Redis.JsIntegers

/-! The tracers of the debug service, as programs over the requests to the mirror node and the
cache of the prestates. -/

namespace HieroRelay.Debug

open HieroRelay.Lib
open HieroRelay.Js (Json JsError isString ownField truthy)
open HieroRelay.Blocks (EMPTY_HEX EntityType decodeErrorMessage)
open HieroRelay.Entities (ResolveCall ResolveOp ResolvedEntity)
open HieroRelay.Redis (JSONBigInt JsInteger)
open HieroRelay.Relay (JsonRpcError)

/-- An action of a transaction; the type of an entity is nothing where it is none of the three. -/
structure ContractAction where
  callDepth : Nat
  callOperationType : String
  callType : String
  callerType : Option EntityType
  fromAddress : Option String
  gas : Redis.Field JsInteger
  gasUsed : Redis.Field JsInteger
  input : Redis.Field String
  recipientType : Option EntityType
  resultData : Redis.Field String
  timestamp : String
  toAddress : Option String
  value : Redis.Field JsInteger
  deriving Repr, DecidableEq

/-- A contract result of a list, and the detail of one. -/
structure MirrorNodeContractResult where
  hash : String
  result : String
  deriving Repr, DecidableEq

structure ContractResultDetails where
  amount : Redis.Field JsInteger
  callResult : Redis.Field String
  errorMessage : Redis.Field String
  fromAddress : Option String
  functionParameters : Redis.Field String
  gasLimit : Redis.Field JsInteger
  gasUsed : Redis.Field JsInteger
  result : String
  toAddress : Option String
  deriving Repr, DecidableEq

structure MirrorNodeBlock where
  timestampFrom : String
  timestampTo : String
  deriving Repr, DecidableEq

structure ContractCode where
  bytecode : Redis.Field String
  runtimeBytecode : Redis.Field String
  deriving Repr, DecidableEq

structure ContractStateItem where
  slot : String
  value : String
  deriving Repr, DecidableEq

/-- An entity that the actions mention. -/
structure AccountEntity where
  address : String
  type : Option EntityType
  timestamp : String
  deriving Repr, DecidableEq

def AccountEntity.lookup (entity : AccountEntity) : ResolveCall where
  entityIdentifier := entity.address
  searchableTypes := entity.type.toList
  timestamp := some entity.timestamp

structure EntityTraceState where
  balance : String
  nonce : Option Json
  code : Option Json
  storage : Table String String

abbrev EntityTraceStateMap := Table String EntityTraceState

/-- The requests with their retries, some with the address of the entity that they are for; the
operations of the cache; and the order in which a number of concurrent calls settle. -/
inductive DebugOp where
  | getCachedPrestate (cacheKey : String)
  | setCachedPrestate (cacheKey : String) (result : EntityTraceStateMap)
  | getContractsResultsActions (transactionIdOrHash : String)
  | resolving (address : String) (op : ResolveOp)
  | getBalanceAtTimestamp (address : String) (accountId : Option Json) (timestamp : String)
  | getContractState (address : String) (contractId : Option Json) (timestamp : String)
  | settling (calls : Nat)
  | getHistoricalBlockResponse (blockNumber : String)
  | getContractResults (timestamp : List String)
  | getContractResult (transactionIdOrHash : String)
  | getContract (contractIdOrAddress : Option String)

/-- A request that fails has no answer, and what is not found is null. -/
abbrev DebugOp.Answer : DebugOp → Type
  | .getCachedPrestate _ => Option EntityTraceStateMap
  | .setCachedPrestate _ _ => Unit
  | .getContractsResultsActions _ => Option (Option (List ContractAction))
  | .resolving _ op => op.Answer
  | .getBalanceAtTimestamp _ _ _ => Option (Option (List (Redis.Field JsInteger)))
  | .getContractState _ _ _ => Option (List ContractStateItem)
  | .settling calls => { order : List Nat // order.Perm (List.range calls) }
  | .getHistoricalBlockResponse _ => Option (Option MirrorNodeBlock)
  | .getContractResults _ => Option (Option (List MirrorNodeContractResult))
  | .getContractResult _ => Option (Option ContractResultDetails)
  | .getContract _ => Option (Option ContractCode)

inductive DebugError where
  | mirrorNode
  | rpc (error : JsonRpcError)
  | other (error : JsError)
  deriving Repr, DecidableEq

def RESOURCE_NOT_FOUND (message : String) : JsonRpcError :=
  { code := -32001, message := s!"Requested resource not found. {message}" }

abbrev Requests := Prog DebugOp DebugOp.Answer

abbrev Tracing (Result : Type) := ExceptT DebugError Requests Result

def await (op : DebugOp) : Tracing op.Answer := ExceptT.lift (Prog.op op)

def answered {Answer : Type} : Option Answer → Tracing Answer
  | some answer => return answer
  | none => throw .mirrorNode

def ofJs {Result : Type} (result : Except JsError Result) : Tracing Result :=
  ExceptT.mk (pure (result.mapError .other))

def genericErrorHandler : DebugError → DebugError
  | .other error => .rpc (Relay.predefined.INTERNAL_ERROR error.message)
  | error => error

def resolveEntityType (call : ResolveCall) : Requests (Option ResolvedEntity) :=
  (Entities.MirrorNodeClient.resolveEntityType call).translate fun op =>
    Prog.op (.resolving call.entityIdentifier op)

/-- `entity?.evm_address`, where it is truthy. -/
def evmAddressOf (entity : Json) : Option String :=
  match ownField entity "evm_address" with
  | some (.str evmAddress) => if evmAddress = "" then none else some evmAddress
  | _ => none

namespace DebugImpl

def zeroHex : String := "0x0"

def SUCCESS : String := "SUCCESS"

/-! The prestate tracer. -/

def prestateKey (transactionHash : String) (onlyTopCall : Bool) : String :=
  s!"prestateTracer_{transactionHash}_{onlyTopCall}"

/-- The entities of one action, each where there is an address. -/
def mentions (action : ContractAction) : List AccountEntity :=
  let mention (address : Option String) (type : Option EntityType) : List AccountEntity :=
    (address.filter (· ≠ "")).toList.map fun address => { address, type, timestamp := action.timestamp }
  mention action.fromAddress action.callerType ++ mention action.toAddress action.recipientType

def filteredActions (onlyTopCall : Bool) (actions : List ContractAction) : List ContractAction :=
  if onlyTopCall then actions.filter fun action => action.callDepth = 0 else actions

/-- Each address once, with what was mentioned last. -/
def addressMap (actions : List ContractAction) : Table String AccountEntity :=
  (actions.flatMap mentions).foldl (fun map entity => map.assign entity.address entity) .empty

def accountEntities (actions : List ContractAction) : List AccountEntity :=
  (addressMap actions).entries.map Prod.snd

/-- `numberTo0x(balance || '0')` -/
def balanceTo0x : Redis.Field JsInteger → String
  | .undefined | .null | .given (.number 0) => zeroHex
  | .given balance => EMPTY_HEX ++ balance.toString16

/-- A number of a response, as it was parsed. -/
def integerField : Option Json → Redis.Field JsInteger
  | some (.num value) => .given (JSONBigInt.byLength.parse value.num)
  | some .null => .null
  | _ => .undefined

def storageMap (items : List ContractStateItem) : Table String String :=
  items.foldl (fun map item => map.assign item.slot item.value) .empty

def contractPrestate (entity : Json) (balances : List (Redis.Field JsInteger)) (items : List ContractStateItem) :
    EntityTraceState where
  balance := balanceTo0x (balances.headD .undefined)
  nonce := ownField entity "nonce"
  code := ownField entity "runtime_bytecode"
  storage := storageMap items

def accountPrestate (entity : Json) : EntityTraceState where
  balance := balanceTo0x (integerField ((ownField entity "balance").bind (ownField · "balance")))
  nonce := ownField entity "ethereum_nonce"
  code := some (.str EMPTY_HEX)
  storage := .empty

/-- A balance that is null has no list to read. -/
def readContract (accountEntity : AccountEntity) (entity : Json) : Tracing EntityTraceState := do
  let contractId := ownField entity "contract_id"
  let balanceResponse ← await (.getBalanceAtTimestamp accountEntity.address contractId accountEntity.timestamp)
  let stateResponse ← await (.getContractState accountEntity.address contractId accountEntity.timestamp)
  match ← answered balanceResponse with
  | some balances => return contractPrestate entity balances (← answered stateResponse)
  | none => throw (.other (.typeError "Cannot read properties of null (reading 'balances')"))

def readEntity (accountEntity : AccountEntity) : Tracing (Option (String × EntityTraceState)) := do
  match ← ExceptT.lift (resolveEntityType accountEntity.lookup) with
  | none => return none
  | some { type, entity } =>
      match evmAddressOf entity, type with
      | none, _ | _, .TOKEN => return none
      | some evmAddress, .ACCOUNT => return some (evmAddress, accountPrestate entity)
      | some evmAddress, .CONTRACT => return some (evmAddress, ← readContract accountEntity entity)

/-- An error is logged, and the entity is left out. -/
def processEntity (accountEntity : AccountEntity) : Requests (Option (String × EntityTraceState)) := do
  match ← (readEntity accountEntity).run with
  | .ok entry => return entry
  | .error _ => return none

/-- The entries in the order in which the calls settled. -/
def collect (entries : List (Option (String × EntityTraceState))) (order : List Nat) : EntityTraceStateMap :=
  let settled := order.filterMap fun position => entries[position]?.join
  settled.foldl (fun result entry => result.assign entry.1 entry.2) .empty

/-- What is done where nothing is cached. -/
def fetchPrestate (transactionHash : String) (onlyTopCall : Bool) : Tracing EntityTraceStateMap := do
  match ← answered (← await (.getContractsResultsActions transactionHash)) with
  | none => throw (.rpc (RESOURCE_NOT_FOUND s!"Failed to retrieve contract results for transaction {transactionHash}"))
  | some actionsResponse =>
      let accountEntities := accountEntities (filteredActions onlyTopCall actionsResponse)
      if accountEntities.length = 0 then return .empty
      let entries ← ExceptT.lift (accountEntities.mapM processEntity)
      let order ← await (.settling accountEntities.length)
      let result := collect entries order.val
      await (.setCachedPrestate (prestateKey transactionHash onlyTopCall) result)
      return result

def prestateTracer (transactionHash : String) (onlyTopCall : Bool := false) : Tracing EntityTraceStateMap := do
  match ← await (.getCachedPrestate (prestateKey transactionHash onlyTopCall)) with
  | some cachedResult => return cachedResult
  | none => fetchPrestate transactionHash onlyTopCall

/-! The call tracer. -/

structure FormattedAction where
  type : String
  fromAddress : Option String
  toAddress : Option String
  gas : String
  gasUsed : String
  input : Redis.Field String
  output : Redis.Field String
  value : String
  deriving Repr, DecidableEq

structure CallTracerResult where
  type : String
  fromAddress : Option String
  toAddress : Option String
  value : String
  gas : String
  gasUsed : String
  input : Redis.Field String
  output : Redis.Field String
  error : Option String
  revertReason : Option String
  calls : Option (List FormattedAction)
  deriving Repr, DecidableEq

def resolveAddress (address : Option String) : Requests (Option String) :=
  match address with
  | none => return none
  | some "" => return some ""
  | some address => do
      match ← resolveEntityType
          { entityIdentifier := address, searchableTypes := [.CONTRACT, .TOKEN, .ACCOUNT], timestamp := none } with
      | some { type := .TOKEN, .. } | none => return some address
      | some { entity, .. } => return some ((evmAddressOf entity).getD address)

def resolveMultipleAddresses (fromAddress toAddress : Option String) : Requests (Option String × Option String) := do
  let resolvedFrom ← resolveAddress fromAddress
  let resolvedTo ← resolveAddress toAddress
  return (resolvedFrom, resolvedTo)

/-- `first ?? second` -/
def coalesce : Redis.Field String → Redis.Field String → Redis.Field String
  | .given text, _ => .given text
  | _, second => second

def numberTo0x (number : Redis.Field JsInteger) : Tracing String := ofJs (Redis.numberTo0x number)

/-- The code of a contract that was created is looked up, except for the first action. -/
def formatAction (index : Nat) (action : ContractAction) : Tracing FormattedAction := do
  let (resolvedFrom, resolvedTo) ← ExceptT.lift (resolveMultipleAddresses action.fromAddress action.toAddress)
  let contract ← (if index ≠ 0 ∧ action.callOperationType = "CREATE" then do
      answered (← await (.getContract action.toAddress))
    else pure none : Tracing (Option ContractCode))
  return {
    type := action.callOperationType
    fromAddress := resolvedFrom
    toAddress := resolvedTo
    gas := ← numberTo0x action.gas
    gasUsed := ← numberTo0x action.gasUsed
    input := coalesce ((contract.map ContractCode.bytecode).getD .undefined) action.input
    output := coalesce ((contract.map ContractCode.runtimeBytecode).getD .undefined) action.resultData
    value := ← numberTo0x action.value }

/-- Of several errors the one of the first action stands for the one that comes first. -/
def formatActionsResult (result : List ContractAction) : Tracing (List FormattedAction) :=
  (result.zipIdx).mapM fun (action, index) => formatAction index action

def messageOf : Redis.Field String → Option String
  | .given message => some message
  | _ => none

def callTracerResult (onlyTopCall : Option Bool) (first : ContractAction) (others : List ContractAction)
    (transactionsResponse : ContractResultDetails) : Tracing CallTracerResult := do
  let formattedActions ← formatActionsResult (first :: others)
  let { amount, callResult, errorMessage, fromAddress, functionParameters, gasLimit, gasUsed, result, toAddress } :=
    transactionsResponse
  let (resolvedFrom, resolvedTo) ← ExceptT.lift (resolveMultipleAddresses fromAddress toAddress)
  return {
    type := first.callType
    fromAddress := resolvedFrom
    toAddress := resolvedTo
    value := ← (if amount = .given (.number 0) then pure zeroHex else numberTo0x amount)
    gas := ← numberTo0x gasLimit
    gasUsed := ← numberTo0x gasUsed
    input := functionParameters
    output := if result ≠ SUCCESS then errorMessage else callResult
    error := if result ≠ SUCCESS then some result else none
    revertReason := if result ≠ SUCCESS then some (decodeErrorMessage (messageOf errorMessage)) else none
    calls := if onlyTopCall = some true ∨ others.length = 0 then none else some (formattedActions.drop 1) }

/-- A transaction without actions has no trace. -/
def callTracer (transactionHash : String) (onlyTopCall : Option Bool) : Tracing (Option CallTracerResult) :=
  ExceptT.adapt genericErrorHandler do
    let actions ← await (.getContractsResultsActions transactionHash)
    let details ← await (.getContractResult transactionHash)
    match ← answered actions, ← answered details with
    | none, _ | _, none =>
        throw (.rpc (RESOURCE_NOT_FOUND s!"Failed to retrieve contract results for transaction {transactionHash}"))
    | some [], some _ => return none
    | some (first :: others), some transactionsResponse =>
        return some (← callTracerResult onlyTopCall first others transactionsResponse)

/-! The tracing of a block. -/

inductive TraceResult where
  | call (result : Option CallTracerResult)
  | prestate (result : EntityTraceStateMap)

structure TraceBlockByNumberTxResult where
  txHash : String
  result : TraceResult

def WRONG_NONCE : String := "WRONG_NONCE"

/-- `tracerObject.tracer`, where there is an object. -/
def tracerOf (tracerObject : Option Json) : Option Json :=
  match tracerObject with
  | some object => if truthy (some object) then ownField object "tracer" else some (.str TracerType.CallTracer.text)
  | none => some (.str TracerType.CallTracer.text)

/-- `tracerObject.tracerConfig?.onlyTopCall`, which is a boolean where it is given. -/
def onlyTopCallOf (tracerObject : Option Json) : Option Bool :=
  match ((tracerObject.bind (ownField · "tracerConfig")).bind (ownField · "onlyTopCall")) with
  | some (.bool onlyTopCall) => some onlyTopCall
  | _ => none

/-- What reached consensus. -/
def tracedResults (contractResults : List MirrorNodeContractResult) : List MirrorNodeContractResult :=
  contractResults.filter fun contractResult => contractResult.result ≠ WRONG_NONCE

def traceResults (tracerObject : Option Json) (contractResults : List MirrorNodeContractResult) :
    Tracing (List TraceBlockByNumberTxResult) := do
  let tracer := tracerOf tracerObject
  let onlyTopCall := onlyTopCallOf tracerObject
  if isString tracer TracerType.CallTracer.text then
    (tracedResults contractResults).mapM fun contractResult => do
      return { txHash := contractResult.hash, result := .call (← callTracer contractResult.hash onlyTopCall) }
  else if isString tracer TracerType.PrestateTracer.text then
    (tracedResults contractResults).mapM fun contractResult => do
      return {
        txHash := contractResult.hash
        result := .prestate (← prestateTracer contractResult.hash (onlyTopCall.getD false)) }
  else return []

def traceBlockByNumber (debugApiEnabled : Bool) (blockNumber : String) (tracerObject : Option Json) :
    Tracing (List TraceBlockByNumberTxResult) :=
  ExceptT.adapt genericErrorHandler do
    if !debugApiEnabled then throw (.rpc Relay.predefined.UNSUPPORTED_METHOD)
    match ← answered (← await (.getHistoricalBlockResponse blockNumber)) with
    | none => throw (.rpc (RESOURCE_NOT_FOUND s!"Block {blockNumber} not found"))
    | some blockResponse =>
        let timestamp := [s!"gte:{blockResponse.timestampFrom}", s!"lte:{blockResponse.timestampTo}"]
        match ← answered (← await (.getContractResults timestamp)) with
        | none | some [] => return []
        | some contractResults => traceResults tracerObject contractResults

end DebugImpl

end HieroRelay.Debug
