import HieroRelay.Relay.CacheDecorator
import HieroRelay.Relay.Validators

/-! The methods of `eth.ts` under `@cache`, each with the rules, the layout and the
cache options of its decorators, and the way it reads its block argument. -/

namespace HieroRelay.Relay

open HieroRelay.Js

/-- `'latest|pending|finalized|safe'` -/
def NON_CACHABLE_BLOCK_PARAMS : List String := ["latest", "pending", "finalized", "safe"]

def FIFTEEN_MINUTES : Nat := 900000

/-- What the handler is given of the parameters. -/
inductive RpcLayout where
  | default
  | requestDetailsOnly
  | custom (arrange : (Rat → String) → List Json → List HandlerArg)

/-- Where a method takes a block: a tag, number or hash at a position, an object or tag
as in EIP-1898 at a position, or the range of a filter. -/
inductive BlockArgument where
  | tag (index : Nat)
  | params (index : Nat)
  | range (index : Nat)
  deriving Repr, DecidableEq

structure CachedMethod where
  name : String
  rules : Option (List Validator.IMethodParamSchema) := none
  layout : RpcLayout := .default
  options : CacheOptions := {}
  blockArgument : Option BlockArgument := none

def optionalArg (param : Option Json) : HandlerArg :=
  match param with
  | some value => .json value
  | none => .undefined

/-- `Number(..)` of a parameter that is a hexadecimal text. -/
def hexNumber (numberToString : Rat → String) (param : Json) : HandlerArg :=
  match (toText numberToString param).toOption.bind hexDigits with
  | some (digit :: digits) =>
      let value := roundToDouble (hexValue (digit :: digits))
      if value < 2 ^ 1024 then .json (.num value) else .infinity
  | _ => .nan

/-- `params => [Number(params[0]), params[1], params[2]]` -/
def feeHistoryLayout (numberToString : Rat → String) (params : List Json) : List HandlerArg :=
  [match params[0]? with | some param => hexNumber numberToString param | none => .nan,
    optionalArg params[1]?, optionalArg params[2]?]

/-- `params => [params[0], params[1], params[2]]` -/
def firstThreeLayout (_numberToString : Rat → String) (params : List Json) : List HandlerArg :=
  [optionalArg params[0]?, optionalArg params[1]?, optionalArg params[2]?]

/-- A rule for one type of a required parameter. -/
def requiredParam (type : Validator.ParamType) : Validator.IMethodParamSchema :=
  { type := .one type, required := true }

/-- `ParamType.BLOCK_NUMBER_OR_HASH` -/
def blockNumberOrHash : Validator.IMethodParamSchema :=
  { type := .anyOf [.blockNumber, .blockHash], required := true }

/-- A method whose block argument stands at a position, with the rule that skips it. -/
def blockTagMethod (name : String) (index : Nat) (rules : List Validator.IMethodParamSchema) : CachedMethod where
  name
  rules := some rules
  options := { skipParams := [{ index, values := NON_CACHABLE_BLOCK_PARAMS }] }
  blockArgument := some (.tag index)

/-- A method without block argument and without rule to skip the cache. -/
def hashMethod (name : String) (rules : List Validator.IMethodParamSchema) : CachedMethod where
  name
  rules := some rules

namespace Eth

def feeHistory : CachedMethod where
  name := "feeHistory"
  rules := some [requiredParam (.value .hex), requiredParam (.value .blockNumber),
    { type := .one (.value .array), required := false }]
  layout := .custom feeHistoryLayout
  options := {
    skipParams := [{ index := 1, values := NON_CACHABLE_BLOCK_PARAMS }]
    ttl := some FIFTEEN_MINUTES }
  blockArgument := some (.tag 1)

def blockNumber : CachedMethod where
  name := "blockNumber"
  layout := .requestDetailsOnly
  options := { ttl := some 500 }

def gasPrice : CachedMethod where
  name := "gasPrice"
  layout := .requestDetailsOnly
  options := { ttl := some FIFTEEN_MINUTES }

def getStorageAt : CachedMethod :=
  { blockTagMethod "getStorageAt" 2
      [requiredParam (.value .address), requiredParam (.value .hex64), blockNumberOrHash] with
    layout := .custom firstThreeLayout }

def getBalance : CachedMethod :=
  blockTagMethod "getBalance" 1 [requiredParam (.value .address), blockNumberOrHash]

def getCode : CachedMethod :=
  blockTagMethod "getCode" 1 [requiredParam (.value .address), blockNumberOrHash]

def getBlockByHash : CachedMethod :=
  hashMethod "getBlockByHash" [requiredParam (.value .blockHash), requiredParam (.value .boolean)]

def getBlockTransactionCountByHash : CachedMethod :=
  hashMethod "getBlockTransactionCountByHash" [requiredParam (.value .blockHash)]

def getBlockTransactionCountByNumber : CachedMethod :=
  blockTagMethod "getBlockTransactionCountByNumber" 0 [requiredParam (.value .blockNumber)]

def getTransactionByBlockHashAndIndex : CachedMethod :=
  hashMethod "getTransactionByBlockHashAndIndex" [requiredParam (.value .blockHash), requiredParam (.value .hex)]

def getTransactionByBlockNumberAndIndex : CachedMethod :=
  blockTagMethod "getTransactionByBlockNumberAndIndex" 0
    [requiredParam (.value .blockNumber), requiredParam (.value .hex)]

def getBlockByNumber : CachedMethod :=
  blockTagMethod "getBlockByNumber" 0 [requiredParam (.value .blockNumber), requiredParam (.value .boolean)]

def getTransactionCount : CachedMethod :=
  blockTagMethod "getTransactionCount" 1 [requiredParam (.value .address), blockNumberOrHash]

def call : CachedMethod where
  name := "call"
  rules := some [requiredParam .transaction, requiredParam .blockParams]
  options := { skipParams := [{ index := 1, values := NON_CACHABLE_BLOCK_PARAMS }] }
  blockArgument := some (.params 1)

def getTransactionByHash : CachedMethod :=
  hashMethod "getTransactionByHash" [requiredParam (.value .transactionHash)]

def getTransactionReceipt : CachedMethod :=
  hashMethod "getTransactionReceipt" [requiredParam (.value .transactionHash)]

def getLogs : CachedMethod where
  name := "getLogs"
  rules := some [requiredParam .filter]
  options := {
    skipNamedParams := [{
      index := 0
      fields := [
        { name := "fromBlock", values := NON_CACHABLE_BLOCK_PARAMS },
        { name := "toBlock", values := NON_CACHABLE_BLOCK_PARAMS }] }] }
  blockArgument := some (.range 0)

def getBlockReceipts : CachedMethod :=
  blockTagMethod "getBlockReceipts" 0 [blockNumberOrHash]

end Eth

def cachedMethods : List CachedMethod := [
  Eth.feeHistory, Eth.blockNumber, Eth.gasPrice, Eth.getStorageAt, Eth.getBalance, Eth.getCode,
  Eth.getBlockByHash, Eth.getBlockTransactionCountByHash, Eth.getBlockTransactionCountByNumber,
  Eth.getTransactionByBlockHashAndIndex, Eth.getTransactionByBlockNumberAndIndex, Eth.getBlockByNumber,
  Eth.getTransactionCount, Eth.call, Eth.getTransactionByHash, Eth.getTransactionReceipt, Eth.getLogs,
  Eth.getBlockReceipts]

/-- The parameters as the validation leaves them; a method without rules takes any. -/
def precheckRpcMethod (numberToString : Rat → String) (method : CachedMethod) (params : List Json) :
    Except HandlerError (List Json) :=
  match method.rules with
  | some rules => Validator.validateParams numberToString params rules
  | none => .ok params

def arrangeRpcParams (numberToString : Rat → String) (method : CachedMethod) (params : List Json)
    (requestDetails : RequestDetails) : List HandlerArg :=
  match method.layout with
  | .requestDetailsOnly => [.requestDetails requestDetails]
  | .custom arrange => arrange numberToString params ++ [.requestDetails requestDetails]
  | .default => params.map .json ++ [.requestDetails requestDetails]

/-- `tag == null`, or one of the tags that stand for the head. -/
def blockTagIsLatestOrPending (tag : Option Json) : Bool :=
  match tag with
  | none => true
  | some .null => true
  | tag => isString tag "latest" || isString tag "pending" || isString tag "safe" || isString tag "finalized"

/-- `numberTo0x` of a block number. -/
def numberTo0x (number : Nat) : String :=
  String.ofList ('0' :: 'x' :: Nat.toDigits 16 number)

/-- The block that `call` runs on; `none` stands for `null`. The number of a block is
looked up by its hash. -/
def extractBlockNumberOrTag (getBlock : Json → Except HandlerError Nat) (blockParam : Option Json) :
    Except HandlerError (Option Json) :=
  if !truthy blockParam then .ok none
  else
    match blockParam with
    | some (.obj fields) =>
        match fields.lookup "blockNumber" with
        | some .null | none => fromHash (fields.lookup "blockHash")
        | some blockNumber => .ok (some blockNumber)
    | some (.arr _) => fromHash none
    | some (.str text) =>
        if (hexDigits text).any (·.length == 64) then getBlockNumberFromHash (.str text)
        else .ok (some (.str text))
    | _ => .ok none
where
  fromHash : Option Json → Except HandlerError (Option Json)
    | some .null | none =>
        .error (.jsonRpc (predefined.INVALID_ARGUMENTS "neither block nor hash specified"))
    | some blockHash => getBlockNumberFromHash blockHash
  getBlockNumberFromHash (blockHash : Json) : Except HandlerError (Option Json) := do
    return some (.str (numberTo0x (← getBlock blockHash)))

/-- The block argument stands for the head of the chain, or depends on it by default. -/
def BlockArgument.isHeadRelative (getBlock : Json → Except HandlerError Nat)
    (argument : BlockArgument) (params : List Json) : Bool :=
  match argument with
  | .tag index => blockTagIsLatestOrPending params[index]?
  | .params index =>
      match extractBlockNumberOrTag getBlock params[index]? with
      | .ok extracted => blockTagIsLatestOrPending extracted
      | .error _ => false
  | .range index =>
      let field (name : String) := params[index]?.bind fun value => ownField value name
      !truthy (field "blockHash") &&
        (blockTagIsLatestOrPending (field "fromBlock") || blockTagIsLatestOrPending (field "toBlock"))

end HieroRelay.Relay
