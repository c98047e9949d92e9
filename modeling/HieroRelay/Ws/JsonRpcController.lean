import HieroRelay.Server.KoaJsonRpc

/-! The WebSocket server: the handler of a text message, `getRequestResult` and the
handlers of the methods. Only the handlers run inside a `try` block. -/

namespace HieroRelay.Ws

open HieroRelay.Js HieroRelay.Relay HieroRelay.Server

/-- Configuration and what the server needs from the engine and the metrics client. -/
structure WsServer where
  requestIdIsOptional : Bool
  wsBatchRequestsEnabled : Bool
  wsBatchRequestsMaxSize : Nat
  batchRequestsDisallowedMethods : List String
  subscriptionsEnabled : Bool
  wsNewHeadsEnabled : Bool
  wsMultipleAddressesEnabled : Bool
  methodConfiguration : List (String × Nat)
  numberToString : Rat → String
  toUpperCase : String → String
  stringify : String → String
  labelError : Option Json → Option JsError

/-- The defaults of `globalConfig.ts`; letters outside ASCII are left as they are. -/
def WsServer.byDefault : WsServer where
  requestIdIsOptional := false
  wsBatchRequestsEnabled := true
  wsBatchRequestsMaxSize := 20
  batchRequestsDisallowedMethods := KoaJsonRpc.byDefault.batchRequestsDisallowedMethods
  subscriptionsEnabled := false
  wsNewHeadsEnabled := true
  wsMultipleAddressesEnabled := false
  methodConfiguration := KoaJsonRpc.byDefault.methodConfig
  numberToString := toString
  toUpperCase := fun text => String.ofList (text.toList.map Char.toUpper)
  stringify := fun text => "\"" ++ text ++ "\""
  labelError := fun _ => none

/-- What a handler throws: one of the relay's errors or an exception of the engine. -/
inductive Thrown where
  | rpc (error : JsonRpcError)
  | js (err : JsError)

/-- Answers that one request gets from the limiters, the relay and the subscription
service. -/
structure WsServices where
  shouldRateLimit : (methodName : String) → (total : Nat) → Except JsError Bool
  validateSubscriptionLimit : Bool
  executeRpcMethod : (method : String) → (params : Json) → Except JsError RpcResult
  validateSubscribeEthLogsParams : (filters : Json) → Except Thrown Unit
  subscribe : (event : String) → (filters : Option Json) → String
  unsubscribe : (subId : Option Json) → Nat

/-- The names under which `WS_CONSTANTS.METHODS` lists the supported methods. -/
def METHODS : List String :=
  ["ETH_CALL", "ETH_CHAINID", "ETH_GETLOGS", "ETH_GETCODE", "ETH_GASPRICE", "ETH_SUBSCRIBE",
    "ETH_NEWFILTER", "ETH_GETBALANCE", "ETH_UNSUBSCRIBE", "ETH_BLOCKNUMBER", "ETH_ESTIMATEGAS",
    "ETH_GETSTORAGEAT", "ETH_GETBLOCKBYHASH", "ETH_GETBLOCKBYNUMBER", "ETH_SENDRAWTRANSACTION",
    "ETH_GETTRANSACTIONCOUNT", "ETH_GETTRANSACTIONBYHASH", "ETH_GETTRANSACTIONRECEIPT",
    "ETH_MAXPRIORITYFEEPERGAS", "WEB3_CLIENTVERSION", "WEB3_SHA3"]

namespace WsServer

variable (server : WsServer) (services : WsServices)

/-- Text of the warning about an invalid request; its template converts the fields. -/
def invalidRequestWarning (request : Json) : Except JsError String := do
  let jsonrpc ← interpolate server.numberToString (← getProperty request "jsonrpc")
  let method ← interpolate server.numberToString (← getProperty request "method")
  let id ← interpolate server.numberToString (← getProperty request "id")
  return s!"Invalid request, request.jsonrpc: {jsonrpc}, request.method: {method}, " ++
    s!"request.id: {id}, request.method: {method}"

def validateJsonRpcRequest (request : Json) : Except JsError (Bool × Json) :=
  validateRequest server.requestIdIsOptional server.invalidRequestWarning request

def verifySupportedMethod (method : String) : Bool :=
  METHODS.contains (server.toUpperCase method)

/-- The two methods that the subscription limit covers instead. -/
def isSubscriptionMethod (methodName : String) : Bool :=
  methodName == "eth_subscribe" || methodName == "eth_unsubscribe"

/-- `methodConfiguration[methodName].total` throws for a name that is not a key. -/
def shouldRateLimitOnMethod (methodName : String) : Except JsError Bool :=
  if isSubscriptionMethod methodName then .ok false
  else
    match server.methodConfiguration.lookup methodName with
    | none => .error (.typeError "Cannot read properties of undefined (reading 'total')")
    | some total => services.shouldRateLimit methodName total

/-- The `catch` clause of `handleSendingRequestsToRelay` is the one of the HTTP server. -/
def handleSendingRequestsToRelay (request : Json) (method : String) (params : Json) :
    Except JsError IJsonRpcResponse :=
  KoaJsonRpc.afterExecution request (services.executeRpcMethod method params)

def sendSubscriptionsDisabledError : Except JsError IJsonRpcResponse :=
  jsonResp (some .null) (some predefined.WS_SUBSCRIPTIONS_DISABLED) none

/-- Keeps the fields `address` and `topics`; only objects have fields of these names. -/
def constructValidLogSubscriptionFilter : Option Json → Except Thrown Json
  | none => .error (.js (.typeError "Cannot convert undefined or null to object"))
  | some .null => .error (.js (.typeError "Cannot convert undefined or null to object"))
  | some (.obj fields) => .ok (.obj (fields.filter fun field => field.1 == "address" || field.1 == "topics"))
  | some _ => .ok (.obj [])

def hasManyAddresses (filters : Json) : Bool :=
  match ownField filters "address" with
  | some (.arr addresses) => addresses.length > 1
  | _ => false

def handleEthSubscribeLogs (filters : Option Json) (request : Json) : Except Thrown IJsonRpcResponse := do
  let validFiltersObject ← constructValidLogSubscriptionFilter filters
  services.validateSubscribeEthLogsParams validFiltersObject
  if !server.wsMultipleAddressesEnabled && hasManyAddresses validFiltersObject then
    .error (.rpc (predefined.INVALID_PARAMETER "filters.address" "Only one contract address is allowed"))
  else
    let subscriptionId := services.subscribe "logs" (some validFiltersObject)
    (jsonResp (ownField request "id") none (some (.str subscriptionId))).mapError .js

def handleEthSubscribeNewHeads (filters : Option Json) (request : Json) : Except Thrown IJsonRpcResponse :=
  if !server.wsNewHeadsEnabled then .error (.rpc predefined.UNSUPPORTED_METHOD)
  else
    let subscriptionId := services.subscribe "newHeads" filters
    (jsonResp (ownField request "id") none (some (.str subscriptionId))).mapError .js

def handleEthSubscribe (request params : Json) : Except Thrown IJsonRpcResponse :=
  if !server.subscriptionsEnabled then sendSubscriptionsDisabledError.mapError .js
  else if isString (elementAt params 0) "logs" then
    server.handleEthSubscribeLogs services (elementAt params 1) request
  else if isString (elementAt params 0) "newHeads" then
    server.handleEthSubscribeNewHeads services (elementAt params 1) request
  else .error (.rpc predefined.UNSUPPORTED_METHOD)

def handleEthUnsubscribe (request params : Json) : Except Thrown IJsonRpcResponse :=
  if !server.subscriptionsEnabled then sendSubscriptionsDisabledError.mapError .js
  else
    let unsubbedCount := services.unsubscribe (elementAt params 0)
    (jsonResp (ownField request "id") none (some (.bool (unsubbedCount != 0)))).mapError .js

/-- The `switch` over the methods. -/
def handleMethod (request : Json) (method : String) (params : Json) : Except Thrown IJsonRpcResponse :=
  if method == "eth_subscribe" then server.handleEthSubscribe services request params
  else if method == "eth_unsubscribe" then server.handleEthUnsubscribe services request params
  else (handleSendingRequestsToRelay services request method params).mapError .js

/-- The error that the `catch` clause reports: `error.message || error` as JSON text,
where an exception without a message has no fields to show. -/
def Thrown.toJsonRpcError : Thrown → JsonRpcError
  | .rpc error => error
  | .js err => predefined.INTERNAL_ERROR (if err.message == "" then "{}" else server.stringify err.message)

/-- The `try` block around the handlers with its `catch` clause. -/
def processMethod (request : Json) (method : String) (params : Json) : Except JsError IJsonRpcResponse :=
  match server.handleMethod services request method params with
  | .ok response => .ok response
  | .error thrown => jsonResp (ownField request "id") (some (Thrown.toJsonRpcError server thrown)) none

/-- From the rate limit on; nothing before the handlers is inside the `try` block. -/
def serveSupported (request : Json) (method : String) (params : Json) : Except JsError IJsonRpcResponse :=
  match server.shouldRateLimitOnMethod services method with
  | .error err => .error err
  | .ok true => jsonResp (some .null) (some (ipRateLimitExceeded method)) none
  | .ok false =>
      if method == "eth_subscribe" && !services.validateSubscriptionLimit then
        jsonResp (ownField request "id") (some predefined.MAX_SUBSCRIPTIONS) none
      else server.processMethod services request method params

/-- `method.toUpperCase()` is there for strings only. -/
def serveValid (request : Json) (method : Option Json) (params : Json) : Except JsError IJsonRpcResponse :=
  match method with
  | some (.str method) =>
      if server.verifySupportedMethod method then server.serveSupported services request method params
      else jsonResp (orElse (ownField request "id") (some .null)) (some (methodNotFound method)) none
  | some .null => .error (.typeError "Cannot read properties of null (reading 'toUpperCase')")
  | _ => .error (.typeError "method.toUpperCase is not a function")

def countMethod (method : Option Json) : Except JsError Unit :=
  match server.labelError method with
  | some err => .error err
  | none => .ok ()

def getRequestResult (request : Json) : Except JsError IJsonRpcResponse := do
  let method ← getProperty request "method"
  let params ← getProperty request "params"
  let params := if truthy params then params.getD (.arr []) else .arr []
  server.countMethod method
  let (valid, request) ← server.validateJsonRpcRequest request
  if valid then server.serveValid services request method params
  else jsonResp (orElse (ownField request "id") (some .null)) (some invalidRequest) none

def batchItem (item : Json) : Except JsError IJsonRpcResponse := do
  let method ← getProperty item "method"
  match includesString server.batchRequestsDisallowedMethods method with
  | some method =>
      jsonResp (← getProperty item "id") (some (predefined.BATCH_REQUESTS_METHOD_NOT_PERMITTED method)) none
  | none => server.getRequestResult services item

/-- The text of a message to the client, before it is turned into JSON; `undecoded` is an error
without the fields of a response. -/
inductive WsMessage where
  | single (response : IJsonRpcResponse)
  | batch (responses : List IJsonRpcResponse)
  | undecoded (error : JsonRpcError)

def batchRefused (error : JsonRpcError) : Except JsError WsMessage := do
  return .batch [← jsonResp (some .null) (some error) none]

/-- The message that the handler sends for a decoded one, or what it throws. -/
def onRequest (services : Nat → WsServices) (request : Json) : Except JsError WsMessage :=
  match request with
  | .arr items =>
      if !server.wsBatchRequestsEnabled then
        batchRefused predefined.WS_BATCH_REQUESTS_DISABLED
      else if items.length > server.wsBatchRequestsMaxSize then
        batchRefused
          (predefined.BATCH_REQUESTS_AMOUNT_MAX_EXCEEDED items.length server.wsBatchRequestsMaxSize)
      else do
        let responses ← promiseAll (items.mapIdx fun index item => server.batchItem (services index) item)
        return .batch responses
  | request => do return .single (← server.getRequestResult (services 0) request)

/-- `msg.toString('ascii')`: the bytes of a text message, each without its eighth bit. -/
def asciiText (msg : String) : String :=
  String.ofList ((msg.toList.flatMap String.utf8EncodeChar).map fun byte => Char.ofNat (byte.toNat % 128))

/-- A letter of more bytes than one becomes other letters, or ends a text. -/
example : asciiText "é𢬢" = "C)p\",\"" := by decide +kernel

/-- The handler of a text message; `parse` is `JSON.parse`, without the exception it throws. -/
def onMessage (parse : String → Option Json) (services : Nat → WsServices) (msg : String) :
    Except JsError WsMessage :=
  match parse (asciiText msg) with
  | none => .ok (.undecoded predefined.INVALID_REQUEST)
  | some request => server.onRequest services request

/-- Nothing is sent when the handler throws. -/
def sent (parse : String → Option Json) (services : Nat → WsServices) (msg : String) : List WsMessage :=
  match server.onMessage parse services msg with
  | .ok message => [message]
  | .error _ => []

end WsServer

end HieroRelay.Ws
