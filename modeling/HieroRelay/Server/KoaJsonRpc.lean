import HieroRelay.Js.Promise
import HieroRelay.Server.MethodConfiguration
import HieroRelay.Server.RequestValidation

/-! `KoaJsonRpc`: validation of a request, its way through the rate limiter and the
relay, and batches. `getRequestResult` is cut at its two `await`s, so that the same
code serves one request on its own and many that interleave. -/

namespace HieroRelay.Server

open HieroRelay.Js HieroRelay.Relay

/-- Configuration of one `KoaJsonRpc` and what it needs from the engine and the
metrics client. `labelError` is the exception `labels` throws for a method. -/
structure KoaJsonRpc where
  methodConfig : List (String × Nat)
  defaultRateLimit : Nat
  requestIdIsOptional : Bool
  batchRequestsEnabled : Bool
  batchRequestsMaxSize : Nat
  batchRequestsDisallowedMethods : List String
  numberToString : Rat → String
  labelError : Option Json → Option JsError

/-- The defaults of `globalConfig.ts`, and a metrics client that accepts every label. -/
def KoaJsonRpc.byDefault : KoaJsonRpc where
  methodConfig := methodConfiguration 100 800 1600
  defaultRateLimit := 200
  requestIdIsOptional := false
  batchRequestsEnabled := true
  batchRequestsMaxSize := 100
  batchRequestsDisallowedMethods :=
    ["debug_traceTransaction", "debug_traceBlockByNumber", "eth_newFilter", "eth_uninstallFilter",
      "eth_getFilterChanges", "eth_getFilterLogs", "eth_newBlockFilter", "eth_newPendingTransactionFilter"]
  numberToString := toString
  labelError := fun _ => none

/-- What `relay.executeRpcMethod` resolves to: an error object or any other value. -/
inductive RpcResult where
  | error (error : JsonRpcError)
  | value (value : Option Json)
  deriving Repr

/-- Answers that the rate limiter and the relay give to one request. -/
structure Services where
  shouldRateLimit : (methodName : Option Json) → (total : Nat) → Except JsError Bool
  executeRpcMethod : (method params : Option Json) → Except JsError RpcResult

/-- A stretch of `getRequestResult` up to an `await` ends with a response, or with
what the next stretch starts from. -/
inductive Stage (Next : Type) where
  | answered (response : Except JsError IJsonRpcResponse)
  | awaiting (next : Next)

namespace KoaJsonRpc

variable (app : KoaJsonRpc)

/-- Text of the warning about an invalid request; its template converts the fields. -/
def invalidRequestWarning (body : Json) : Except JsError String := do
  let jsonrpc ← interpolate app.numberToString (← getProperty body "jsonrpc")
  let method ← interpolate app.numberToString (← getProperty body "method")
  let id ← interpolate app.numberToString (← getProperty body "id")
  return s!"Invalid request, body.jsonrpc: {jsonrpc}, body[method]: {method}, body[id]: {id}, " ++
    s!"ctx.request.method: {method}"

def validateJsonRpcRequest (body : Json) : Except JsError (Bool × Json) :=
  validateRequest app.requestIdIsOptional app.invalidRequestWarning body

/-- `this.methodConfig[request.method]?.total ?? this.defaultRateLimit` -/
def methodTotalLimit (method : Option Json) : Except JsError Nat := do
  let key ← interpolate app.numberToString method
  return (app.methodConfig.lookup key).getD app.defaultRateLimit

/-- The `catch` clause of `getRequestResult`. -/
def failed (request : Json) (_err : JsError) : Except JsError IJsonRpcResponse := do
  jsonResp (← getProperty request "id") (some internalError) none

/-- A response built inside the `try` block. -/
def orFailed (request : Json) : Except JsError IJsonRpcResponse → Except JsError IJsonRpcResponse
  | .ok response => .ok response
  | .error err => failed request err

/-- Up to the call of the rate limiter: the request as validation left it, and the
limit of its method. -/
def beforeRateLimit (request : Json) : Stage (Json × Nat) :=
  match app.validateJsonRpcRequest request with
  | .error err => .answered (failed request err)
  | .ok (false, request) =>
      .answered (orFailed request (do
        jsonResp (orElse (← getProperty request "id") (some .null)) (some invalidRequest) none))
  | .ok (true, request) =>
      match app.methodTotalLimit (ownField request "method") with
      | .error err => .answered (failed request err)
      | .ok total => .awaiting (request, total)

/-- From the answer of the rate limiter to the call of the relay. -/
def afterRateLimit (request : Json) : Except JsError Bool → Stage Json
  | .error err => .answered (failed request err)
  | .ok true =>
      .answered (orFailed request (do
        let methodName ← interpolate app.numberToString (ownField request "method")
        jsonResp (ownField request "id") (some (ipRateLimitExceeded methodName)) none))
  | .ok false => .awaiting request

/-- From the answer of the relay to the response. -/
def afterExecution (request : Json) : Except JsError RpcResult → Except JsError IJsonRpcResponse
  | .error err => failed request err
  | .ok (.error error) => orFailed request (jsonResp (ownField request "id") (some error) none)
  | .ok (.value result) => orFailed request (jsonResp (ownField request "id") none result)

/-- One request on its own, with the answers it gets from the services. -/
def getRequestResult (services : Services) (request : Json) : Except JsError IJsonRpcResponse :=
  match app.beforeRateLimit request with
  | .answered response => response
  | .awaiting (request, total) =>
      match app.afterRateLimit request (services.shouldRateLimit (ownField request "method") total) with
      | .answered response => response
      | .awaiting request => afterExecution request
          (services.executeRpcMethod (ownField request "method") (ownField request "params"))

/-- One item of a batch: refused, or answered and counted under its method. -/
def batchItem (services : Services) (item : Json) : Except JsError IJsonRpcResponse := do
  let method ← getProperty item "method"
  match includesString app.batchRequestsDisallowedMethods method with
  | some method =>
      jsonResp (← getProperty item "id") (some (predefined.BATCH_REQUESTS_METHOD_NOT_PERMITTED method)) none
  | none =>
      let response ← app.getRequestResult services item
      match app.labelError method with
      | some err => .error err
      | none => .ok response

/-- `ctx.body` and `ctx.status` of a request with an array body. -/
structure BatchReply where
  status : Nat
  body : IJsonRpcResponse ⊕ List IJsonRpcResponse

def rejected (error : JsonRpcError) : Except JsError BatchReply := do
  return { status := 400, body := .inl (← jsonResp (some .null) (some error) none) }

/-- The items are served in parallel, each with its own answers from the services,
and joined in their order. An exception leaves no reply at all. -/
def handleMultipleRequest (services : Nat → Services) (body : List Json) : Except JsError BatchReply :=
  if !app.batchRequestsEnabled then
    rejected predefined.BATCH_REQUESTS_DISABLED
  else if body.length > app.batchRequestsMaxSize then
    rejected (predefined.BATCH_REQUESTS_AMOUNT_MAX_EXCEEDED body.length app.batchRequestsMaxSize)
  else do
    let results ← promiseAll (body.mapIdx fun index item => app.batchItem (services index) item)
    return { status := 200, body := .inr results }

/-! ### What each stretch does to a request that is not `null` -/

theorem failed_eq {request : Json} (present : request ≠ .null) (err : JsError) :
    failed request err = jsonResp (ownField request "id") (some internalError) none := by
  simp [failed, getProperty_ok present]

theorem failed_carries {request : Json} (present : request ≠ .null) (err : JsError) :
    Carries (ResponseId.ofJson (ownField request "id")) (failed request err) := by
  rw [failed_eq present]
  exact carries_jsonResp_error _ _

/-- What is built for the identifier of the request, or else for the error that the
attempt threw, carries this identifier. -/
theorem orFailed_carries {request : Json} {attempt : Except JsError IJsonRpcResponse}
    (present : request ≠ .null)
    (faithful : ∀ response, attempt = .ok response →
      ResponseId.ofJson (ownField request "id") = some response.id) :
    Carries (ResponseId.ofJson (ownField request "id")) (orFailed request attempt) := by
  cases attempt with
  | error err => exact failed_carries present err
  | ok response => exact Carries.of_ok (faithful response rfl)

theorem afterExecution_carries {request : Json} (present : request ≠ .null)
    (answer : Except JsError RpcResult) :
    Carries (ResponseId.ofJson (ownField request "id")) (afterExecution request answer) := by
  cases answer with
  | error err => exact failed_carries present err
  | ok result =>
    cases result with
    | error error => exact orFailed_carries present fun response => jsonResp_id
    | value value => exact orFailed_carries present fun response => jsonResp_id

private theorem afterRateLimit_answered_carries {request : Json} (present : request ≠ .null)
    {answer : Except JsError Bool} {response : Except JsError IJsonRpcResponse}
    (answered : app.afterRateLimit request answer = .answered response) :
    Carries (ResponseId.ofJson (ownField request "id")) response := by
  cases answer with
  | error err =>
    cases answered
    exact failed_carries present err
  | ok limited =>
    cases limited with
    | false => cases answered
    | true =>
      cases answered
      apply orFailed_carries present
      intro response built
      cases text : interpolate app.numberToString (ownField request "method") with
      | error err => simp [text] at built
      | ok methodName =>
        rw [text, ok_bind] at built
        exact jsonResp_id built

private theorem afterRateLimit_awaiting {request next : Json} {answer : Except JsError Bool}
    (awaiting : app.afterRateLimit request answer = .awaiting next) :
    answer = .ok false ∧ next = request := by
  cases answer with
  | error err => cases awaiting
  | ok limited =>
    cases limited with
    | true => cases awaiting
    | false =>
      cases awaiting
      exact ⟨rfl, rfl⟩

/-- A well-formed request is answered under its identifier, or under the default one,
whatever the services answer; with an identifier no response can carry, it is not
answered at all. -/
theorem getRequestResult_carries {request : Json} (present : request ≠ .null)
    (valid : wellFormed app.requestIdIsOptional request = true) (services : Services) :
    Carries (responseId request) (app.getRequestResult services request) := by
  rw [← ofJson_id_withDefaultId _ valid]
  have still := withDefaultId_ne_null present
  cases total : app.methodTotalLimit (ownField (withDefaultId request) "method") with
  | error err =>
    simp only [getRequestResult, beforeRateLimit, validateJsonRpcRequest,
      validateRequest_wellFormed _ _ present valid, total]
    exact failed_carries still err
  | ok total' =>
    simp only [getRequestResult, beforeRateLimit, validateJsonRpcRequest,
      validateRequest_wellFormed _ _ present valid, total]
    split
    · rename_i answered
      exact app.afterRateLimit_answered_carries still answered
    · rename_i next awaiting
      obtain ⟨-, rfl⟩ := app.afterRateLimit_awaiting awaiting
      exact afterExecution_carries still _

/-- A malformed request whose warning can be written is answered under `id || null`. -/
theorem getRequestResult_malformed {request : Json} {warning : String} (present : request ≠ .null)
    (invalid : wellFormed app.requestIdIsOptional request = false)
    (printed : app.invalidRequestWarning request = .ok warning) (services : Services) :
    app.getRequestResult services request =
      orFailed request (jsonResp (orElse (ownField request "id") (some .null)) (some invalidRequest) none) := by
  simp [getRequestResult, beforeRateLimit, validateJsonRpcRequest, validateRequest_malformed _ _ present invalid,
    printed, getProperty_ok present, Except.map]

/-- A malformed request whose warning cannot be written ends in the `catch` clause. -/
theorem getRequestResult_unprintable {request : Json} {err : JsError} (present : request ≠ .null)
    (invalid : wellFormed app.requestIdIsOptional request = false)
    (thrown : app.invalidRequestWarning request = .error err) (services : Services) :
    app.getRequestResult services request = failed request err := by
  simp [getRequestResult, beforeRateLimit, validateJsonRpcRequest, validateRequest_malformed _ _ present invalid,
    thrown, Except.map]

end KoaJsonRpc

end HieroRelay.Server
