import HieroRelay.Relay.Dispatcher
import HieroRelay.Server.KoaJsonRpc

/-! The HTTP status of a request on its own, which tells the errors apart that the dispatcher
makes of those of the handlers. -/

namespace HieroRelay.Server

open HieroRelay.Js HieroRelay.Relay

def ERROR_CODE_MAP : List (Int × Nat) :=
  [(3, 200), (-32603, 500), (-32600, 400), (-32602, 400), (-32601, 400), (-32605, 429)]

def MIRROR_NODE_ERROR_MAP : List (String × Nat) := [("404", 400), ("429", 429), ("501", 501)]

def translateRpcErrorToHttpStatus (jsonRpcError : JsonRpcError) : Nat :=
  let statusErrorCode := (ERROR_CODE_MAP.lookup jsonRpcError.code).getD 400
  match jsonRpcError.data with
  | some data =>
      if jsonRpcError.code = -32020 ∧ data ≠ "" then (MIRROR_NODE_ERROR_MAP.lookup data).getD 500 else statusErrorCode
  | none => statusErrorCode

/-- `ctx.body` and `ctx.status` of a request on its own. -/
structure SingleReply where
  status : Nat
  body : IJsonRpcResponse

/-- What `executeRpcMethod` resolves to. -/
def RpcResult.ofReport : Report → RpcResult
  | .error reported => .error reported
  | .result returned => .value returned.jsonText

namespace KoaJsonRpc

variable (app : KoaJsonRpc)

/-- A status that is not set is 200. -/
def handleSingleRequest (services : Services) (body : Json) : Except JsError SingleReply := do
  let response ← app.getRequestResult services body
  match response.outcome with
  | .error error => return { status := translateRpcErrorToHttpStatus error, body := response }
  | .result _ => return { status := 200, body := response }

variable {app} {services : Services} {request : Json}

/-- A request that the relay executes: it is well formed, its identifier can be carried and it is
within the limits of its rate. -/
structure Executes (app : KoaJsonRpc) (services : Services) (request : Json) (carried : ResponseId)
    (methodName : String) : Prop where
  present : request ≠ .null
  wellFormed : wellFormed app.requestIdIsOptional request = true
  carries : responseId request = some carried
  method : ownField (withDefaultId request) "method" = some (.str methodName)
  unlimited : ∀ total, services.shouldRateLimit (some (.str methodName)) total = .ok false

variable {carried : ResponseId} {methodName : String}

theorem getRequestResult_executes (executes : Executes app services request carried methodName) :
    app.getRequestResult services request = afterExecution (withDefaultId request)
      (services.executeRpcMethod (some (.str methodName)) (ownField (withDefaultId request) "params")) := by
  have total : app.methodTotalLimit (some (.str methodName)) =
      .ok ((app.methodConfig.lookup methodName).getD app.defaultRateLimit) := rfl
  simp [getRequestResult, beforeRateLimit, validateJsonRpcRequest,
    validateRequest_wellFormed _ _ executes.present executes.wellFormed, executes.method, total, executes.unlimited,
    afterRateLimit]

/-- An error that the relay reports is sent under the identifier of the request. -/
theorem handleSingleRequest_error (executes : Executes app services request carried methodName)
    {error : JsonRpcError}
    (reported : services.executeRpcMethod (some (.str methodName)) (ownField (withDefaultId request) "params") =
      .ok (.error error)) :
    app.handleSingleRequest services request = .ok {
      status := translateRpcErrorToHttpStatus error
      body := { id := carried, outcome := .error error } } := by
  have valid := ofJson_id_withDefaultId _ executes.wellFormed
  rw [executes.carries] at valid
  rw [handleSingleRequest, getRequestResult_executes executes, reported, afterExecution, jsonResp_error valid]
  rfl

theorem handleSingleRequest_result (executes : Executes app services request carried methodName) {value : Json}
    (reported : services.executeRpcMethod (some (.str methodName)) (ownField (withDefaultId request) "params") =
      .ok (.value (some value))) :
    app.handleSingleRequest services request =
      .ok { status := 200, body := { id := carried, outcome := .result value } } := by
  have valid := ofJson_id_withDefaultId _ executes.wellFormed
  rw [executes.carries] at valid
  have built : jsonResp (ownField (withDefaultId request) "id") none (some value) =
      .ok { id := carried, outcome := .result value } := by
    simp [jsonResp, valid]
  rw [handleSingleRequest, getRequestResult_executes executes, reported, afterExecution, built]
  rfl

end KoaJsonRpc

end HieroRelay.Server
