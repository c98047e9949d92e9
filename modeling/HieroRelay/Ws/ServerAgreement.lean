import HieroRelay.Js.Text
import HieroRelay.Ws.JsonRpcController

/-! The WebSocket server answers what the HTTP server answers, for the requests that both serve. -/

namespace HieroRelay.Ws

open HieroRelay.Js HieroRelay.Relay HieroRelay.Server

/-- The settings that the two servers read from the same configuration. -/
structure SameSettings (app : KoaJsonRpc) (server : WsServer) : Prop where
  requestIdIsOptional : server.requestIdIsOptional = app.requestIdIsOptional
  methodConfiguration : server.methodConfiguration = app.methodConfig
  numberToString : server.numberToString = app.numberToString
  batchRequestsDisallowedMethods : server.batchRequestsDisallowedMethods = app.batchRequestsDisallowedMethods

/-- Both servers call one relay, which takes missing parameters for none at all. -/
structure OneRelay (http : Services) (ws : WsServices) : Prop where
  executeRpcMethod : ∀ method params,
    ws.executeRpcMethod method params = http.executeRpcMethod (some (.str method)) (some params)
  defaultParams : ∀ method,
    http.executeRpcMethod (some (.str method)) none = http.executeRpcMethod (some (.str method)) (some (.arr []))

/-- A method that both servers pass to the relay, when their limiters let it through. -/
structure Passed (server : WsServer) (http : Services) (ws : WsServices) (method : String) : Prop where
  supported : server.verifySupportedMethod method = true
  relayed : WsServer.isSubscriptionMethod method = false
  unlimited : ∃ total, server.methodConfiguration.lookup method = some total ∧
    ws.shouldRateLimit method total = .ok false ∧ http.shouldRateLimit (some (.str method)) total = .ok false

/-- A request that both servers serve, or refuse with a warning that can be written. -/
structure Shared (app : KoaJsonRpc) (server : WsServer) (http : Services) (ws : WsServices) (request : Json) :
    Prop where
  present : request ≠ .null
  counted : server.labelError (ownField request "method") = none ∧ app.labelError (ownField request "method") = none
  printed : wellFormed app.requestIdIsOptional request = false →
    ∃ warning, app.invalidRequestWarning request = .ok warning
  passed : wellFormed app.requestIdIsOptional request = true →
    ∃ method, ownField request "method" = some (.str method) ∧ Passed server http ws method
  params : wellFormed app.requestIdIsOptional request = true →
    ownField request "params" = none ∨ truthy (ownField request "params") = true

section Requests
variable {app : KoaJsonRpc} {server : WsServer} {http : Services} {ws : WsServices} {request : Json}

theorem ownField_withDefaultId {name : String} (other : name ≠ "id") :
    ownField (withDefaultId request) name = ownField request name := by
  rw [withDefaultId]
  split
  next => rfl
  next =>
    cases request with
    | obj fields =>
      have own : (name == "id") = false := beq_eq_false_iff_ne.mpr other
      simp [ownField, setField, List.lookup_append, List.lookup_cons, own]
    | _ => rfl

/-- A response cannot be built for an identifier of another type, whatever it says. -/
theorem jsonResp_error_eq {id : Option Json} (invalid : ResponseId.ofJson id = none) (error : JsonRpcError) :
    jsonResp id (some error) none = .error (.typeError s!"Invalid id type {typeOf id}") := by
  simp [jsonResp, invalid]

private theorem jsonResp_orElse_error {id : Option Json} {error : JsonRpcError} {err : JsError}
    (thrown : jsonResp (orElse id (some .null)) (some error) none = .error err) (other : JsonRpcError) :
    jsonResp id (some other) none = .error err := by
  cases isTruthy : truthy id with
  | false => simp [orElse, isTruthy, jsonResp] at thrown
  | true =>
    rw [orElse, isTruthy, if_pos rfl] at thrown
    cases invalid : ResponseId.ofJson id with
    | some carried =>
      rw [jsonResp_error invalid] at thrown
      cases thrown
    | none => rw [jsonResp_error_eq invalid, ← thrown, jsonResp_error_eq invalid]

/-- What the relay's answer cannot be built for, no error can be built for either. -/
theorem afterExecution_error {answer : Except JsError RpcResult} (present : request ≠ .null) {err : JsError}
    (thrown : KoaJsonRpc.afterExecution request answer = .error err) (error : JsonRpcError) :
    jsonResp (ownField request "id") (some error) none = .error err := by
  have carries := KoaJsonRpc.afterExecution_carries present answer
  cases invalid : ResponseId.ofJson (ownField request "id") with
  | some carried =>
    rw [invalid, thrown] at carries
    obtain ⟨outcome, built⟩ := carries
    cases built
  | none =>
    rw [jsonResp_error_eq invalid, ← thrown]
    cases answer with
    | error fault => rw [KoaJsonRpc.afterExecution, KoaJsonRpc.failed_eq present, jsonResp_error_eq invalid]
    | ok result =>
      cases result <;>
        simp [KoaJsonRpc.afterExecution, KoaJsonRpc.orFailed, KoaJsonRpc.failed_eq present, jsonResp, invalid]

/-- The clause around the handlers reports what it is given when that cannot be reported otherwise. -/
theorem processMethod_relayed (server : WsServer) {method : String} {params : Json} (present : request ≠ .null)
    (relayed : WsServer.isSubscriptionMethod method = false) :
    server.processMethod ws request method params =
      KoaJsonRpc.afterExecution request (ws.executeRpcMethod method params) := by
  obtain ⟨notSubscribe, notUnsubscribe⟩ := Bool.or_eq_false_iff.mp relayed
  rw [WsServer.processMethod, WsServer.handleMethod, notSubscribe, notUnsubscribe,
    WsServer.handleSendingRequestsToRelay]
  cases settled : KoaJsonRpc.afterExecution request (ws.executeRpcMethod method params) with
  | ok response => rfl
  | error err => exact afterExecution_error present settled _

/-- The warnings of the servers differ, but the same fields are written in them. -/
theorem warning_printed (same : SameSettings app server) {warning : String}
    (printed : app.invalidRequestWarning request = .ok warning) :
    ∃ other, server.invalidRequestWarning request = .ok other := by
  rw [KoaJsonRpc.invalidRequestWarning] at printed
  rw [WsServer.invalidRequestWarning, same.numberToString]
  simp only [bind_eq_ok_iff] at printed ⊢
  obtain ⟨jsonrpc, jsonrpcRead, version, versionText, method, methodRead, name, nameText, id, idRead, own,
    ownText, -⟩ := printed
  exact ⟨_, jsonrpc, jsonrpcRead, version, versionText, method, methodRead, name, nameText, id, idRead, own,
    ownText, rfl⟩

/-- A malformed request is refused alike; an identifier that cannot be carried is not replaced. -/
theorem malformed_agrees (same : SameSettings app server) (shared : Shared app server http ws request)
    (invalid : wellFormed app.requestIdIsOptional request = false) :
    server.getRequestResult ws request = app.getRequestResult http request := by
  have present := shared.present
  obtain ⟨warning, printed⟩ := shared.printed invalid
  obtain ⟨other, otherPrinted⟩ := warning_printed same printed
  rw [app.getRequestResult_malformed present invalid printed]
  have refused : server.getRequestResult ws request =
      jsonResp (orElse (ownField request "id") (some .null)) (some invalidRequest) none := by
    simp [WsServer.getRequestResult, WsServer.countMethod, WsServer.validateJsonRpcRequest, getProperty_ok present,
      shared.counted.1, same.requestIdIsOptional, validateRequest_malformed _ _ present invalid, otherPrinted,
      Except.map]
  rw [refused]
  cases built : jsonResp (orElse (ownField request "id") (some .null)) (some invalidRequest) none with
  | ok response => rfl
  | error err =>
    rw [KoaJsonRpc.orFailed, KoaJsonRpc.failed_eq present]
    exact (jsonResp_orElse_error built internalError).symm

private theorem beforeRateLimit_eq {method : String} {total : Nat} (present : request ≠ .null)
    (valid : wellFormed app.requestIdIsOptional request = true)
    (named : ownField request "method" = some (.str method)) (limit : app.methodConfig.lookup method = some total) :
    app.beforeRateLimit request = .awaiting (withDefaultId request, total) := by
  have total : app.methodTotalLimit (ownField (withDefaultId request) "method") = .ok total := by
    rw [ownField_withDefaultId (by decide), named]
    simp [KoaJsonRpc.methodTotalLimit, interpolate, toText, limit]
  rw [KoaJsonRpc.beforeRateLimit, KoaJsonRpc.validateJsonRpcRequest, validateRequest_wellFormed _ _ present valid]
  dsimp only
  rw [total]

/-- Both servers give the relay the same parameters, or what it takes for the same. -/
theorem executed_agrees (oneRelay : OneRelay http ws)
    (given : ownField request "params" = none ∨ truthy (ownField request "params") = true) (method : String) :
    ws.executeRpcMethod method (if truthy (ownField request "params")
        then (ownField request "params").getD (.arr []) else .arr []) =
      http.executeRpcMethod (some (.str method)) (ownField request "params") := by
  rw [oneRelay.executeRpcMethod]
  rcases given with missing | isTruthy
  · rw [missing, oneRelay.defaultParams]
    rfl
  · rw [if_pos isTruthy]
    cases params : ownField request "params" with
    | none => simp [params] at isTruthy
    | some value => rfl

private theorem wellFormed_agrees (same : SameSettings app server) (oneRelay : OneRelay http ws)
    (shared : Shared app server http ws request) (valid : wellFormed app.requestIdIsOptional request = true) :
    server.getRequestResult ws request = app.getRequestResult http request := by
  have present := shared.present
  have still := withDefaultId_ne_null present
  obtain ⟨method, named, passed⟩ := shared.passed valid
  obtain ⟨total, limit, wsPassed, httpPassed⟩ := passed.unlimited
  have notSubscribe : method ≠ "eth_subscribe" := beq_eq_false_iff_ne.mp (Bool.or_eq_false_iff.mp passed.relayed).1
  have httpServed : app.getRequestResult http request = KoaJsonRpc.afterExecution (withDefaultId request)
      (http.executeRpcMethod (some (.str method)) (ownField request "params")) := by
    rw [KoaJsonRpc.getRequestResult, beforeRateLimit_eq present valid named (same.methodConfiguration ▸ limit)]
    dsimp only
    rw [ownField_withDefaultId (by decide), named, httpPassed]
    dsimp only [KoaJsonRpc.afterRateLimit]
    rw [ownField_withDefaultId (by decide), ownField_withDefaultId (by decide), named]
  rw [httpServed, ← executed_agrees oneRelay (shared.params valid), ← processMethod_relayed server still passed.relayed]
  have counted : server.labelError (some (.str method)) = none := named ▸ shared.counted.1
  simp [WsServer.getRequestResult, WsServer.countMethod, WsServer.validateJsonRpcRequest, getProperty_ok present,
    named, counted, same.requestIdIsOptional, validateRequest_wellFormed _ _ present valid, WsServer.serveValid,
    WsServer.serveSupported, WsServer.shouldRateLimitOnMethod, passed.supported,
    passed.relayed, limit, wsPassed, notSubscribe]

theorem getRequestResult_agrees (same : SameSettings app server) (oneRelay : OneRelay http ws)
    (shared : Shared app server http ws request) :
    server.getRequestResult ws request = app.getRequestResult http request := by
  cases valid : wellFormed app.requestIdIsOptional request with
  | true => exact wellFormed_agrees same oneRelay shared valid
  | false => exact malformed_agrees same shared valid

private theorem batchItem_agrees (same : SameSettings app server) (oneRelay : OneRelay http ws)
    (present : request ≠ .null)
    (shared : includesString app.batchRequestsDisallowedMethods (ownField request "method") = none →
      Shared app server http ws request) :
    server.batchItem ws request = app.batchItem http request := by
  rw [WsServer.batchItem, KoaJsonRpc.batchItem, getProperty_ok present, same.batchRequestsDisallowedMethods]
  dsimp only [ok_bind]
  cases disallowed : includesString app.batchRequestsDisallowedMethods (ownField request "method") with
  | some method => rfl
  | none =>
    have served := shared disallowed
    dsimp only
    rw [getRequestResult_agrees same oneRelay served, served.counted.2]
    cases app.getRequestResult http request <;> rfl

end Requests

/-- A message that both servers serve: a request, or a batch that neither refuses as a whole. -/
def SharedMessage (app : KoaJsonRpc) (server : WsServer) (http : Nat → Services) (ws : Nat → WsServices) :
    Json → Prop
  | .arr items => (app.batchRequestsEnabled = true ∧ server.wsBatchRequestsEnabled = true) ∧
      (items.length ≤ app.batchRequestsMaxSize ∧ items.length ≤ server.wsBatchRequestsMaxSize) ∧
      ∀ (index : Nat) (item : Json), items[index]? = some item → item ≠ .null ∧
        (includesString app.batchRequestsDisallowedMethods (ownField item "method") = none →
          Shared app server (http index) (ws index) item)
  | request => Shared app server (http 0) (ws 0) request

/-- The answer of the HTTP server to a posted text, as the WebSocket server would send it; `body` is
what `co-body` makes of the text. -/
def rpcApp (app : KoaJsonRpc) (body : String → Option Json) (http : Nat → Services) (msg : String) :
    Except JsError WsServer.WsMessage :=
  match body msg with
  | none => (jsonResp (some .null) (some parseError) none).map .single
  | some (.arr items) => (app.handleMultipleRequest http items).map fun reply => reply.body.elim .single .batch
  | some request => (app.getRequestResult (http 0) request).map .single

/-- A message that both servers read alike and serve is answered alike. -/
theorem onMessage_agrees {app : KoaJsonRpc} {server : WsServer} {http : Nat → Services} {ws : Nat → WsServices}
    {body parse : String → Option Json} {msg : String} {request : Json} (httpRead : body msg = some request)
    (wsRead : parse (WsServer.asciiText msg) = some request) (same : SameSettings app server)
    (oneRelay : ∀ index, OneRelay (http index) (ws index)) (shared : SharedMessage app server http ws request) :
    server.onMessage parse ws msg = rpcApp app body http msg := by
  rw [WsServer.onMessage, wsRead, rpcApp, httpRead]
  cases request with
  | arr items =>
    obtain ⟨⟨httpEnabled, wsEnabled⟩, ⟨httpSmall, wsSmall⟩, served⟩ := shared
    have settled : items.mapIdx (fun index item => server.batchItem (ws index) item) =
        items.mapIdx fun index item => app.batchItem (http index) item := by
      apply List.ext_getElem?
      intro index
      rw [List.getElem?_mapIdx, List.getElem?_mapIdx]
      cases found : items[index]? with
      | none => rfl
      | some item =>
        obtain ⟨present, itemShared⟩ := served index item found
        exact congrArg some (batchItem_agrees same (oneRelay index) present itemShared)
    simp only [WsServer.onRequest, KoaJsonRpc.handleMultipleRequest, httpEnabled, wsEnabled, settled,
      Nat.not_lt.mpr httpSmall, Nat.not_lt.mpr wsSmall]
    cases promiseAll (items.mapIdx fun index item => app.batchItem (http index) item) <;> rfl
  | _ =>
    simp only [WsServer.onRequest, getRequestResult_agrees same (oneRelay 0) shared]
    cases app.getRequestResult (http 0) _ <;> rfl

def chainIdHttp : Services where
  shouldRateLimit _ _ := .ok false
  executeRpcMethod _ _ := .ok (.value (some (.str "0x12a")))

def chainIdWs : WsServices where
  shouldRateLimit _ _ := .ok false
  validateSubscriptionLimit := true
  executeRpcMethod _ _ := .ok (.value (some (.str "0x12a")))
  validateSubscribeEthLogsParams _ := .ok ()
  subscribe _ _ := ""
  unsubscribe _ := 0

def chainIdRequest : Json := .obj [("jsonrpc", .str "2.0"), ("id", .str "1"), ("method", .str "eth_chainId")]

def unversionedRequest : Json := .obj [("id", .str "2"), ("method", .str "eth_chainId")]

def newFilterRequest : Json := .obj [("jsonrpc", .str "2.0"), ("id", .str "3"), ("method", .str "eth_newFilter")]

private theorem oneRelay_chainId : OneRelay chainIdHttp chainIdWs where
  executeRpcMethod _ _ := rfl
  defaultParams _ := rfl

private theorem sameSettings_byDefault : SameSettings KoaJsonRpc.byDefault WsServer.byDefault where
  requestIdIsOptional := rfl
  methodConfiguration := rfl
  numberToString := rfl
  batchRequestsDisallowedMethods := rfl

private theorem shared_chainId : Shared KoaJsonRpc.byDefault WsServer.byDefault chainIdHttp chainIdWs chainIdRequest where
  present := Json.noConfusion
  counted := ⟨rfl, rfl⟩
  printed malformed := by
    have valid : wellFormed KoaJsonRpc.byDefault.requestIdIsOptional chainIdRequest = true := by decide
    rw [valid] at malformed
    cases malformed
  passed _ := ⟨"eth_chainId", rfl, by decide +kernel, by decide, 800, by decide +kernel, rfl, rfl⟩
  params _ := .inl rfl

private theorem shared_unversioned :
    Shared KoaJsonRpc.byDefault WsServer.byDefault chainIdHttp chainIdWs unversionedRequest where
  present := Json.noConfusion
  counted := ⟨rfl, rfl⟩
  printed _ := ⟨_, rfl⟩
  passed valid := by
    have malformed : wellFormed KoaJsonRpc.byDefault.requestIdIsOptional unversionedRequest = false := by decide
    rw [malformed] at valid
    cases valid
  params _ := .inl rfl

/-- A request that is served, one that is malformed and one that no batch may hold. -/
def mixedBatch : Json := .arr [chainIdRequest, unversionedRequest, newFilterRequest]

def mixedText : String := Js.stringify toString mixedBatch

/-- A parser that knows one text. -/
def readMixed (text : String) : Option Json := if text == mixedText then some mixedBatch else none

theorem onMessage_agrees_batch : WsServer.byDefault.onMessage readMixed (fun _ => chainIdWs) mixedText =
    rpcApp KoaJsonRpc.byDefault readMixed (fun _ => chainIdHttp) mixedText := by
  have ascii : WsServer.asciiText mixedText = mixedText := by decide +kernel
  have read : readMixed mixedText = some mixedBatch := by rw [readMixed, beq_self_eq_true, if_pos rfl]
  have decoded : readMixed (WsServer.asciiText mixedText) = some mixedBatch := by rw [ascii, read]
  refine onMessage_agrees read decoded sameSettings_byDefault (fun _ => oneRelay_chainId)
    ⟨⟨rfl, rfl⟩, by decide, ?_⟩
  intro index item found
  have member := List.mem_of_getElem? found
  simp only [List.mem_cons, List.not_mem_nil, or_false] at member
  rcases member with rfl | rfl | rfl
  · exact ⟨Json.noConfusion, fun _ => shared_chainId⟩
  · exact ⟨Json.noConfusion, fun _ => shared_unversioned⟩
  · refine ⟨Json.noConfusion, fun allowed => ?_⟩
    have disallowed : (includesString KoaJsonRpc.byDefault.batchRequestsDisallowedMethods
        (ownField newFilterRequest "method")).isSome = true := by decide +kernel
    rw [allowed] at disallowed
    cases disallowed

end HieroRelay.Ws
