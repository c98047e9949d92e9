import HieroRelay.Relay.MethodRegistry
import HieroRelay.Server.HttpStatus

/-! Which functions a client can run: whatever name a request gives, it runs a decorated function of
that name on parameters that were validated, or nothing. -/

namespace HieroRelay.Server

open HieroRelay.Js HieroRelay.Relay

/-- `rpcMethodParams: any[] = []` -/
def paramsOf : Option Json → Option (List Json)
  | none => some []
  | some (.arr items) => some items
  | some _ => none

/-- The function stands in a service object under the name, and is decorated. -/
structure Exposes (namespaces : List RpcNamespace) (methodName : String) (operation : PrototypeMember) : Prop where
  member : ∃ service ∈ namespaces, operation ∈ service.members ∧
    methodName = rpcMethodName service.name operation.operationName
  registered : operation.isRegistered = true

/-- What a request is told: the outcome of the one function of its name, on its parameters as they
are after validation; an error of its parameters; or that there is no such function. -/
inductive Exposed (numberToString : Rat → String) (namespaces : List RpcNamespace) (methodName : String)
    (params : List Json) (requestDetails : RequestDetails) : Report → Prop where
  | executed {operation : PrototypeMember} {validated : List Json} (exposes : Exposes namespaces methodName operation)
      (sole : ∀ other, Exposes namespaces methodName other → other.operationFunction = operation.operationFunction)
      (valid : precheckRpcMethod numberToString operation.operationFunction.signature params = .ok validated) :
      Exposed numberToString namespaces methodName params requestDetails
        (dispatch (operation.operationFunction.execute
            (arrangeRpcParams numberToString operation.operationFunction.signature validated requestDetails))
          requestDetails.requestId)
  | rejected {operation : PrototypeMember} {error : HandlerError} (exposes : Exposes namespaces methodName operation)
      (invalid : precheckRpcMethod numberToString operation.operationFunction.signature params = .error error) :
      Exposed numberToString namespaces methodName params requestDetails
        (.error (handleRpcMethodError error requestDetails.requestId))
  | unknown (hidden : ∀ operation, ¬ Exposes namespaces methodName operation) :
      Exposed numberToString namespaces methodName params requestDetails
        (.error ((throwUnregisteredRpcMethods methodName).newWithRequestId requestDetails.requestId))

section Exposure
variable {numberToString : Rat → String} {namespaces : List RpcNamespace} {methodName : String} {params : List Json}
  {requestDetails : RequestDetails}

theorem exposes_iff (distinct : DistinctNames namespaces) {handler : OperationHandler} :
    (registerRpcMethods namespaces).get methodName = some handler ↔
      ∃ operation, Exposes namespaces methodName operation ∧ handler = operation.operationFunction := by
  rw [get_registerRpcMethods_iff distinct]
  constructor
  · intro found
    obtain ⟨service, member, operation, own, registered, named, same⟩ := found
    exact ⟨operation, ⟨⟨service, member, own, named⟩, registered⟩, same⟩
  · intro exposed
    obtain ⟨operation, ⟨⟨service, member, own, named⟩, registered⟩, same⟩ := exposed
    exact ⟨service, member, operation, own, registered, named, same⟩

private theorem exposed_executeRpcMethod (distinct : DistinctNames namespaces) :
    Exposed numberToString namespaces methodName params requestDetails
      ((registerRpcMethods namespaces).executeRpcMethod numberToString methodName params requestDetails) := by
  unfold RpcMethodRegistry.executeRpcMethod RpcMethodRegistry.precheck
  cases found : (registerRpcMethods namespaces).get methodName with
  | none =>
    have hidden : ∀ operation, ¬ Exposes namespaces methodName operation := by
      intro operation exposes
      have known := (exposes_iff distinct).mpr ⟨operation, exposes, rfl⟩
      rw [found] at known
      cases known
    exact .unknown hidden
  | some handler =>
    obtain ⟨operation, exposes, rfl⟩ := (exposes_iff distinct).mp found
    dsimp only
    cases checked : precheckRpcMethod numberToString operation.operationFunction.signature params with
    | error error => exact .rejected exposes checked
    | ok validated =>
      apply Exposed.executed exposes _ checked
      intro other exposed
      have known := (exposes_iff distinct).mpr ⟨other, exposed, rfl⟩
      rw [found] at known
      exact (Option.some.inj known).symm

/-- A name without function is refused as a bad request. -/
theorem translate_unregistered (methodName requestId : String) :
    ((throwUnregisteredRpcMethods methodName).newWithRequestId requestId).code = -32601 ∧
      translateRpcErrorToHttpStatus ((throwUnregisteredRpcMethods methodName).newWithRequestId requestId) = 400 := by
  have refused : ∀ error : JsonRpcError, error.code = -32601 → error.data = none →
      (error.newWithRequestId requestId).code = -32601 ∧
        translateRpcErrorToHttpStatus (error.newWithRequestId requestId) = 400 := by
    intro error code data
    have kept : (error.newWithRequestId requestId).code = -32601 ∧ (error.newWithRequestId requestId).data = none := by
      unfold JsonRpcError.newWithRequestId
      split_ifs
      · exact ⟨code, data⟩
      · exact ⟨code, data⟩
    refine ⟨kept.1, ?_⟩
    unfold translateRpcErrorToHttpStatus
    rw [kept.1, kept.2]
    rfl
  unfold throwUnregisteredRpcMethods
  split_ifs
  · exact refused _ rfl rfl
  · exact refused _ rfl rfl
  · exact refused _ rfl rfl

variable {app : KoaJsonRpc} {services : Services} {request : Json} {carried : ResponseId}

/-- Whatever the name and the parameters, the reply is the one for the decorated function of that name,
or an error under the identifier of the request; without such a function the request is a bad one. -/
theorem exposed_replied (distinct : DistinctNames namespaces)
    (executes : KoaJsonRpc.Executes app services request carried methodName)
    (relay : ∀ given items, paramsOf given = some items → services.executeRpcMethod (some (.str methodName)) given =
      .ok (.ofReport ((registerRpcMethods namespaces).executeRpcMethod numberToString methodName items requestDetails)))
    (listed : paramsOf (ownField (withDefaultId request) "params") = some params) :
    ∃ report, Exposed numberToString namespaces methodName params requestDetails report ∧
      app.getRequestResult services request =
        KoaJsonRpc.afterExecution (withDefaultId request) (.ok (.ofReport report)) ∧
      (∀ error, report = .error error → app.handleSingleRequest services request =
        .ok { status := translateRpcErrorToHttpStatus error, body := { id := carried, outcome := .error error } }) ∧
      ((∀ operation, ¬ Exposes namespaces methodName operation) → ∃ error, error.code = -32601 ∧
        app.handleSingleRequest services request =
          .ok { status := 400, body := { id := carried, outcome := .error error } }) := by
  have executed := relay _ _ listed
  have exposed : Exposed numberToString namespaces methodName params requestDetails
    ((registerRpcMethods namespaces).executeRpcMethod numberToString methodName params requestDetails) :=
    exposed_executeRpcMethod distinct
  refine ⟨_, exposed, ?_, ?_, ?_⟩
  · rw [KoaJsonRpc.getRequestResult_executes executes, executed]
  · intro error reported
    rw [reported] at executed
    exact KoaJsonRpc.handleSingleRequest_error executes executed
  · intro hidden
    generalize reported : (registerRpcMethods namespaces).executeRpcMethod numberToString methodName params
      requestDetails = report at executed exposed
    cases exposed with
    | executed exposes _ _ => exact absurd exposes (hidden _)
    | rejected exposes _ => exact absurd exposes (hidden _)
    | unknown _ =>
      obtain ⟨code, status⟩ := translate_unregistered methodName requestDetails.requestId
      refine ⟨_, code, ?_⟩
      rw [KoaJsonRpc.handleSingleRequest_error executes executed, status]

end Exposure

/-- Two namespaces: an undecorated function has the name that the request asks for. -/
def exampleNamespaces : List RpcNamespace :=
  let operation (operationName : String) (decorated : Bool) (text : String) : PrototypeMember := {
    operationName
    isFunction := true
    decorated
    operationFunction := {
      signature := { name := operationName }
      execute := fun _ => .ok (.json (.str text)) } }
  [{ name := "eth", members := [operation "chainId" true "0x128", operation "cacheService" false "secret"] },
    { name := "net", members := [operation "version" true "296"] }]

private theorem distinctNames_exampleNamespaces : DistinctNames exampleNamespaces where
  separated := by decide
  names := by decide
  operations := by decide

def exampleDetails : RequestDetails := { requestId := "4711", ipAddress := "192.0.2.1" }

def registeredServices : Services where
  shouldRateLimit _ _ := .ok false
  executeRpcMethod _ given := .ok (.ofReport ((registerRpcMethods exampleNamespaces).executeRpcMethod toString
    "eth_cacheService" ((paramsOf given).getD []) exampleDetails))

def exampleHiddenRequest : Json :=
  .obj [("jsonrpc", .str "2.0"), ("id", .num 9), ("method", .str "eth_cacheService"), ("params", .arr [])]

private theorem executes_exampleHiddenRequest :
    KoaJsonRpc.Executes .byDefault registeredServices exampleHiddenRequest (.num 9) "eth_cacheService" where
  present := Json.noConfusion
  wellFormed := by decide
  carries := by decide
  method := rfl
  unlimited _ := rfl

theorem exposed_replied_hidden :
    ∃ report, Exposed toString exampleNamespaces "eth_cacheService" [] exampleDetails report ∧
      KoaJsonRpc.getRequestResult .byDefault registeredServices exampleHiddenRequest =
        KoaJsonRpc.afterExecution (withDefaultId exampleHiddenRequest) (.ok (.ofReport report)) ∧
      (∀ error, report = .error error →
        KoaJsonRpc.handleSingleRequest .byDefault registeredServices exampleHiddenRequest =
          .ok { status := translateRpcErrorToHttpStatus error, body := { id := .num 9, outcome := .error error } }) ∧
      ((∀ operation, ¬ Exposes exampleNamespaces "eth_cacheService" operation) → ∃ error, error.code = -32601 ∧
        KoaJsonRpc.handleSingleRequest .byDefault registeredServices exampleHiddenRequest =
          .ok { status := 400, body := { id := .num 9, outcome := .error error } }) :=
  exposed_replied distinctNames_exampleNamespaces executes_exampleHiddenRequest
    (fun _ _ listed => by simp only [registeredServices, listed, Option.getD_some]) rfl

end HieroRelay.Server
