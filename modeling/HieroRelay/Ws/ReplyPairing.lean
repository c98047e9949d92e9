import HieroRelay.Js.Text
import HieroRelay.Ws.JsonRpcController

/-! Every message is answered by one reply, and the reply carries the identifier of
its request: which requests break this, because a check throws outside the `try`
block or an error response is built without the identifier. -/

namespace HieroRelay.Ws.WsServer

open HieroRelay.Js HieroRelay.Relay HieroRelay.Server

variable (server : WsServer) (services : WsServices)

/-- A string or number identifier of the request is the one the response carries. -/
def KeepsId (request : Json) (carried : ResponseId) : Prop :=
  ∀ id, ResponseId.ofJson (ownField request "id") = some id → id ≠ .null → carried = id

/-- The request has no string or number identifier that a response could lose. -/
def LosesNothing (request : Json) : Prop :=
  KeepsId request .null

/-- A response can carry the identifier, and this keeps the one of the request as it was written. -/
def Under (written : Json) (id : Option ResponseId) : Prop :=
  ∃ carried, id = some carried ∧ KeepsId written carried

/-- One message is sent for a text that parses: the response to a single request; for an array, the
array of the responses to its items in order. The server answers what it reads of the text. -/
def Paired (parse : String → Option Json) (services : Nat → WsServices) (msg : String) : Prop :=
  match parse msg with
  | none => True
  | some (.arr items) => ∃ decoded responses, parse (asciiText msg) = some (.arr decoded) ∧
      server.sent parse services msg = [.batch responses] ∧
      decoded.length = items.length ∧ responses.length = items.length ∧
      ∀ (index : Nat) (written item : Json) (response : IJsonRpcResponse), items[index]? = some written →
        decoded[index]? = some item → responses[index]? = some response →
        server.batchItem (services index) item = .ok response ∧ KeepsId written response.id
  | some request =>
      (∃ response, server.sent parse services msg = [.single response] ∧ KeepsId request response.id) ∨
        ∃ error, server.sent parse services msg = [.undecoded error] ∧ LosesNothing request

/-- `request.id || null` -/
def idOrNull (request : Json) : Option ResponseId :=
  ResponseId.ofJson (orElse (ownField request "id") (some .null))

/-- When a supported method is answered: the methods of the subscription limit are
answered under the identifier unless subscriptions are disabled, which loses it; any
other method must be spelled as in the rate limit table, and the limiter must answer;
the identifier is lost when it limits. -/
def RepliesToSupported (written request : Json) (method : String) : Prop :=
  if isSubscriptionMethod method then
    if (method == "eth_subscribe" && !services.validateSubscriptionLimit) || server.subscriptionsEnabled then
      Under written (responseId request)
    else LosesNothing written
  else
    match server.methodConfiguration.lookup method with
    | none => False
    | some total =>
        match services.shouldRateLimit method total with
        | .error _ => False
        | .ok true => LosesNothing written
        | .ok false => Under written (responseId request)

/-- When a request is answered under the identifier that was written. -/
def Replies (written request : Json) : Prop :=
  request ≠ .null ∧ server.labelError (ownField request "method") = none ∧
    if wellFormed server.requestIdIsOptional request then
      match ownField request "method" with
      | some (.str method) =>
          if server.verifySupportedMethod method then server.RepliesToSupported services written request method
          else Under written (idOrNull (withDefaultId request))
      | _ => False
    else
      match server.invalidRequestWarning request with
      | .ok _ => Under written (idOrNull request)
      | .error _ => False

/-- When an item of a batch is. -/
def RepliesToItem (written item : Json) : Prop :=
  item ≠ .null ∧
    match includesString server.batchRequestsDisallowedMethods (ownField item "method") with
    | some _ => Under written (ResponseId.ofJson (ownField item "id"))
    | none => server.Replies services written item

/-- When a single request is, by what the server reads in its place: nothing at all only if there is no
identifier to lose. -/
def RepliesToSingle (written : Json) : Option Json → Prop
  | none => LosesNothing written
  | some (.arr _) => False
  | some request => server.Replies services written request

/-- When a batch is: the server reads as many items, and answers each. -/
def RepliesToBatch (services : Nat → WsServices) (items : List Json) : Option Json → Prop
  | some (.arr decoded) => decoded.length = items.length ∧
      ∀ (index : Nat) (written item : Json), items[index]? = some written → decoded[index]? = some item →
        server.RepliesToItem (services index) written item
  | _ => False

/-- When a message is, by what was written and what the server reads. -/
def RepliesToMessage (services : Nat → WsServices) : (written read : Option Json) → Prop
  | none, _ => True
  | some (.arr items), read => server.RepliesToBatch services items read
  | some written, read => server.RepliesToSingle (services 0) written read

/-- A settled response that is there and keeps the identifier. -/
def AnswersUnderId (written : Json) (settled : Except JsError IJsonRpcResponse) : Prop :=
  ∃ response, settled = .ok response ∧ KeepsId written response.id

theorem not_answersUnderId_error (written : Json) (err : JsError) :
    ¬ AnswersUnderId written (.error err) := by
  rintro ⟨response, settled, -⟩
  cases settled

/-- A response under an identifier answers exactly when there is one to carry, the one written. -/
theorem answersUnderId_iff_of_carries (written : Json) {id : Option ResponseId}
    {settled : Except JsError IJsonRpcResponse} (carries : Carries id settled) :
    AnswersUnderId written settled ↔ Under written id := by
  cases id with
  | none =>
    obtain ⟨fault, rfl⟩ := carries
    simp [not_answersUnderId_error, Under]
  | some carried =>
    obtain ⟨outcome, rfl⟩ := carries
    simp [AnswersUnderId, Under]

/-- A response without identifier answers exactly when there was none to lose. -/
theorem answersUnderId_null_iff (written : Json) (error : JsonRpcError) :
    AnswersUnderId written (jsonResp (some .null) (some error) none) ↔ LosesNothing written := by
  simp [AnswersUnderId, jsonResp, LosesNothing]

/-- An error under `request.id || null`. -/
theorem answersUnderId_orNull_iff (written request : Json) (error : JsonRpcError) :
    AnswersUnderId written (jsonResp (orElse (ownField request "id") (some .null)) (some error) none) ↔
      Under written (idOrNull request) :=
  answersUnderId_iff_of_carries written (carries_jsonResp_error _ error)

theorem mapError_eq_ok {settled : Except JsError IJsonRpcResponse} {response : IJsonRpcResponse}
    (handled : settled.mapError Thrown.js = .ok response) : settled = .ok response := by
  cases settled with
  | error err => cases handled
  | ok value =>
    cases handled
    rfl

/-- A handler's own response carries the identifier, unless subscriptions are disabled. -/
theorem handleMethod_id {request params : Json} {method : String} {response : IJsonRpcResponse}
    (present : request ≠ .null)
    (served : isSubscriptionMethod method = true → server.subscriptionsEnabled = true)
    (handled : server.handleMethod services request method params = .ok response) :
    ResponseId.ofJson (ownField request "id") = some response.id := by
  unfold handleMethod at handled
  split at handled
  · rename_i same
    have enabled := served (by simp [isSubscriptionMethod, same])
    simp only [handleEthSubscribe, enabled, Bool.not_true, Bool.false_eq_true, ↓reduceIte] at handled
    split at handled
    · unfold handleEthSubscribeLogs at handled
      cases filters : constructValidLogSubscriptionFilter (elementAt params 1) with
      | error thrown => simp [filters] at handled
      | ok valid =>
        cases accepted : services.validateSubscribeEthLogsParams valid with
        | error thrown => simp [filters, accepted] at handled
        | ok _ =>
          simp only [filters, accepted, ok_bind] at handled
          split at handled
          · cases handled
          · exact jsonResp_id (mapError_eq_ok handled)
    · split at handled
      · unfold handleEthSubscribeNewHeads at handled
        split at handled
        · cases handled
        · exact jsonResp_id (mapError_eq_ok handled)
      · cases handled
  · split at handled
    · rename_i same
      have enabled := served (by simp [isSubscriptionMethod, same])
      simp only [handleEthUnsubscribe, enabled, Bool.not_true, Bool.false_eq_true, ↓reduceIte] at handled
      exact jsonResp_id (mapError_eq_ok handled)
    · have carries := KoaJsonRpc.afterExecution_carries present (services.executeRpcMethod method params)
      have answered : KoaJsonRpc.afterExecution request (services.executeRpcMethod method params) =
        .ok response := mapError_eq_ok handled
      exact Carries.id_eq (answered ▸ carries)

theorem processMethod_carries {request : Json} (method : String) (params : Json) (present : request ≠ .null)
    (served : isSubscriptionMethod method = true → server.subscriptionsEnabled = true) :
    Carries (ResponseId.ofJson (ownField request "id"))
      (server.processMethod services request method params) := by
  unfold processMethod
  split
  · rename_i response handled
    exact Carries.of_ok (server.handleMethod_id services present served handled)
  · exact carries_jsonResp_error _ _

/-- With subscriptions disabled, both subscription methods are refused without an
identifier. -/
theorem processMethod_disabled {request params : Json} {method : String}
    (subscription : isSubscriptionMethod method = true) (disabled : server.subscriptionsEnabled = false) :
    server.processMethod services request method params =
      jsonResp (some .null) (some predefined.WS_SUBSCRIPTIONS_DISABLED) none := by
  have named : method = "eth_subscribe" ∨ method = "eth_unsubscribe" := by
    simpa [isSubscriptionMethod] using subscription
  rcases named with rfl | rfl <;>
    simp [processMethod, handleMethod, handleEthSubscribe, handleEthUnsubscribe, disabled,
      sendSubscriptionsDisabledError, jsonResp, Except.mapError]

private theorem serveSupported_answers_iff (written : Json) {request : Json} (method : String) (params : Json)
    (present : request ≠ .null) (valid : wellFormed server.requestIdIsOptional request = true) :
    AnswersUnderId written (server.serveSupported services (withDefaultId request) method params) ↔
      server.RepliesToSupported services written request method := by
  have still := withDefaultId_ne_null present
  have underId : ∀ {settled : Except JsError IJsonRpcResponse},
      Carries (ResponseId.ofJson (ownField (withDefaultId request) "id")) settled →
      (AnswersUnderId written settled ↔ Under written (responseId request)) := by
    intro settled carries
    rw [ofJson_id_withDefaultId server.requestIdIsOptional valid] at carries
    exact answersUnderId_iff_of_carries written carries
  cases subscription : isSubscriptionMethod method with
  | true =>
    by_cases limited : (method == "eth_subscribe" && !services.validateSubscriptionLimit) = true
    · simpa [serveSupported, shouldRateLimitOnMethod, RepliesToSupported, subscription, limited] using
        underId (carries_jsonResp_error _ _)
    · cases enabled : server.subscriptionsEnabled with
      | true =>
        have handled := underId (server.processMethod_carries services method params still fun _ => enabled)
        simpa [serveSupported, shouldRateLimitOnMethod, RepliesToSupported, subscription, limited, enabled]
          using handled
      | false =>
        have refused := answersUnderId_null_iff written predefined.WS_SUBSCRIPTIONS_DISABLED
        simpa [serveSupported, shouldRateLimitOnMethod, RepliesToSupported, subscription, limited, enabled,
          server.processMethod_disabled services subscription enabled] using refused
  | false =>
    have notSubscribe : (method == "eth_subscribe") = false := by
      simp only [isSubscriptionMethod, Bool.or_eq_false_iff] at subscription
      exact subscription.1
    cases total : server.methodConfiguration.lookup method with
    | none =>
      simp [serveSupported, shouldRateLimitOnMethod, RepliesToSupported, subscription, total,
        not_answersUnderId_error]
    | some total' =>
      rcases limited : services.shouldRateLimit method total' with err | ⟨_ | _⟩
      · simp [serveSupported, shouldRateLimitOnMethod, RepliesToSupported, subscription, total, limited,
          not_answersUnderId_error]
      · have handled := underId (server.processMethod_carries services method params still (by simp [subscription]))
        simpa [serveSupported, shouldRateLimitOnMethod, RepliesToSupported, subscription, total, limited,
          notSubscribe] using handled
      · have refused := answersUnderId_null_iff written (ipRateLimitExceeded method)
        simpa [serveSupported, shouldRateLimitOnMethod, RepliesToSupported, subscription, total, limited]
          using refused

/-- What becomes of one request. -/
theorem getRequestResult_answers_iff (written request : Json) :
    AnswersUnderId written (server.getRequestResult services request) ↔ server.Replies services written request := by
  by_cases present : request = .null
  · subst present
    simp [getRequestResult, getProperty, Replies, not_answersUnderId_error]
  · cases counted : server.labelError (ownField request "method") with
    | some err =>
      simp [getRequestResult, getProperty_ok present, countMethod, counted, Replies, not_answersUnderId_error]
    | none =>
      cases valid : wellFormed server.requestIdIsOptional request with
      | false =>
        cases printed : server.invalidRequestWarning request with
        | error err =>
          simp [getRequestResult, getProperty_ok present, countMethod, counted, validateJsonRpcRequest,
            validateRequest_malformed _ _ present valid, printed, Except.map, Replies, valid,
            not_answersUnderId_error]
        | ok warning =>
          have refused := answersUnderId_orNull_iff written request invalidRequest
          simpa [getRequestResult, getProperty_ok present, countMethod, counted, validateJsonRpcRequest,
            validateRequest_malformed _ _ present valid, printed, Except.map, Replies, valid, present]
            using refused
      | true =>
        have served : ∀ params, AnswersUnderId written
            (server.serveValid services (withDefaultId request) (ownField request "method") params) ↔
            server.Replies services written request := by
          intro params
          rcases method : ownField request "method" with _ | _ | flag | value | name | items | fields
          case some.str =>
            have accepted : server.labelError (some (.str name)) = none := method ▸ counted
            cases supported : server.verifySupportedMethod name with
            | true =>
              have answered := server.serveSupported_answers_iff services written name params present valid
              simpa [serveValid, supported, Replies, present, accepted, method, valid] using answered
            | false =>
              have refused := answersUnderId_orNull_iff written (withDefaultId request) (methodNotFound name)
              simpa [serveValid, supported, Replies, present, accepted, method, valid] using refused
          all_goals simp [serveValid, Replies, method, valid, not_answersUnderId_error]
        rw [← served (if truthy (ownField request "params") then (ownField request "params").getD (.arr [])
          else .arr [])]
        simp [getRequestResult, getProperty_ok present, countMethod, counted, validateJsonRpcRequest,
          validateRequest_wellFormed _ _ present valid]

theorem batchItem_answers_iff (written item : Json) :
    AnswersUnderId written (server.batchItem services item) ↔ server.RepliesToItem services written item := by
  by_cases present : item = .null
  · subst present
    simp [batchItem, getProperty, RepliesToItem, not_answersUnderId_error]
  · cases permitted : includesString server.batchRequestsDisallowedMethods (ownField item "method") with
    | some method =>
      have refused := answersUnderId_iff_of_carries written (carries_jsonResp_error (ownField item "id")
        (predefined.BATCH_REQUESTS_METHOD_NOT_PERMITTED method))
      simpa [batchItem, getProperty_ok present, permitted, RepliesToItem, present] using refused
    | none =>
      have served := server.getRequestResult_answers_iff services written item
      simpa [batchItem, getProperty_ok present, permitted, RepliesToItem, present] using served

section Messages
variable {parse : String → Option Json} {services : Nat → WsServices} {msg : String}

/-- A text that the server cannot read is refused without an identifier. -/
theorem sent_undecoded (unread : parse (asciiText msg) = none) :
    server.sent parse services msg = [.undecoded predefined.INVALID_REQUEST] := by
  rw [sent, onMessage, unread]

private theorem sent_single_iff {request : Json} (read : parse (asciiText msg) = some request)
    (single : ∀ items, request ≠ .arr items) (message : WsMessage) :
    server.sent parse services msg = [message] ↔
      ∃ response, server.getRequestResult (services 0) request = .ok response ∧ message = .single response := by
  have handled : server.onRequest services request =
      (do return .single (← server.getRequestResult (services 0) request)) := by
    cases request with
    | arr items => exact absurd rfl (single items)
    | _ => rfl
  rw [sent, onMessage, read]
  dsimp only
  rw [handled]
  cases served : server.getRequestResult (services 0) request <;> simp [eq_comm]

/-- For a batch within the limit, the responses to its items, where each gets one. -/
theorem sent_batch_iff {decoded : List Json} (read : parse (asciiText msg) = some (.arr decoded))
    (enabled : server.wsBatchRequestsEnabled = true) (within : decoded.length ≤ server.wsBatchRequestsMaxSize)
    (message : WsMessage) :
    server.sent parse services msg = [message] ↔
      ∃ responses, promiseAll (decoded.mapIdx fun index item => server.batchItem (services index) item) =
        .ok responses ∧ message = .batch responses := by
  rw [sent, onMessage, read]
  cases settled : promiseAll (decoded.mapIdx fun index item => server.batchItem (services index) item) <;>
    simp [onRequest, enabled, Nat.not_lt.mpr within, settled, eq_comm]

/-- What the server reads as a batch is not answered by a response of its own. -/
theorem sent_batch {decoded : List Json} (read : parse (asciiText msg) = some (.arr decoded)) {message : WsMessage}
    (sends : server.sent parse services msg = [message]) : ∃ responses, message = .batch responses := by
  rw [sent, onMessage, read] at sends
  dsimp only [onRequest] at sends
  split at sends
  next own handled =>
    obtain rfl := List.singleton_inj.mp sends
    split at handled
    · exact ⟨_, (Except.ok.inj handled).symm⟩
    · split at handled
      · exact ⟨_, (Except.ok.inj handled).symm⟩
      · obtain ⟨responses, -, built⟩ := bind_eq_ok_iff.mp handled
        exact ⟨responses, (Except.ok.inj built).symm⟩
  next => cases sends

private theorem paired_single_iff (written : Json) :
    ((∃ response, server.sent parse services msg = [.single response] ∧ KeepsId written response.id) ∨
        ∃ error, server.sent parse services msg = [.undecoded error] ∧ LosesNothing written) ↔
      server.RepliesToSingle (services 0) written (parse (asciiText msg)) := by
  cases read : parse (asciiText msg) with
  | none => simp [server.sent_undecoded read, RepliesToSingle]
  | some request =>
    by_cases batch : ∃ decoded, request = .arr decoded
    · obtain ⟨decoded, rfl⟩ := batch
      refine iff_of_false ?_ id
      rintro (⟨response, sends, -⟩ | ⟨error, sends, -⟩)
      · obtain ⟨responses, other⟩ := server.sent_batch read sends
        cases other
      · obtain ⟨responses, other⟩ := server.sent_batch read sends
        cases other
    · have single := not_exists.mp batch
      have replies : server.RepliesToSingle (services 0) written (some request) ↔
          server.Replies (services 0) written request := by
        cases request with
        | arr decoded => exact absurd rfl (single decoded)
        | _ => exact Iff.rfl
      rw [replies, ← server.getRequestResult_answers_iff]
      simp [server.sent_single_iff read single, AnswersUnderId]

private theorem paired_batch_iff {items : List Json} (enabled : server.wsBatchRequestsEnabled = true)
    (within : items.length ≤ server.wsBatchRequestsMaxSize) :
    (∃ decoded responses, parse (asciiText msg) = some (.arr decoded) ∧
        server.sent parse services msg = [.batch responses] ∧
        decoded.length = items.length ∧ responses.length = items.length ∧
        ∀ (index : Nat) (written item : Json) (response : IJsonRpcResponse), items[index]? = some written →
          decoded[index]? = some item → responses[index]? = some response →
          server.batchItem (services index) item = .ok response ∧ KeepsId written response.id) ↔
      server.RepliesToBatch services items (parse (asciiText msg)) := by
  constructor
  · rintro ⟨decoded, responses, read, -, sameLength, answered, answers⟩
    rw [read]
    refine ⟨sameLength, fun index written item here decodedHere => ?_⟩
    rw [← server.batchItem_answers_iff]
    obtain ⟨inside, -⟩ := List.getElem?_eq_some_iff.mp here
    have found := List.getElem?_eq_getElem (answered ▸ inside : index < responses.length)
    exact ⟨responses[index], answers index written item _ here decodedHere found⟩
  · intro replies
    cases read : parse (asciiText msg) with
    | none =>
      rw [read] at replies
      exact replies.elim
    | some request =>
      rw [read] at replies
      cases request with
      | arr decoded =>
        obtain ⟨sameLength, replies⟩ := replies
        have served : ∀ (index : Nat) (item : Json), decoded[index]? = some item → ∃ response,
            server.batchItem (services index) item = .ok response ∧
              ∀ written, items[index]? = some written → KeepsId written response.id := by
          intro index item here
          obtain ⟨inside, -⟩ := List.getElem?_eq_some_iff.mp here
          have written := List.getElem?_eq_getElem (sameLength ▸ inside : index < items.length)
          obtain ⟨response, answered, keeps⟩ :=
            (server.batchItem_answers_iff _ _ _).mpr (replies index _ item written here)
          refine ⟨response, answered, fun other found => ?_⟩
          obtain rfl := Option.some.inj (written.symm.trans found)
          exact keeps
        obtain ⟨responses, joined, answered, answers⟩ := (promiseAll_mapIdx_iff decoded).mpr served
        refine ⟨decoded, responses, rfl, ?_, sameLength, answered.trans sameLength, ?_⟩
        · exact (server.sent_batch_iff read enabled (sameLength ▸ within) _).mpr ⟨responses, joined, rfl⟩
        · intro index written item response here decodedHere responseHere
          obtain ⟨own, keeps⟩ := answers index item response decodedHere responseHere
          exact ⟨own, keeps written here⟩
      | _ => exact replies.elim

end Messages

/-- A message within the batch limit, with batches enabled for an array, is answered by one reply
under the identifiers of its requests exactly when every request of it is answered. -/
theorem paired_iff (parse : String → Option Json) (services : Nat → WsServices) (msg : String)
    (batch : ∀ items, parse msg = some (.arr items) →
      server.wsBatchRequestsEnabled = true ∧ items.length ≤ server.wsBatchRequestsMaxSize) :
    server.Paired parse services msg ↔
      server.RepliesToMessage services (parse msg) (parse (asciiText msg)) := by
  rw [Paired]
  cases parsed : parse msg with
  | none => exact iff_of_true trivial trivial
  | some request =>
    cases request with
    | arr items =>
      obtain ⟨enabled, within⟩ := batch items parsed
      exact server.paired_batch_iff enabled within
    | _ => exact server.paired_single_iff _

/-- A call of a method with one parameter. -/
def callRequest (id method : String) : Json :=
  .obj [("jsonrpc", .str "2.0"), ("id", .str id), ("method", .str method), ("params", .arr [.str "latest"])]

/-- The text of a value, and a parser that knows no other texts than those of some values. -/
def textOf (value : Json) : String := Js.stringify toString value

def parseOf (known : List Json) (text : String) : Option Json :=
  known.find? fun value => textOf value == text

/-- Services that limit nothing and answer every method with the same value. -/
def openServices : WsServices where
  shouldRateLimit := fun _ _ => .ok false
  validateSubscriptionLimit := true
  executeRpcMethod := fun _ _ => .ok (.value (some (.str "0x127")))
  validateSubscribeEthLogsParams := fun _ => .ok ()
  subscribe := fun _ _ => "0x1"
  unsubscribe := fun _ => 1

theorem under_call (id method : String) : Under (callRequest id method) (responseId (callRequest id method)) :=
  ⟨.str id, rfl, fun _ own _ => Option.some.inj own⟩

def twoCalls : Json := .arr [callRequest "a" "eth_call", callRequest "b" "eth_blockNumber"]

theorem parseOf_textOf (value : Json) : parseOf [value] (textOf value) = some value := by
  simp [parseOf]

private theorem asciiText_twoCalls : asciiText (textOf twoCalls) = textOf twoCalls := by
  decide +kernel

/-- A batch of two calls is answered by one message with two responses. -/
theorem paired_two_calls : byDefault.Paired (parseOf [twoCalls]) (fun _ => openServices) (textOf twoCalls) := by
  refine (paired_iff byDefault (parseOf [twoCalls]) (fun _ => openServices) (textOf twoCalls) ?_).mpr ?_
  · intro items parsed
    rw [parseOf_textOf] at parsed
    cases parsed
    exact ⟨rfl, by decide⟩
  · rw [asciiText_twoCalls, parseOf_textOf]
    refine ⟨rfl, fun index written item here decodedHere => ?_⟩
    obtain rfl := Option.some.inj (here.symm.trans decodedHere)
    have member := List.mem_of_getElem? here
    simp only [List.mem_cons, List.not_mem_nil, or_false] at member
    rcases member with rfl | rfl
    · exact ⟨by simp [callRequest], by simp [callRequest], rfl, under_call "a" "eth_call"⟩
    · exact ⟨by simp [callRequest], by simp [callRequest], rfl, under_call "b" "eth_blockNumber"⟩

/-- A supported method in another spelling is left without a reply. -/
theorem not_paired_other_spelling : ¬ byDefault.Paired (parseOf [callRequest "a" "eth_CALL"])
    (fun _ => openServices) (textOf (callRequest "a" "eth_CALL")) := by
  have read : parseOf [callRequest "a" "eth_CALL"] (asciiText (textOf (callRequest "a" "eth_CALL"))) =
      some (callRequest "a" "eth_CALL") := by decide +kernel
  have silent : byDefault.sent (parseOf [callRequest "a" "eth_CALL"]) (fun _ => openServices)
      (textOf (callRequest "a" "eth_CALL")) = [] := by
    rw [sent, onMessage, read]
    rfl
  rw [Paired, parseOf_textOf]
  rintro (⟨response, replied, -⟩ | ⟨error, replied, -⟩)
  all_goals
    rw [silent] at replied
    cases replied

end HieroRelay.Ws.WsServer
