import HieroRelay.Relay.Types

/-! What handlers return and throw, and what the dispatcher reports of it. -/

namespace HieroRelay.Relay

open HieroRelay.Js

/-- Errors by the classes the dispatcher tells apart. `fields` are the own fields of an
`Error` object, which does not count its message among them. -/
inductive HandlerError where
  | jsonRpc (error : JsonRpcError)
  | sdkClient (isGrpcTimeout : Bool) (message : String) (fields : List (String × Json))
  | mirrorNodeClient (statusCode : Nat) (message : String) (fields : List (String × Json))
  | other (message : String) (fields : List (String × Json))

/-- A value as a handler returns it: an error may be returned instead of thrown. -/
inductive JsValue where
  | undefined
  | json (value : Json)
  | error (error : HandlerError)

/-- What `JSON.stringify` writes of an error object: its class is not written. -/
def HandlerError.toJson : HandlerError → Json
  | .jsonRpc error =>
      .obj ([("code", .num error.code)] ++ (error.data.map fun data => ("data", .str data)).toList ++
        [("message", .str error.message)])
  | .sdkClient _ _ fields => .obj fields
  | .mirrorNodeClient _ _ fields => .obj fields
  | .other _ fields => .obj fields

/-- The JSON text of a value, read as the JSON value it denotes. -/
def JsValue.jsonText : JsValue → Option Json
  | .undefined => none
  | .json value => some value
  | .error fault => some fault.toJson

def JsValue.truthy : JsValue → Bool
  | .undefined => false
  | .json value => Js.truthy (some value)
  | .error _ => true

def HandlerError.message : HandlerError → String
  | .jsonRpc error => error.message
  | .sdkClient _ message _ => message
  | .mirrorNodeClient _ message _ => message
  | .other message _ => message

/-- `instanceof JsonRpcError`, `SDKClientError` or `MirrorNodeClientError`. -/
def HandlerError.isRethrown : HandlerError → Bool
  | .other _ _ => false
  | _ => true

/-- Errors that a handler returns are thrown all the same. -/
def processRpcMethod (outcome : Except HandlerError JsValue) : Except HandlerError JsValue :=
  match outcome with
  | .ok (.error error) => if error.isRethrown then .error error else .ok (.error error)
  | outcome => outcome

def handleRpcMethodError (error : HandlerError) (requestId : String) : JsonRpcError :=
  let errorMessage := if error.message == "" then "Unknown error" else error.message
  match error with
  | .jsonRpc error => error.newWithRequestId requestId
  | .sdkClient true _ _ => predefined.REQUEST_TIMEOUT.newWithRequestId requestId
  | .mirrorNodeClient statusCode message _ =>
      (predefined.MIRROR_NODE_UPSTREAM_FAIL statusCode
        (if message == "" then "Mirror node upstream failure" else message)).newWithRequestId requestId
  | _ => (predefined.INTERNAL_ERROR errorMessage).newWithRequestId requestId

/-- What a request is told: an error or a result. -/
inductive Report where
  | error (error : JsonRpcError)
  | result (value : JsValue)

/-- The execution phase and the error handling of `dispatch`. -/
def dispatch (outcome : Except HandlerError JsValue) (requestId : String) : Report :=
  match processRpcMethod outcome with
  | .error error => .error (handleRpcMethodError error requestId)
  | .ok value => .result value

/-- The same answer to two requests: the same error, each time with the identifier of
the request, or results with the same JSON text. -/
inductive SameAnswer (firstId laterId : String) : Report → Report → Prop where
  | error (error : JsonRpcError) :
      SameAnswer firstId laterId (.error (error.newWithRequestId firstId))
        (.error (error.newWithRequestId laterId))
  | result {first later : JsValue} (same : first.jsonText = later.jsonText) :
      SameAnswer firstId laterId (.result first) (.result later)

/-- The error that is reported of a handler's error, before the identifier is added. -/
theorem handleRpcMethodError_eq (error : HandlerError) :
    ∃ reported : JsonRpcError, ∀ requestId,
      handleRpcMethodError error requestId = reported.newWithRequestId requestId := by
  cases error with
  | jsonRpc error => exact ⟨error, fun _ => rfl⟩
  | sdkClient isGrpcTimeout message fields =>
    cases isGrpcTimeout with
    | true => exact ⟨_, fun _ => rfl⟩
    | false => exact ⟨_, fun _ => rfl⟩
  | mirrorNodeClient statusCode message fields => exact ⟨_, fun _ => rfl⟩
  | other message fields => exact ⟨_, fun _ => rfl⟩

theorem sameAnswer_of_eq (outcome : Except HandlerError JsValue) (firstId laterId : String) :
    SameAnswer firstId laterId (dispatch outcome firstId) (dispatch outcome laterId) := by
  unfold dispatch
  cases processRpcMethod outcome with
  | error error =>
    obtain ⟨reported, same⟩ := handleRpcMethodError_eq error
    simp only [same]
    exact .error reported
  | ok value => exact .result rfl

end HieroRelay.Relay
