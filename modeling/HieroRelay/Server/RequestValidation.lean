import HieroRelay.Server.RpcResponse

/-! The checks that a JSON-RPC request has to pass. The HTTP and the WebSocket server
make the same ones; `optional` is the setting `REQUEST_ID_IS_OPTIONAL` and `warning`
the text they log about a request that fails. -/

namespace HieroRelay.Server

open HieroRelay.Js

variable (optional : Bool) (warning : Json → Except JsError String)

/-- Whether the identifier is missing for good, and the body with the default
identifier that is put in when identifiers are optional. -/
def hasInvalidRequestId (body : Json) : Except JsError (Bool × Json) := do
  let hasId ← hasOwnProperty body "id"
  if optional && !hasId then
    return (false, setField body "id" (.str "0"))
  return (!hasId, body)

/-- The chain of tests in the condition, with the body as the tests leave it. -/
def failsJsonRpcChecks (body : Json) : Except JsError (Bool × Json) := do
  if !isString (← getProperty body "jsonrpc") "2.0" then
    return (true, body)
  if !(← hasOwnProperty body "method") then
    return (true, body)
  let (invalidId, body) ← hasInvalidRequestId optional body
  if invalidId then
    return (true, body)
  return (!(← hasOwnProperty body "id"), body)

/-- A request that fails is logged first; writing the text may throw. -/
def validateRequest (body : Json) : Except JsError (Bool × Json) := do
  let (invalid, body) ← failsJsonRpcChecks optional body
  if invalid then
    let _ ← warning body
    return (false, body)
  return (true, body)

/-- The requests that validation lets through. -/
def wellFormed (request : Json) : Bool :=
  isString (ownField request "jsonrpc") "2.0" && (ownField request "method").isSome &&
    (optional || (ownField request "id").isSome)

/-- The request with the default identifier in place of a missing one. -/
def withDefaultId (request : Json) : Json :=
  if (ownField request "id").isSome then request else setField request "id" (.str "0")

/-- The identifier that a response to a well-formed request has to carry. -/
def responseId (request : Json) : Option ResponseId :=
  if (ownField request "id").isSome then ResponseId.ofJson (ownField request "id") else some (.str "0")

theorem isObject_of_ownField {value : Json} {name : String} (found : (ownField value name).isSome = true) :
    ∃ fields, value = .obj fields := by
  cases value with
  | obj fields => exact ⟨fields, rfl⟩
  | _ => cases found

theorem withDefaultId_ne_null {request : Json} (present : request ≠ .null) :
    withDefaultId request ≠ .null := by
  unfold withDefaultId
  split
  · exact present
  · cases request <;> simp_all [setField]

theorem ofJson_id_withDefaultId {request : Json} (valid : wellFormed optional request = true) :
    ResponseId.ofJson (ownField (withDefaultId request) "id") = responseId request := by
  unfold withDefaultId responseId
  split
  · rfl
  · rename_i missing
    have method : (ownField request "method").isSome = true := by
      simp only [wellFormed, Bool.and_eq_true] at valid
      exact valid.1.2
    rw [ownField_setField_new (isObject_of_ownField method) (by simpa using missing)]
    rfl

theorem failsJsonRpcChecks_eq {request : Json} (present : request ≠ .null) :
    failsJsonRpcChecks optional request =
      .ok (!wellFormed optional request, if wellFormed optional request then withDefaultId request else request) := by
  cases version : isString (ownField request "jsonrpc") "2.0" with
  | false => simp [failsJsonRpcChecks, getProperty_ok present, wellFormed, version]
  | true =>
    cases method : (ownField request "method").isSome with
    | false =>
      simp [failsJsonRpcChecks, getProperty_ok present, hasOwnProperty_ok present, wellFormed, version, method]
    | true =>
      have isObject := isObject_of_ownField method
      cases id : (ownField request "id").isSome with
      | true =>
        simp [failsJsonRpcChecks, hasInvalidRequestId, getProperty_ok present, hasOwnProperty_ok present,
          wellFormed, withDefaultId, version, method, id]
      | false =>
        cases optional with
        | false =>
          simp [failsJsonRpcChecks, hasInvalidRequestId, getProperty_ok present,
            hasOwnProperty_ok present, wellFormed, version, method, id]
        | true =>
          have added : ownField (setField request "id" (.str "0")) "id" = some (.str "0") :=
            ownField_setField_new isObject (by simpa using id)
          have still : setField request "id" (.str "0") ≠ .null := by
            have kept := withDefaultId_ne_null present
            simpa [withDefaultId, id] using kept
          simp [failsJsonRpcChecks, hasInvalidRequestId, getProperty_ok present, hasOwnProperty_ok present,
            hasOwnProperty_ok still, wellFormed, withDefaultId, version, method, id, added]

theorem validateRequest_wellFormed {request : Json} (present : request ≠ .null)
    (valid : wellFormed optional request = true) :
    validateRequest optional warning request = .ok (true, withDefaultId request) := by
  simp [validateRequest, failsJsonRpcChecks_eq optional present, valid]

theorem validateRequest_malformed {request : Json} (present : request ≠ .null)
    (invalid : wellFormed optional request = false) :
    validateRequest optional warning request =
      (warning request).map fun _ => (false, request) := by
  cases printed : warning request <;>
    simp [validateRequest, failsJsonRpcChecks_eq optional present, invalid, printed, Except.map]

end HieroRelay.Server
