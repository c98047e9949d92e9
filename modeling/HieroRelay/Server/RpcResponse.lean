import HieroRelay.Js.Value
import HieroRelay.Relay.Types

/-! JSON-RPC errors and responses, and `jsonResp`, which builds every response of
the HTTP and the WebSocket server. -/

namespace HieroRelay.Server

open HieroRelay.Js HieroRelay.Relay

/-! The errors of `RpcError.ts`, a class of its own with the same fields. -/

def parseError : JsonRpcError := { code := -32700, message := "Parse error" }

def invalidRequest : JsonRpcError := { code := -32600, message := "Invalid Request" }

def methodNotFound (methodName : String) : JsonRpcError :=
  { code := -32601, message := s!"Method {methodName} not found" }

/-- `new InternalError(err.message)`: the constructor reads `message` of the text
it is given, which has none, so its own message is always the default one. -/
def internalError : JsonRpcError := { code := -32603, message := "Internal error" }

def ipRateLimitExceeded (methodName : String) : JsonRpcError :=
  { code := -32605, message := s!"IP Rate limit exceeded on {methodName}" }

/-- The identifiers a response can carry: a string, a number or `null`. -/
inductive ResponseId where
  | null
  | str (value : String)
  | num (value : Rat)
  deriving Repr, DecidableEq

/-- The identifier in a request field, when it is one a response can carry. -/
def ResponseId.ofJson : Option Json → Option ResponseId
  | some .null => some .null
  | some (.str value) => some (.str value)
  | some (.num value) => some (.num value)
  | _ => none

/-- A response holds a result or an error, never both and never neither. -/
inductive Outcome where
  | result (value : Json)
  | error (error : JsonRpcError)
  deriving Repr

/-- `jsonrpc: '2.0'` is common to all of them and left out. -/
structure IJsonRpcResponse where
  id : ResponseId
  outcome : Outcome
  deriving Repr

/-- The operator `typeof`. -/
def typeOf : Option Json → String
  | none => "undefined"
  | some (.bool _) => "boolean"
  | some (.num _) => "number"
  | some (.str _) => "string"
  | some _ => "object"

/-- An error and a result exclude each other, an identifier of another type is
refused, and one of error and result must be there. -/
def jsonResp (id : Option Json) (error : Option JsonRpcError) (result : Option Json) :
    Except JsError IJsonRpcResponse :=
  if error.isSome && truthy result then
    .error (.error "Mutually exclusive error and result exist")
  else
    match ResponseId.ofJson id with
    | none => .error (.typeError s!"Invalid id type {typeOf id}")
    | some id =>
        match result, error with
        | some value, _ => .ok { id, outcome := .result value }
        | none, some error => .ok { id, outcome := .error error }
        | none, none => .error (.error "Missing result or error")

@[simp] theorem ofJson_none : ResponseId.ofJson none = none := rfl

@[simp] theorem ofJson_null : ResponseId.ofJson (some .null) = some .null := rfl

@[simp] theorem ofJson_str (value : String) :
    ResponseId.ofJson (some (.str value)) = some (.str value) := rfl

@[simp] theorem ofJson_num (value : Rat) :
    ResponseId.ofJson (some (.num value)) = some (.num value) := rfl

theorem jsonResp_error {id : Option Json} {carried : ResponseId}
    (valid : ResponseId.ofJson id = some carried) (error : JsonRpcError) :
    jsonResp id (some error) none = .ok { id := carried, outcome := .error error } := by
  simp [jsonResp, valid]

/-- Whatever is to be answered, the response carries the identifier it was given. -/
theorem jsonResp_id {id : Option Json} {error : Option JsonRpcError} {result : Option Json}
    {response : IJsonRpcResponse} (built : jsonResp id error result = .ok response) :
    ResponseId.ofJson id = some response.id := by
  unfold jsonResp at built
  split at built
  · cases built
  · cases valid : ResponseId.ofJson id with
    | none => simp [valid] at built
    | some carried =>
      rcases result with _ | value <;> rcases error with _ | error <;>
        simp [valid] at built <;> subst built <;> rfl

/-- The settled response of a request: it carries the identifier when there is one
to carry, otherwise there is no response but an exception. -/
def Carries (id : Option ResponseId) (settled : Except JsError IJsonRpcResponse) : Prop :=
  match id with
  | some carried => ∃ outcome, settled = .ok { id := carried, outcome }
  | none => ∃ fault, settled = .error fault

theorem carries_jsonResp_error (id : Option Json) (error : JsonRpcError) :
    Carries (ResponseId.ofJson id) (jsonResp id (some error) none) := by
  cases valid : ResponseId.ofJson id with
  | none => exact ⟨_, by simp [jsonResp, valid]; rfl⟩
  | some carried => exact ⟨_, jsonResp_error valid error⟩

theorem Carries.of_ok {id : Option ResponseId} {response : IJsonRpcResponse}
    (same : id = some response.id) : Carries id (.ok response) := by
  subst same
  exact ⟨response.outcome, rfl⟩

theorem Carries.id_eq {id : Option ResponseId} {response : IJsonRpcResponse}
    (carries : Carries id (.ok response)) : id = some response.id := by
  cases id with
  | none =>
    obtain ⟨fault, settled⟩ := carries
    cases settled
  | some carried =>
    obtain ⟨outcome, settled⟩ := carries
    cases settled
    rfl

/-- Identifiers that `request.id || null` turns into one a response can carry, and
into the same one if they were such already. -/
def survivesOrNull : Option Json → Bool
  | none => true
  | some .null => true
  | some (.bool value) => !value
  | some (.num value) => value != 0
  | some (.str value) => value != ""
  | some (.arr _) => false
  | some (.obj _) => false

theorem jsonResp_orNull {id : Option Json} (survives : survivesOrNull id = true) (error : JsonRpcError) :
    jsonResp (orElse id (some .null)) (some error) none =
      .ok { id := (ResponseId.ofJson id).getD .null, outcome := .error error } := by
  rcases id with _ | _ | ⟨_ | _⟩ | value | text | items | fields <;>
    simp_all [survivesOrNull, orElse, truthy, jsonResp, ResponseId.ofJson]

/-- Any other identifier is refused, or is a string or a number and replaced. -/
theorem jsonResp_orNull_lost {id : Option Json} (lost : survivesOrNull id = false) (error : JsonRpcError) :
    (ResponseId.ofJson id = none ∧
      ∃ fault, jsonResp (orElse id (some .null)) (some error) none = .error fault) ∨
    ((∃ carried, ResponseId.ofJson id = some carried ∧ carried ≠ .null) ∧
      jsonResp (orElse id (some .null)) (some error) none = .ok { id := .null, outcome := .error error }) := by
  rcases id with _ | _ | ⟨_ | _⟩ | value | text | items | fields <;>
    simp_all [survivesOrNull, orElse, truthy, jsonResp, ResponseId.ofJson]

theorem jsonResp_refused {id : Option Json} (invalid : ResponseId.ofJson id = none)
    (error : Option JsonRpcError) (result : Option Json) :
    ∃ fault, jsonResp id error result = .error fault := by
  cases built : jsonResp id error result with
  | error fault => exact ⟨fault, rfl⟩
  | ok response =>
    have valid := jsonResp_id built
    rw [invalid] at valid
    cases valid

end HieroRelay.Server
