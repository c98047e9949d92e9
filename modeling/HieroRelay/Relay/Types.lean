import HieroRelay.Js.Value

/-! Types of the relay package that its servers share: the details of a request and
the errors of JSON-RPC. -/

namespace HieroRelay.Relay

open HieroRelay.Js

/-- Who sent a request: `ipAddress` decides which limits it is charged to. -/
structure RequestDetails where
  requestId : String
  ipAddress : String
  connectionId : Option String := none
  deriving Repr, DecidableEq

def RequestDetails.formattedRequestId (requestDetails : RequestDetails) : String :=
  if requestDetails.requestId ≠ "" then s!"[Request ID: {requestDetails.requestId}]" else ""

structure JsonRpcError where
  code : Int
  message : String
  data : Option String := none
  deriving Repr, DecidableEq

/-- The error with the identifier of the request in its message, unless one is there. -/
def JsonRpcError.newWithRequestId (error : JsonRpcError) (requestId : String) : JsonRpcError :=
  if requestId != "" && !includesText error.message "Request ID: " then
    { error with message := s!"[Request ID: {requestId}] {error.message}" }
  else error

namespace predefined

def INTERNAL_ERROR (message : String) : JsonRpcError :=
  { code := -32603
    message := if message == "" then "Unknown error invoking RPC" else s!"Error invoking RPC: {message}" }

def INVALID_REQUEST : JsonRpcError :=
  { code := -32600, message := "Invalid request" }

def INVALID_PARAMETER (index message : String) : JsonRpcError :=
  { code := -32602, message := s!"Invalid parameter {index}: {message}" }

def INVALID_PARAMETERS : JsonRpcError :=
  { code := -32602, message := "Invalid params" }

def MISSING_REQUIRED_PARAMETER (index : String) : JsonRpcError :=
  { code := -32602, message := s!"Missing value for required parameter {index}" }

def INVALID_ARGUMENTS (message : String) : JsonRpcError :=
  { code := -32000, message := s!"Invalid arguments: {message}" }

def UNSUPPORTED_METHOD : JsonRpcError :=
  { code := -32601, message := "Unsupported JSON-RPC method" }

def REQUEST_BEYOND_HEAD_BLOCK (requested latest : Nat) : JsonRpcError :=
  { code := -32000, message := s!"Request beyond head block: requested {requested}, head {latest}" }

def HBAR_RATE_LIMIT_EXCEEDED : JsonRpcError :=
  { code := -32606, message := "HBAR Rate limit exceeded" }

def NONCE_TOO_LOW (nonce currentNonce : Nat) : JsonRpcError :=
  { code := 32001, message := s!"Nonce too low. Provided nonce: {nonce}, current nonce: {currentNonce}" }

def NONCE_TOO_HIGH (nonce currentNonce : Nat) : JsonRpcError :=
  { code := 32002, message := s!"Nonce too high. Provided nonce: {nonce}, current nonce: {currentNonce}" }

def REQUEST_TIMEOUT : JsonRpcError :=
  { code := -32010, message := "Request timeout. Please try again." }

def MIRROR_NODE_UPSTREAM_FAIL (errCode : Nat) (errMessage : String) : JsonRpcError :=
  { code := -32020
    message := s!"Mirror node upstream failure: statusCode={errCode}, message={errMessage}"
    data := some (toString errCode) }

def MAX_SUBSCRIPTIONS : JsonRpcError :=
  { code := -32608, message := "Exceeded maximum allowed subscriptions" }

def BATCH_REQUESTS_DISABLED : JsonRpcError :=
  { code := -32202, message := "Batch requests are disabled" }

def BATCH_REQUESTS_AMOUNT_MAX_EXCEEDED (amount max : Nat) : JsonRpcError :=
  { code := -32203, message := s!"Batch request amount {amount} exceeds max {max}" }

def BATCH_REQUESTS_METHOD_NOT_PERMITTED (method : String) : JsonRpcError :=
  { code := -32007, message := s!"Method {method} is not permitted as part of batch requests" }

def WS_BATCH_REQUESTS_DISABLED : JsonRpcError :=
  { code := -32205, message := "WS batch requests are disabled" }

def WS_SUBSCRIPTIONS_DISABLED : JsonRpcError :=
  { code := -32207, message := "WS Subscriptions are disabled" }

end predefined

end HieroRelay.Relay
