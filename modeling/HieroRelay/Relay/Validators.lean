import HieroRelay.Js.Text
import HieroRelay.Relay.Dispatcher

/-! The validators of request parameters: a test for each type, the schemas of the
objects, and the rules of a method. Every test converts its parameter as a regular
expression does, so `numberToString` is the conversion of numbers. -/

namespace HieroRelay.Relay.Validator

open HieroRelay.Js

/-- The types of `TYPES` that need no object schema. -/
inductive ValueType where
  | address
  | addressFilter
  | array
  | blockHash
  | blockNumber
  | boolean
  | hex
  | hexEvenLength
  | hex64
  | topicHash
  | topics
  | transactionHash
  deriving Repr, DecidableEq

def DEFAULT_HEX_ERROR : String := "Expected 0x prefixed hexadecimal value"

def HASH_ERROR : String := "Expected 0x prefixed string representing the hash (32 bytes)"

def ADDRESS_ERROR : String := "Expected 0x prefixed string representing the address (20 bytes)"

def ValueType.error : ValueType → String
  | .address => ADDRESS_ERROR
  | .addressFilter => s!"{ADDRESS_ERROR} or an array of addresses"
  | .array => "Expected Array"
  | .blockHash => s!"Expected {HASH_ERROR} of a block"
  | .blockNumber =>
      "Expected 0x prefixed hexadecimal block number, or the string \"latest\", \"earliest\" or \"pending\""
  | .boolean => "Expected boolean type"
  | .hex => DEFAULT_HEX_ERROR
  | .hexEvenLength => s!"{DEFAULT_HEX_ERROR} with even length"
  | .hex64 => HASH_ERROR
  | .topicHash => s!"Expected {HASH_ERROR} of a topic"
  | .topics => s!"Expected an array or array of arrays containing {HASH_ERROR} of a topic"
  | .transactionHash => s!"Expected {HASH_ERROR} of a transaction"

def blockTags : List String := ["earliest", "latest", "pending", "finalized", "safe"]

/-- `/^0[xX]([1-9A-Fa-f][0-9A-Fa-f]{0,13}|0)$/` on the digits. -/
def blockNumberDigits (digits : List Char) : Bool :=
  digits == ['0'] || (digits.head?.any (· != '0') && digits.length ≤ 14)

/-- `/^0[xX]([1-9A-Fa-f]+[0-9A-Fa-f]{0,13}|0)$/` on the digits. -/
def blockParamsDigits (digits : List Char) : Bool :=
  let leading := digits.takeWhile (· != '0')
  digits == ['0'] || (!leading.isEmpty && digits.length ≤ leading.length + 13)

/-- One level of `flat()`. -/
def flat (items : List Json) : List Json :=
  items.flatMap fun item => match item with | .arr inner => inner | item => [item]

/-- `every`, which stops at the first element that fails. -/
def everyItem (test : Json → Except JsError Bool) : List Json → Except JsError Bool
  | [] => .ok true
  | item :: rest => do
      if ← test item then everyItem test rest else return false

def thrown (error : JsError) : HandlerError := .other error.message []

def rpcError (error : JsonRpcError) : HandlerError := .jsonRpc error

section
variable (numberToString : Rat → String)

/-- The text of the parameter is `0x` and hexadecimal digits, which `allowed` accepts. -/
def hexTest (allowed : List Char → Bool) (param : Json) : Except JsError Bool := do
  return (hexDigits (← toText numberToString param)).any allowed

def addressTest (param : Json) : Except JsError Bool :=
  hexTest numberToString (·.length == 40) param

def hash32Test (param : Json) : Except JsError Bool :=
  hexTest numberToString (·.length == 64) param

def topicHashTest (param : Json) : Except JsError Bool := do
  return (← hash32Test numberToString param) || param == .null

/-- A number of the given form and at most `MAX_SAFE_INTEGER`, or a tag. -/
def blockTest (form : List Char → Bool) (param : Json) : Except JsError Bool := do
  let number ← hexTest numberToString (fun digits => form digits && hexValue digits ≤ MAX_SAFE_INTEGER) param
  return number || (includesString blockTags (some param)).isSome

/-- `param.length`, of a parameter that has one. -/
def lengthOf : Json → Nat
  | .str text => text.length
  | .arr items => items.length
  | _ => 0

def ValueType.test (type : ValueType) (param : Json) : Except JsError Bool :=
  match type with
  | .address => addressTest numberToString param
  | .addressFilter =>
      match param with
      | .arr items => everyItem (addressTest numberToString) (flat items)
      | param => addressTest numberToString param
  | .array => .ok (match param with | .arr _ => true | _ => false)
  | .blockHash => hash32Test numberToString param
  | .blockNumber => blockTest numberToString blockNumberDigits param
  | .boolean => .ok (match param with | .bool _ => true | _ => false)
  | .hex => hexTest numberToString (fun _ => true) param
  | .hexEvenLength => do
      return (← hexTest numberToString (fun _ => true) param) && lengthOf param % 2 == 0
  | .hex64 => hexTest numberToString (fun digits => 1 ≤ digits.length && digits.length ≤ 64) param
  | .topicHash => topicHashTest numberToString param
  | .topics =>
      match param with
      | .arr items => everyItem (topicHashTest numberToString) (flat items)
      | _ => .ok false
  | .transactionHash => hash32Test numberToString param

/-- How a refused parameter is shown: objects by their JSON text. -/
def paramString : Json → String
  | .str text => text
  | param => stringify numberToString param

end

structure IObjectParamSchema where
  type : ValueType
  nullable : Bool
  required : Bool := false

structure IObjectSchema where
  name : String
  properties : List (String × IObjectParamSchema)
  failOnEmpty : Bool := false
  failOnUnexpectedParams : Bool := false
  deleteUnknownProperties : Bool := false

def OBJECTS_VALIDATIONS.blockHashObject : IObjectSchema where
  name := "BlockHashObject"
  failOnUnexpectedParams := true
  properties := [("blockHash", { type := .blockHash, nullable := false })]

def OBJECTS_VALIDATIONS.blockNumberObject : IObjectSchema where
  name := "BlockNumberObject"
  failOnUnexpectedParams := true
  properties := [("blockNumber", { type := .blockNumber, nullable := false })]

def OBJECTS_VALIDATIONS.filter : IObjectSchema where
  name := "FilterObject"
  failOnUnexpectedParams := true
  properties := [
    ("blockHash", { type := .blockHash, nullable := false }),
    ("fromBlock", { type := .blockNumber, nullable := false }),
    ("toBlock", { type := .blockNumber, nullable := false }),
    ("address", { type := .addressFilter, nullable := false }),
    ("topics", { type := .topics, nullable := false })]

def OBJECTS_VALIDATIONS.transaction : IObjectSchema where
  name := "TransactionObject"
  deleteUnknownProperties := true
  properties := [
    ("from", { type := .address, nullable := false }),
    ("to", { type := .address, nullable := true }),
    ("gas", { type := .hex, nullable := false }),
    ("gasPrice", { type := .hex, nullable := false }),
    ("maxPriorityFeePerGas", { type := .hex, nullable := false }),
    ("maxFeePerGas", { type := .hex, nullable := false }),
    ("value", { type := .hex, nullable := false }),
    ("data", { type := .hexEvenLength, nullable := true }),
    ("type", { type := .hex, nullable := false }),
    ("chainId", { type := .hex, nullable := false }),
    ("nonce", { type := .hex, nullable := false }),
    ("input", { type := .hex, nullable := false }),
    ("accessList", { type := .array, nullable := false })]

section
variable (numberToString : Rat → String)

/-- One property of a schema against the object. -/
def validateProperty (fields : List (String × Json)) (schemaName property : String)
    (validation : IObjectParamSchema) : Except HandlerError Unit :=
  match fields.lookup property with
  | none =>
      if validation.required then
        .error (rpcError (predefined.MISSING_REQUIRED_PARAMETER s!"'{property}' for {schemaName}"))
      else .ok ()
  | some param =>
      if param == .null && validation.nullable then .ok ()
      else
        match validation.type.test numberToString param with
        | .error error => .error (thrown error)
        | .ok true => .ok ()
        | .ok false =>
            .error (rpcError (predefined.INVALID_PARAMETER s!"'{property}' for {schemaName}"
              s!"{validation.type.error}, value: {paramString numberToString param}"))

def validateProperties (fields : List (String × Json)) (schemaName : String) :
    List (String × IObjectParamSchema) → Except HandlerError Unit
  | [] => .ok ()
  | (property, validation) :: rest => do
      validateProperty numberToString fields schemaName property validation
      validateProperties fields schemaName rest

def validateObject (fields : List (String × Json)) (schema : IObjectSchema) : Except HandlerError Bool := do
  validateProperties numberToString fields schema.name schema.properties
  return !schema.failOnEmpty || schema.properties.any fun property => (fields.lookup property.1).isSome

def isExpected (schema : IObjectSchema) (field : String × Json) : Bool :=
  schema.properties.any fun property => property.1 == field.1

/-- An unknown parameter with an empty name is not noticed. -/
def checkForUnexpectedParams (fields : List (String × Json)) (schema : IObjectSchema) :
    Except HandlerError Unit :=
  match fields.find? fun field => !isExpected schema field with
  | some (unknownParam, _) =>
      if unknownParam == "" then .ok ()
      else .error (rpcError (predefined.INVALID_PARAMETER s!"'{unknownParam}' for {schema.name}" "Unknown parameter"))
  | none => .ok ()

/-- The verdict, and the object as the validation leaves it. -/
def DefaultValidation.validate (schema : IObjectSchema) (fields : List (String × Json)) :
    Except HandlerError (Bool × Json) := do
  (if schema.failOnUnexpectedParams then checkForUnexpectedParams fields schema else .ok ())
  let left := if schema.deleteUnknownProperties then fields.filter (isExpected schema) else fields
  return (← validateObject numberToString left schema, .obj left)

def FilterObject.validate (fields : List (String × Json)) : Except HandlerError (Bool × Json) := do
  if truthy (fields.lookup "blockHash") && (truthy (fields.lookup "toBlock") || truthy (fields.lookup "fromBlock")) then
    throw (rpcError (predefined.INVALID_PARAMETER "0" "Can't use both blockHash and toBlock/fromBlock"))
  DefaultValidation.validate numberToString OBJECTS_VALIDATIONS.filter fields

/-- The types of `TYPES` that the rules of the methods name. -/
inductive ParamType where
  | value (type : ValueType)
  | blockParams
  | filter
  | transaction
  deriving Repr, DecidableEq

def ParamType.error : ParamType → String
  | .value type => type.error
  | .blockParams =>
      s!"Expected {HASH_ERROR} in object, 0x prefixed hexadecimal block number, or the string \"latest\", \"earliest\" or \"pending\""
  | .filter => "Expected FilterObject"
  | .transaction => "Expected TransactionObject"

/-- The verdict on a parameter, and the parameter as the test leaves it. -/
def ParamType.test (type : ParamType) (param : Json) : Except HandlerError (Bool × Json) :=
  match type, param with
  | .value type, param => ((type.test numberToString param).mapError thrown).map fun verdict => (verdict, param)
  | .blockParams, .obj fields =>
      if (fields.lookup "hasOwnProperty").isSome then
        .error (thrown (.typeError "param.hasOwnProperty is not a function"))
      else if (fields.lookup "blockHash").isSome then
        DefaultValidation.validate numberToString OBJECTS_VALIDATIONS.blockHashObject fields
      else DefaultValidation.validate numberToString OBJECTS_VALIDATIONS.blockNumberObject fields
  | .blockParams, param =>
      ((blockTest numberToString blockParamsDigits param).mapError thrown).map fun verdict => (verdict, param)
  | .filter, .obj fields => FilterObject.validate numberToString fields
  | .filter, param => .ok (false, param)
  | .transaction, .obj fields => DefaultValidation.validate numberToString OBJECTS_VALIDATIONS.transaction fields
  | .transaction, param => .ok (false, param)

/-- A rule names one type, or several of which one has to accept. -/
inductive RuleType where
  | one (type : ParamType)
  | anyOf (types : List ValueType)

structure IMethodParamSchema where
  type : RuleType
  required : Bool

/-- Every test runs, also after one has accepted. -/
def anyTest (param : Json) : List ValueType → Except JsError Bool
  | [] => .ok false
  | type :: rest => do
      let verdict ← type.test numberToString param
      let others ← anyTest param rest
      return verdict || others

/-- The parameter as its rule leaves it. -/
def validateParam (index : Nat) (param : Option Json) (validation : IMethodParamSchema) :
    Except HandlerError (Option Json) :=
  match param with
  | none =>
      if validation.required then .error (rpcError (predefined.MISSING_REQUIRED_PARAMETER (toString index)))
      else .ok none
  | some .null =>
      .error (rpcError (predefined.INVALID_PARAMETER (toString index) "The value passed is not valid: null."))
  | some param =>
      match validation.type with
      | .one type => do
          let (verdict, param) ← type.test numberToString param
          if verdict then return some param
          throw (rpcError (predefined.INVALID_PARAMETER (toString index)
            s!"{type.error}, value: {paramString numberToString param}"))
      | .anyOf types => do
          if ← (anyTest numberToString param types).mapError thrown then return some param
          let text ← (toText numberToString param).mapError thrown
          let errorMessages := " OR ".intercalate (types.map ValueType.error)
          throw (rpcError (predefined.INVALID_PARAMETER (toString index)
            s!"The value passed is not valid: {text}. {errorMessages}"))

/-- The parameters against the rules from the given position on. -/
def validateFrom (index : Nat) (params : List Json) : List IMethodParamSchema → Except HandlerError (List Json)
  | [] => .ok []
  | validation :: rest => do
      let param ← validateParam numberToString index params.head? validation
      return param.toList ++ (← validateFrom (index + 1) params.tail rest)

def validateParams (params : List Json) (indexes : List IMethodParamSchema) : Except HandlerError (List Json) := do
  if params.length > indexes.length then throw (rpcError predefined.INVALID_PARAMETERS)
  validateFrom numberToString 0 params indexes

variable {numberToString}

/-- A validated object stays an object. -/
theorem DefaultValidation.validate_obj {schema : IObjectSchema} {fields : List (String × Json)} {verdict : Bool}
    {left : Json} (tested : DefaultValidation.validate numberToString schema fields = .ok (verdict, left)) :
    ∃ fields, left = .obj fields := by
  unfold DefaultValidation.validate at tested
  obtain ⟨-, -, tested⟩ := bind_eq_ok_iff.mp tested
  obtain ⟨verdict, -, tested⟩ := bind_eq_ok_iff.mp tested
  cases tested
  exact ⟨_, rfl⟩

theorem FilterObject.validate_obj {fields : List (String × Json)} {verdict : Bool} {left : Json}
    (tested : FilterObject.validate numberToString fields = .ok (verdict, left)) :
    ∃ fields, left = .obj fields := by
  unfold FilterObject.validate at tested
  split at tested
  · cases tested
  · exact DefaultValidation.validate_obj tested

/-- A test leaves the parameter or an object in its place. -/
theorem ParamType.test_left {type : ParamType} {param left : Json} {verdict : Bool}
    (tested : type.test numberToString param = .ok (verdict, left)) :
    left = param ∨ ∃ fields, left = .obj fields := by
  have unchanged : ∀ {outcome : Except HandlerError Bool},
      (outcome.map fun verdict => (verdict, param)) = .ok (verdict, left) → left = param := by
    intro outcome mapped
    obtain ⟨verdict, -, same⟩ := map_eq_ok_iff.mp mapped
    cases same
    rfl
  unfold ParamType.test at tested
  split at tested
  · exact Or.inl (unchanged tested)
  · split_ifs at tested
    · exact Or.inr (DefaultValidation.validate_obj tested)
    · exact Or.inr (DefaultValidation.validate_obj tested)
  · exact Or.inl (unchanged tested)
  · exact Or.inr (FilterObject.validate_obj tested)
  · cases tested
    exact Or.inl rfl
  · exact Or.inr (DefaultValidation.validate_obj tested)
  · cases tested
    exact Or.inl rfl

/-- What passes as a filter is an object. -/
theorem ParamType.test_filter {param left : Json}
    (tested : ParamType.filter.test numberToString param = .ok (true, left)) :
    ∃ fields, left = .obj fields := by
  cases param with
  | obj fields => exact FilterObject.validate_obj tested
  | _ => cases tested

theorem validateParam_one {index : Nat} {param : Option Json} {type : ParamType} {left : Json}
    (accepted : validateParam numberToString index param (.mk (.one type) true) = .ok (some left)) :
    ∃ value, type.test numberToString value = .ok (true, left) := by
  unfold validateParam at accepted
  split at accepted
  · cases accepted
  · cases accepted
  · rename_i value present
    obtain ⟨⟨verdict, after⟩, tested, accepted⟩ := bind_eq_ok_iff.mp accepted
    cases verdict with
    | true =>
      cases accepted
      exact ⟨value, tested⟩
    | false => cases accepted

/-- A required parameter that passes its rule is there and is not `null`. -/
theorem validateParam_required {index : Nat} {param left : Option Json} {validation : IMethodParamSchema}
    (required : validation.required = true)
    (accepted : validateParam numberToString index param validation = .ok left) :
    ∃ value, left = some value ∧ value ≠ .null := by
  unfold validateParam at accepted
  split at accepted
  · simp [required] at accepted
  · cases accepted
  · rename_i value notNull
    split at accepted
    · rename_i type isOne
      obtain ⟨⟨verdict, after⟩, tested, accepted⟩ := bind_eq_ok_iff.mp accepted
      cases verdict with
      | true =>
        cases accepted
        refine ⟨after, rfl, ?_⟩
        rcases ParamType.test_left tested with same | ⟨fields, same⟩
        · exact same ▸ notNull
        · simp [same]
      | false => cases accepted
    · rename_i types isAnyOf
      obtain ⟨verdict, tested, accepted⟩ := bind_eq_ok_iff.mp accepted
      cases verdict with
      | true =>
        cases accepted
        exact ⟨value, rfl, notNull⟩
      | false =>
        obtain ⟨text, -, accepted⟩ := bind_eq_ok_iff.mp accepted
        cases accepted

/-- Where the rules up to a position require their parameters, the parameter left at
that position is what its own rule leaves. -/
theorem validateFrom_get {start position : Nat} {params validated : List Json} {rules : List IMethodParamSchema}
    {validation : IMethodParamSchema} (accepted : validateFrom numberToString start params rules = .ok validated)
    (found : rules[position]? = some validation)
    (required : ∀ rule ∈ rules.take (position + 1), rule.required = true) :
    ∃ value, validateParam numberToString (start + position) params[position]? validation = .ok (some value) ∧
      validated[position]? = some value ∧ value ≠ .null := by
  induction rules generalizing start params validated position with
  | nil => cases found
  | cons rule rest ih =>
    obtain ⟨left, first, accepted⟩ := bind_eq_ok_iff.mp accepted
    obtain ⟨others, remaining, accepted⟩ := bind_eq_ok_iff.mp accepted
    have firstRequired : rule.required = true := required rule (by simp)
    obtain ⟨value, rfl, notNull⟩ := validateParam_required firstRequired first
    cases accepted
    cases position with
    | zero =>
      cases found
      refine ⟨value, ?_, rfl, notNull⟩
      rw [← first, List.head?_eq_getElem?]
      rfl
    | succ position =>
      have restRequired : ∀ rule ∈ rest.take (position + 1), rule.required = true := by
        intro other inside
        exact required other (by simp [inside])
      obtain ⟨later, passed, kept, notNull⟩ := ih remaining found restRequired
      refine ⟨later, ?_, kept, notNull⟩
      have shifted : params.tail[position]? = params[position + 1]? := by
        cases params <;> rfl
      rw [← shifted, ← passed]
      congr 1
      omega

theorem validateParams_ok {params validated : List Json} {rules : List IMethodParamSchema}
    (accepted : validateParams numberToString params rules = .ok validated) :
    validateFrom numberToString 0 params rules = .ok validated := by
  unfold validateParams at accepted
  split_ifs at accepted
  · cases accepted
  · exact accepted

end

end HieroRelay.Relay.Validator
