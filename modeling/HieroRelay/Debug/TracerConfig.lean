import HieroRelay.Relay.Validators

/-! The validation of a tracer object, which may be left out: which objects are accepted. -/

namespace HieroRelay.Debug

open HieroRelay.Js
open HieroRelay.Relay (HandlerError predefined.INVALID_PARAMETER)
open HieroRelay.Relay.Validator (DefaultValidation.validate IObjectSchema paramString rpcError)

inductive TracerType where
  | CallTracer
  | OpcodeLogger
  | PrestateTracer
  deriving Repr, DecidableEq

def TracerType.text : TracerType → String
  | .CallTracer => "callTracer"
  | .OpcodeLogger => "opcodeLogger"
  | .PrestateTracer => "prestateTracer"

def TracerType.values : List TracerType := [.CallTracer, .OpcodeLogger, .PrestateTracer]

def OBJECTS_VALIDATIONS.callTracerConfig : IObjectSchema where
  name := "CallTracerConfig"
  failOnEmpty := true
  properties := [("onlyTopCall", { type := .boolean, nullable := false })]

def OBJECTS_VALIDATIONS.opcodeLoggerConfig : IObjectSchema where
  name := "OpcodeLoggerConfig"
  failOnEmpty := true
  properties := [
    ("disableMemory", { type := .boolean, nullable := false }),
    ("enableMemory", { type := .boolean, nullable := false }),
    ("disableStack", { type := .boolean, nullable := false }),
    ("disableStorage", { type := .boolean, nullable := false })]

def schemaKeys (schema : IObjectSchema) : List String := schema.properties.map Prod.fst

/-- The fields of what `typeof` calls an object; an array has its indexes as keys. -/
def objectFields : Json → Option (List (String × Json))
  | .obj fields => some fields
  | .arr items => some (items.mapIdx fun index item => (toString index, item))
  | _ => none

namespace TYPES

def tracerType.test (param : Json) : Bool := TracerType.values.any fun type => isString (some param) type.text

def tracerType.error : String := "Expected TracerType"

def tracerConfig.error : String := "Expected TracerConfig"

def tracerConfigWrapper.error : String :=
  "Expected TracerConfigWrapper which contains a valid TracerType and/or TracerConfig"

section
variable (numberToString : Rat → String)

/-- The verdict on one kind of configuration. -/
def configTest (schema : IObjectSchema) (fields : List (String × Json)) : Except HandlerError Bool := do
  return (← DefaultValidation.validate numberToString schema fields).1

def tracerConfig.test (param : Json) : Except HandlerError Bool :=
  match objectFields param with
  | none => .ok false
  | some fields => do
      let isValidCallTracerConfig ← configTest numberToString OBJECTS_VALIDATIONS.callTracerConfig fields
      let isValidOpcodeLoggerConfig ← configTest numberToString OBJECTS_VALIDATIONS.opcodeLoggerConfig fields
      return fields.isEmpty || isValidCallTracerConfig || isValidOpcodeLoggerConfig

end

end TYPES

namespace TracerConfigWrapper

def name : String := "TracerConfigWrapper"

def expectedParams : List String := ["tracer", "tracerConfig"]

/-- An unknown parameter with an empty name is not noticed. -/
def checkForUnexpectedParams (fields : List (String × Json)) : Except HandlerError Unit :=
  match fields.find? fun field => !expectedParams.contains field.1 with
  | some (unknownParam, _) =>
      if unknownParam == "" then .ok ()
      else .error (rpcError (predefined.INVALID_PARAMETER s!"'{unknownParam}' for {name}" "Unknown parameter"))
  | none => .ok ()

section
variable (numberToString : Rat → String)

/-- A property that is there; an error of the test counts as a refusal. -/
def validateProperty (fields : List (String × Json)) (property error : String)
    (test : Json → Except HandlerError Bool) : Except HandlerError Unit :=
  match fields.lookup property with
  | none => .ok ()
  | some param =>
      let refused := rpcError (predefined.INVALID_PARAMETER s!"'{property}' for {name}"
        s!"{error}, value: {paramString numberToString param}")
      match test param with
      | .ok true => .ok ()
      | .ok false | .error (.jsonRpc _) => .error refused
      | .error error => .error error

def validateObject (fields : List (String × Json)) : Except HandlerError Bool := do
  validateProperty numberToString fields "tracer" TYPES.tracerType.error fun param => .ok (TYPES.tracerType.test param)
  validateProperty numberToString fields "tracerConfig" TYPES.tracerConfig.error
    (TYPES.tracerConfig.test numberToString)
  return expectedParams.any fun property => (fields.lookup property).isSome

/-- A configuration of one tracer is refused with the other one. -/
def checkConfigKeys (tracer : Option Json) (tracerConfig : Json) : Except HandlerError Unit := do
  let configKeys := ((objectFields tracerConfig).getD []).map Prod.fst
  let hasCallTracerKeys := configKeys.any (schemaKeys OBJECTS_VALIDATIONS.callTracerConfig).contains
  let hasOpcodeLoggerKeys := configKeys.any (schemaKeys OBJECTS_VALIDATIONS.opcodeLoggerConfig).contains
  if hasCallTracerKeys && isString tracer TracerType.OpcodeLogger.text then
    throw (rpcError (predefined.INVALID_PARAMETER "1"
      s!"callTracer 'tracerConfig' for {name} is only valid when tracer={TracerType.CallTracer.text}"))
  if hasOpcodeLoggerKeys && !isString tracer TracerType.OpcodeLogger.text then
    throw (rpcError (predefined.INVALID_PARAMETER "1"
      s!"opcodeLogger 'tracerConfig' for {name} is only valid when tracer={TracerType.OpcodeLogger.text}"))

def validate (fields : List (String × Json)) : Except HandlerError Bool := do
  checkForUnexpectedParams fields
  let valid ← validateObject numberToString fields
  match fields.lookup "tracerConfig" with
  | none => return valid
  | some tracerConfig => do
      if truthy (some tracerConfig) then checkConfigKeys (fields.lookup "tracer") tracerConfig
      return valid

end

end TracerConfigWrapper

/-- The second parameter against its rule; it is not required. -/
def validateTracerObject (numberToString : Rat → String) (param : Option Json) :
    Except HandlerError (Option Json) :=
  let refused (param : Json) := rpcError (predefined.INVALID_PARAMETER "1"
    s!"{TYPES.tracerConfigWrapper.error}, value: {paramString numberToString param}")
  match param with
  | none => .ok none
  | some .null => .error (rpcError (predefined.INVALID_PARAMETER "1" "The value passed is not valid: null."))
  | some param =>
      match objectFields param with
      | none => .error (refused param)
      | some fields => do
          if ← TracerConfigWrapper.validate numberToString fields then return some param
          throw (refused param)

variable {numberToString : Rat → String} {fields : List (String × Json)} {param tracerObject : Option Json}

theorem TYPES.tracerType_of_test {tracer : Json} (passed : tracerType.test tracer = true) :
    ∃ type : TracerType, tracer = .str type.text := by
  obtain ⟨type, -, same⟩ := List.any_eq_true.mp passed
  exact ⟨type, Option.some.inj (isString_iff.mp same)⟩

/-- A property that was accepted passed its test. -/
theorem TracerConfigWrapper.passed_of_validateProperty {property error : String}
    {test : Json → Except HandlerError Bool} {value : Json}
    (accepted : validateProperty numberToString fields property error test = .ok ())
    (given : fields.lookup property = some value) : test value = .ok true := by
  rw [validateProperty, given] at accepted
  dsimp only at accepted
  split at accepted
  · assumption
  · cases accepted
  · cases accepted
  · cases accepted

theorem TracerConfigWrapper.tracer_of_valid {valid : Bool} {tracer : Json}
    (accepted : TracerConfigWrapper.validate numberToString fields = .ok valid)
    (given : fields.lookup "tracer" = some tracer) : ∃ type : TracerType, tracer = .str type.text := by
  obtain ⟨_, -, accepted⟩ := bind_eq_ok_iff.mp accepted
  obtain ⟨_, object, -⟩ := bind_eq_ok_iff.mp accepted
  obtain ⟨_, property, -⟩ := bind_eq_ok_iff.mp object
  exact TYPES.tracerType_of_test (Except.ok.inj (passed_of_validateProperty property given))

/-- An array is empty, or has a key that is not expected. -/
theorem TracerConfigWrapper.not_valid_of_array {items : List Json}
    (fromItems : objectFields (.arr items) = some fields) :
    validate numberToString fields ≠ .ok true := by
  cases fromItems
  cases items with
  | nil =>
    have invalid : validate numberToString [] = .ok false := rfl
    rw [List.mapIdx_nil, invalid]
    exact nofun
  | cons item rest =>
    intro accepted
    obtain ⟨_, expected, -⟩ := bind_eq_ok_iff.mp accepted
    have unexpected : expectedParams.contains (toString 0) = false := by decide
    have named : (toString 0 == "") = false := by decide
    simp only [checkForUnexpectedParams, List.mapIdx_cons, List.find?_cons, unexpected, named,
      Bool.not_false] at expected
    cases expected

/-- What is accepted is left out, or an object whose tracer is missing or known. -/
theorem accepted_cases (accepted : validateTracerObject numberToString param = .ok tracerObject) :
    tracerObject = none ∨ ∃ fields, tracerObject = some (.obj fields) ∧
      ∀ tracer, fields.lookup "tracer" = some tracer → ∃ type : TracerType, tracer = .str type.text := by
  unfold validateTracerObject at accepted
  dsimp only at accepted
  split at accepted
  · cases accepted
    exact .inl rfl
  · cases accepted
  · next value notNull =>
      split at accepted
      · cases accepted
      · next fields isObject =>
          obtain ⟨verdict, valid, accepted⟩ := bind_eq_ok_iff.mp accepted
          cases verdict with
          | false => cases accepted
          | true =>
            cases accepted
            cases value with
            | obj own =>
              cases isObject
              exact .inr ⟨_, rfl, fun tracer given => TracerConfigWrapper.tracer_of_valid valid given⟩
            | arr items => exact absurd valid (TracerConfigWrapper.not_valid_of_array isObject)
            | null | bool _ | num _ | str _ => cases isObject

end HieroRelay.Debug
