import HieroRelay.Relay.CachedOutcome
import HieroRelay.Relay.EthMethods
import Mathlib.Data.List.Nodup

/-! Calls whose block argument stands for the head of the chain: when the cache of the
`eth` methods never holds an entry for them. -/

namespace HieroRelay.Relay

open HieroRelay.Js HieroRelay.Lib

variable (numberToString : Rat → String)

/-- A request for a decorated method, with what its handler would do, or an entry that
expires, is evicted or is deleted. -/
inductive EthLabel where
  | call (method : { method // method ∈ cachedMethods }) (params : List Json) (requestDetails : RequestDetails)
      (outcome : Except HandlerError JsValue)
  | drop (key : CacheKey)

/-- A request that the validation rejects does not reach the cache. -/
def serveEth (backend : Backend) (store : CacheStore) : EthLabel → Option CacheStore
  | .call method params requestDetails outcome =>
      match precheckRpcMethod numberToString method params with
      | .error _ => some store
      | .ok validated =>
          some (cachedCall backend method.1.options method.1.name
            (arrangeRpcParams numberToString method validated requestDetails) outcome store).2
  | .drop key => some (Function.update store key none)

/-- The key of a call with validated parameters. -/
def callKey (method : CachedMethod) (validated : List Json) (requestDetails : RequestDetails) : CacheKey :=
  generateCacheKey method.name (arrangeRpcParams numberToString method validated requestDetails)

/-- The block argument is itself one of the tags, or a bound of the range is. -/
def BlockArgument.namesTag (argument : BlockArgument) (validated : List Json) : Bool :=
  match argument with
  | .tag index | .params index => (includesString NON_CACHABLE_BLOCK_PARAMS validated[index]?).isSome
  | .range index =>
      let field (name : String) := validated[index]?.bind fun value => ownField value name
      (includesString NON_CACHABLE_BLOCK_PARAMS (field "fromBlock")).isSome ||
        (includesString NON_CACHABLE_BLOCK_PARAMS (field "toBlock")).isSome

/-- The arguments of the handler before the details of the request. -/
def handlerParams (method : CachedMethod) (validated : List Json) : List HandlerArg :=
  match method.layout with
  | .requestDetailsOnly => []
  | .custom arrange => arrange numberToString validated
  | .default => validated.map .json

theorem arrangeRpcParams_eq (method : CachedMethod) (validated : List Json) (requestDetails : RequestDetails) :
    arrangeRpcParams numberToString method validated requestDetails =
      handlerParams numberToString method validated ++ [.requestDetails requestDetails] := by
  unfold arrangeRpcParams handlerParams
  cases method.layout <;> rfl

theorem optionalArg_ne_details (param : Option Json) (details : RequestDetails) :
    optionalArg param ≠ .requestDetails details := by
  cases param <;> simp [optionalArg]

private theorem hexNumber_ne_details (param : Json) (details : RequestDetails) :
    hexNumber numberToString param ≠ .requestDetails details := by
  unfold hexNumber
  split
  · dsimp only
    split <;> simp
  · simp

/-- No layout of a decorated method puts the details among the parameters. -/
theorem handlerParams_ne_details {method : CachedMethod} (member : method ∈ cachedMethods)
    (validated : List Json) (details : RequestDetails) :
    .requestDetails details ∉ handlerParams numberToString method validated := by
  have layouts : method.layout = .default ∨ method.layout = .requestDetailsOnly ∨
      method.layout = .custom feeHistoryLayout ∨ method.layout = .custom firstThreeLayout := by
    revert method
    simp only [cachedMethods, List.forall_mem_cons]
    refine ⟨?_, ?_, ?_, ?_, ?_, ?_, ?_, ?_, ?_, ?_, ?_, ?_, ?_, ?_, ?_, ?_, ?_, ?_, by simp⟩
    all_goals first
      | exact Or.inl rfl
      | exact Or.inr (Or.inl rfl)
      | exact Or.inr (Or.inr (Or.inl rfl))
      | exact Or.inr (Or.inr (Or.inr rfl))
  unfold handlerParams
  intro inside
  rcases layouts with layout | layout | layout | layout
  · simp [layout] at inside
  · simp [layout] at inside
  · rw [layout] at inside
    simp only [feeHistoryLayout, List.mem_cons, List.not_mem_nil, or_false] at inside
    rcases inside with first | second | third
    · cases param : validated[0]? with
      | none => simp [param] at first
      | some value => exact hexNumber_ne_details numberToString value details (by simpa [param] using first.symm)
    · exact optionalArg_ne_details _ _ second.symm
    · exact optionalArg_ne_details _ _ third.symm
  · rw [layout] at inside
    simp only [firstThreeLayout, List.mem_cons, List.not_mem_nil, or_false] at inside
    rcases inside with first | second | third
    · exact optionalArg_ne_details _ _ first.symm
    · exact optionalArg_ne_details _ _ second.symm
    · exact optionalArg_ne_details _ _ third.symm

theorem callKey_eq {method : CachedMethod} (member : method ∈ cachedMethods) (validated : List Json)
    (requestDetails : RequestDetails) :
    callKey numberToString method validated requestDetails =
      { methodName := method.name, args := handlerParams numberToString method validated } := by
  have absent := handlerParams_ne_details numberToString member validated
  have kept : ∀ arg ∈ handlerParams numberToString method validated, (!arg.isRequestDetails) = true := by
    intro arg inside
    cases arg with
    | requestDetails details => exact absurd inside (absent details)
    | _ => rfl
  rw [callKey, generateCacheKey, arrangeRpcParams_eq, List.filter_append, List.filter_eq_self.mpr kept]
  simp [HandlerArg.isRequestDetails]

/-- The name of a decorated method determines it. -/
theorem method_eq_of_name {left right : CachedMethod} (first : left ∈ cachedMethods)
    (second : right ∈ cachedMethods) (same : left.name = right.name) : left = right := by
  have distinct : (cachedMethods.map CachedMethod.name).Nodup := by decide
  exact List.inj_on_of_nodup_map distinct first second same

/-- The block argument is required, stands where the rule of the cache looks for it, and
reaches the handler at its position. -/
structure TakesBlock (method : CachedMethod) (index : Nat) : Prop where
  required : ∃ rules rule, method.rules = some rules ∧ rules[index]? = some rule ∧
    ∀ rule ∈ rules.take (index + 1), rule.required = true
  skips : method.options.skipParams = [{ index, values := NON_CACHABLE_BLOCK_PARAMS }]
  skipsNoField : method.options.skipNamedParams = []
  handed : ∀ numberToString validated value, validated[index]? = some value →
    (handlerParams numberToString method validated)[index]? = some (.json value)

theorem handlerParams_default {method : CachedMethod} (layout : method.layout = .default)
    (numberToString : Rat → String) {validated : List Json} {index : Nat} {value : Json}
    (present : validated[index]? = some value) :
    (handlerParams numberToString method validated)[index]? = some (.json value) := by
  simp [handlerParams, layout, present]

private theorem blockTagMethod_takesBlock (name : String) {index : Nat} {rules : List Validator.IMethodParamSchema}
    (inside : index < rules.length) (required : ∀ rule ∈ rules.take (index + 1), rule.required = true) :
    TakesBlock (blockTagMethod name index rules) index where
  required := ⟨rules, rules[index], rfl, List.getElem?_eq_getElem inside, required⟩
  skips := rfl
  skipsNoField := rfl
  handed := fun numberToString _ _ => handlerParams_default rfl numberToString

private theorem feeHistory_takesBlock : TakesBlock Eth.feeHistory 1 where
  required := ⟨_, _, rfl, rfl, by simp [requiredParam]⟩
  skips := rfl
  skipsNoField := rfl
  handed := by
    intro numberToString validated value present
    simp [handlerParams, Eth.feeHistory, feeHistoryLayout, present, optionalArg]

private theorem getStorageAt_takesBlock : TakesBlock Eth.getStorageAt 2 where
  required := ⟨_, _, rfl, rfl, by simp [requiredParam, blockNumberOrHash]⟩
  skips := rfl
  skipsNoField := rfl
  handed := by
    intro numberToString validated value present
    simp [handlerParams, Eth.getStorageAt, firstThreeLayout, present, optionalArg]

theorem call_takesBlock : TakesBlock Eth.call 1 where
  required := ⟨_, _, rfl, rfl, by simp [requiredParam]⟩
  skips := rfl
  skipsNoField := rfl
  handed := fun numberToString _ _ => handlerParams_default rfl numberToString

/-- How the decorated methods take their block arguments. -/
theorem blockArgument_cases {method : CachedMethod} (member : method ∈ cachedMethods)
    {argument : BlockArgument} (takes : method.blockArgument = some argument) :
    (∃ index, argument = .tag index ∧ TakesBlock method index) ∨
      (method = Eth.call ∧ argument = .params 1) ∨ (method = Eth.getLogs ∧ argument = .range 0) := by
  have tagged : ∀ name index rules, index < rules.length →
      (∀ rule ∈ rules.take (index + 1), rule.required = true) → method = blockTagMethod name index rules →
      ∃ index, argument = .tag index ∧ TakesBlock method index := by
    rintro name index rules inside required rfl
    exact ⟨index, (Option.some.inj takes).symm, blockTagMethod_takesBlock name inside required⟩
  simp only [cachedMethods, List.mem_cons, List.not_mem_nil, or_false] at member
  rcases member with same | same | same | same | same | same | same | same | same | same | same | same | same |
    same | same | same | same | same
  case inl =>
    subst same
    exact Or.inl ⟨1, (Option.some.inj takes).symm, feeHistory_takesBlock⟩
  case inr.inr.inr.inl =>
    subst same
    exact Or.inl ⟨2, (Option.some.inj takes).symm, getStorageAt_takesBlock⟩
  case inr.inr.inr.inr.inr.inr.inr.inr.inr.inr.inr.inr.inr.inl =>
    subst same
    exact Or.inr (Or.inl ⟨rfl, (Option.some.inj takes).symm⟩)
  case inr.inr.inr.inr.inr.inr.inr.inr.inr.inr.inr.inr.inr.inr.inr.inr.inl =>
    subst same
    exact Or.inr (Or.inr ⟨rfl, (Option.some.inj takes).symm⟩)
  all_goals first
    | exact Or.inl (tagged _ _ _ (by decide) (by simp [requiredParam, blockNumberOrHash]) same)
    | (subst same; cases takes)

/-- A rule of the cache that meets one of its texts keeps the result out. -/
theorem shouldStore_skipped {options : CacheOptions} {args : List HandlerArg} {result : JsValue}
    {rule : CacheSingleParam} {value : Json} (declared : rule ∈ options.skipParams)
    (present : args[rule.index]? = some (.json value))
    (named : (includesString rule.values (some value)).isSome = true) :
    shouldStore options args result = .ok false := by
  have skipped : shouldSkipCachingForSingleParams args options.skipParams = true := by
    apply List.any_eq_true.mpr
    exact ⟨rule, declared, by simp [present, named]⟩
  simp [shouldStore, skipped]

/-- With one rule whose argument is none of its texts, a truthy result is stored. -/
theorem shouldStore_single {options : CacheOptions} {args : List HandlerArg} {result : JsValue}
    {rule : CacheSingleParam} {value : Json} (only : options.skipParams = [rule])
    (noField : options.skipNamedParams = []) (present : args[rule.index]? = some (.json value))
    (unnamed : includesString rule.values (some value) = none) (truthy : result.truthy = true) :
    shouldStore options args result = .ok true := by
  simp [shouldStore, shouldSkipCachingForSingleParams, shouldSkipCachingForNamedParams, only, noField, present,
    unnamed, truthy]

/-- On an object the rules for fields never throw. -/
theorem anyFieldNamed_obj (rules : List CacheNamedParam) (fields : List (String × Json)) :
    shouldSkipCachingForNamedParams.anyFieldNamed rules (some (.json (.obj fields))) =
      .ok (rules.any fun rule => (includesString rule.values (fields.lookup rule.name)).isSome) := by
  induction rules with
  | nil => rfl
  | cons rule rest ih =>
    cases named : (includesString rule.values (fields.lookup rule.name)).isSome with
    | true => simp [shouldSkipCachingForNamedParams.anyFieldNamed, fieldOf, ownField, named]
    | false => simp [shouldSkipCachingForNamedParams.anyFieldNamed, fieldOf, ownField, named, ih]

/-- The rules of `getLogs` look at the bounds of the range. -/
theorem shouldStore_getLogs {args : List HandlerArg} {result : JsValue} {fields : List (String × Json)}
    (present : args[0]? = some (.json (.obj fields))) (truthy : result.truthy = true) :
    shouldStore Eth.getLogs.options args result =
      .ok (!((includesString NON_CACHABLE_BLOCK_PARAMS (fields.lookup "fromBlock")).isSome ||
        (includesString NON_CACHABLE_BLOCK_PARAMS (fields.lookup "toBlock")).isSome)) := by
  have skipped : shouldSkipCachingForNamedParams args Eth.getLogs.options.skipNamedParams =
      .ok ((includesString NON_CACHABLE_BLOCK_PARAMS (fields.lookup "fromBlock")).isSome ||
        (includesString NON_CACHABLE_BLOCK_PARAMS (fields.lookup "toBlock")).isSome) := by
    simp only [Eth.getLogs, shouldSkipCachingForNamedParams, present, anyFieldNamed_obj, List.any_cons, List.any_nil,
      Bool.or_false, ok_bind]
    split_ifs with named
    · rw [named]
      rfl
    · rw [Bool.eq_false_iff.mpr named]
  have noRule : shouldSkipCachingForSingleParams args Eth.getLogs.options.skipParams = false := rfl
  simp only [shouldStore, truthy, noRule, skipped]
  rfl

/-- A block argument that names a tag keeps every result of the call out of the cache. -/
theorem shouldStore_of_namesTag {method : CachedMethod} (member : method ∈ cachedMethods)
    {argument : BlockArgument} (takes : method.blockArgument = some argument) {validated : List Json}
    (named : argument.namesTag validated = true) (requestDetails : RequestDetails) (result : JsValue) :
    shouldStore method.options (handlerParams numberToString method validated ++ [.requestDetails requestDetails])
      result = .ok false := by
  have positional : ∀ {index}, TakesBlock method index →
      (includesString NON_CACHABLE_BLOCK_PARAMS validated[index]?).isSome = true →
      shouldStore method.options (handlerParams numberToString method validated ++ [.requestDetails requestDetails])
        result = .ok false := by
    intro index block named
    cases present : validated[index]? with
    | none => simp [present, includesString] at named
    | some value =>
      rw [present] at named
      have handed := block.handed numberToString validated value present
      have declared : { index, values := NON_CACHABLE_BLOCK_PARAMS } ∈ method.options.skipParams := by
        simp [block.skips]
      refine shouldStore_skipped declared ?_ named
      exact List.getElem?_append_left (List.getElem?_eq_some_iff.mp handed).1 ▸ handed
  rcases blockArgument_cases member takes with ⟨index, rfl, block⟩ | ⟨rfl, rfl⟩ | ⟨rfl, rfl⟩
  · exact positional block named
  · exact positional call_takesBlock named
  · cases truthy : result.truthy with
    | false => simp [shouldStore, truthy]
    | true =>
      cases validated with
      | nil => simp [BlockArgument.namesTag, includesString] at named
      | cons value rest =>
        cases value with
        | obj fields =>
          have bound : ((includesString NON_CACHABLE_BLOCK_PARAMS (fields.lookup "fromBlock")).isSome ||
              (includesString NON_CACHABLE_BLOCK_PARAMS (fields.lookup "toBlock")).isSome) = true := named
          rw [shouldStore_getLogs rfl truthy, bound]
          rfl
        | _ => simp [BlockArgument.namesTag, ownField, includesString] at named

variable {numberToString}

/-- The entries of the other calls and of the same call without a tag stay away. -/
theorem noEntry_step {method : CachedMethod} (member : method ∈ cachedMethods) {argument : BlockArgument}
    (takes : method.blockArgument = some argument) {validated : List Json}
    (named : argument.namesTag validated = true) (requestDetails : RequestDetails) {backend : Backend}
    {before after : CacheStore} {label : EthLabel}
    (absent : before (callKey numberToString method validated requestDetails) = none)
    (taken : serveEth numberToString backend before label = some after) :
    after (callKey numberToString method validated requestDetails) = none := by
  cases label with
  | drop key =>
    obtain rfl := Option.some.inj taken
    by_cases same : callKey numberToString method validated requestDetails = key
    · simp [same]
    · simpa [Function.update_of_ne same] using absent
  | call other params details outcome =>
    obtain ⟨other, inside⟩ := other
    cases accepted : precheckRpcMethod numberToString other params with
    | error error =>
      have same : before = after := by simpa [serveEth, accepted] using taken
      exact same ▸ absent
    | ok arguments =>
      simp only [serveEth, accepted] at taken
      obtain rfl := Option.some.inj taken
      rcases cachedCall_store_cases backend other.options other.name
          (arrangeRpcParams numberToString other arguments details) outcome before with
        unchanged | ⟨result, -, -, decided, -, updated⟩
      · rw [unchanged]
        exact absent
      · rw [updated]
        by_cases same : callKey numberToString method validated requestDetails =
            callKey numberToString other arguments details
        · rw [callKey_eq numberToString member, callKey_eq numberToString inside] at same
          obtain ⟨sameName, sameParams⟩ := CacheKey.mk.inj same
          obtain rfl := method_eq_of_name member inside sameName
          rw [arrangeRpcParams_eq, ← sameParams,
            shouldStore_of_namesTag numberToString member takes named] at decided
          cases decided
        · exact (Function.update_of_ne same _ _).trans absent

/-- What the validation leaves of a required block argument. -/
theorem validated_block {method : CachedMethod} {index : Nat} (block : TakesBlock method index)
    {params validated : List Json} (accepted : precheckRpcMethod numberToString method params = .ok validated) :
    ∃ value, validated[index]? = some value ∧ value ≠ .null := by
  obtain ⟨rules, rule, declared, found, required⟩ := block.required
  simp only [precheckRpcMethod, declared] at accepted
  obtain ⟨value, -, left, notNull⟩ := Validator.validateFrom_get (Validator.validateParams_ok accepted) found required
  exact ⟨value, left, notNull⟩

/-- What the validation leaves of a filter is an object. -/
theorem validated_filter {params validated : List Json}
    (accepted : precheckRpcMethod numberToString Eth.getLogs params = .ok validated) :
    ∃ fields, validated[0]? = some (.obj fields) := by
  have found : [requiredParam .filter][0]? = some (requiredParam .filter) := rfl
  have required : ∀ rule ∈ [requiredParam .filter].take 1, rule.required = true := by simp [requiredParam]
  obtain ⟨value, passed, left, -⟩ := Validator.validateFrom_get (Validator.validateParams_ok accepted) found required
  obtain ⟨tested, passed⟩ := Validator.validateParam_one passed
  obtain ⟨fields, rfl⟩ := Validator.ParamType.test_filter passed
  exact ⟨fields, left⟩

/-- A tag that stands for the head is one that the rules name. -/
theorem namesTag_of_latestOrPending {value : Json} (notNull : value ≠ .null)
    (latest : blockTagIsLatestOrPending (some value) = true) :
    (includesString NON_CACHABLE_BLOCK_PARAMS (some value)).isSome = true := by
  cases value with
  | null => exact absurd rfl notNull
  | str text =>
    have listed : ((text = "latest" ∨ text = "pending") ∨ text = "safe") ∨ text = "finalized" := by
      simpa [blockTagIsLatestOrPending, isString] using latest
    rcases listed with ((rfl | rfl) | rfl) | rfl <;> decide
  | _ => simp [blockTagIsLatestOrPending, isString] at latest

/-- A block argument that depends on the head without naming a tag does not keep the
result of the call out of the cache. -/
theorem shouldStore_of_unnamed {method : CachedMethod} (member : method ∈ cachedMethods)
    {argument : BlockArgument} (takes : method.blockArgument = some argument) {params validated : List Json}
    (accepted : precheckRpcMethod numberToString method params = .ok validated)
    {getBlock : Json → Except HandlerError Nat} (relative : argument.isHeadRelative getBlock validated = true)
    (unnamed : argument.namesTag validated = false) (requestDetails : RequestDetails) {result : JsValue}
    (truthy : result.truthy = true) :
    shouldStore method.options (arrangeRpcParams numberToString method validated requestDetails) result = .ok true := by
  rw [arrangeRpcParams_eq]
  rcases blockArgument_cases member takes with ⟨index, rfl, block⟩ | ⟨rfl, rfl⟩ | ⟨rfl, rfl⟩
  · obtain ⟨value, left, notNull⟩ := validated_block block accepted
    simp only [BlockArgument.isHeadRelative, BlockArgument.namesTag, left] at relative unnamed
    rw [namesTag_of_latestOrPending notNull relative] at unnamed
    cases unnamed
  · obtain ⟨value, left, notNull⟩ := validated_block call_takesBlock accepted
    have handed := call_takesBlock.handed numberToString validated value left
    refine shouldStore_single call_takesBlock.skips call_takesBlock.skipsNoField
      (List.getElem?_append_left (List.getElem?_eq_some_iff.mp handed).1 ▸ handed) ?_ truthy
    simpa [BlockArgument.namesTag, left] using unnamed
  · obtain ⟨fields, left⟩ := validated_filter accepted
    have handed := @handlerParams_default Eth.getLogs rfl numberToString _ _ _ left
    have unbound : ((includesString NON_CACHABLE_BLOCK_PARAMS (fields.lookup "fromBlock")).isSome ||
        (includesString NON_CACHABLE_BLOCK_PARAMS (fields.lookup "toBlock")).isSome) = false := by
      simpa [BlockArgument.namesTag, left, ownField] using unnamed
    rw [shouldStore_getLogs (List.getElem?_append_left (List.getElem?_eq_some_iff.mp handed).1 ▸ handed) truthy,
      unbound]
    rfl

/-- A call whose block argument depends on the head is never stored, and so never
answered from the cache, in any run exactly when the argument itself is one of the tags
or an explicit bound of the range is. -/
theorem headRelative_uncached_iff {method : CachedMethod} (member : method ∈ cachedMethods)
    {argument : BlockArgument} (takes : method.blockArgument = some argument) {params validated : List Json}
    (accepted : precheckRpcMethod numberToString method params = .ok validated)
    (getBlock : Json → Except HandlerError Nat) (relative : argument.isHeadRelative getBlock validated = true)
    (requestDetails : RequestDetails) :
    (∀ backend labels store, run (serveEth numberToString backend) (fun _ => none) labels = some store →
        store (callKey numberToString method validated requestDetails) = none) ↔
      argument.namesTag validated = true := by
  constructor
  · intro never
    by_contra unnamed
    have truthy : (JsValue.json (.str "0x")).truthy = true := rfl
    have stored := shouldStore_of_unnamed member takes accepted relative (Bool.eq_false_iff.mpr unnamed)
      requestDetails truthy
    have reached : run (serveEth numberToString .local) (fun _ => none)
        [.call ⟨method, member⟩ params requestDetails (.ok (.json (.str "0x")))] =
          some (Function.update (fun _ => none) (callKey numberToString method validated requestDetails)
            (some (.json (.str "0x")))) := by
      simp [serveEth, accepted, cachedCall, CacheStore.cachedResponse, stored, Backend.readBack, callKey]
    have missing := never .local _ _ reached
    simp at missing
  · intro named backend labels store reached
    exact run_invariant (motive := fun store => store (callKey numberToString method validated requestDetails) = none)
      (fun _ _ _ => noEntry_step member takes named requestDetails) rfl reached

/-- The details of the requests of the examples. -/
def exampleDetails : RequestDetails := { requestId := "1", ipAddress := "10.0.0.1" }

/-- The tag itself is named by the rule of `getBlockByNumber`. -/
theorem getBlockByNumber_latest_uncached :
    (∀ backend labels store, run (serveEth toString backend) (fun _ => none) labels = some store →
        store (callKey toString Eth.getBlockByNumber [.str "latest", .bool false] exampleDetails) = none) ↔
      (BlockArgument.tag 0).namesTag [.str "latest", .bool false] = true := by
  have member : Eth.getBlockByNumber ∈ cachedMethods := by simp [cachedMethods]
  have accepted : precheckRpcMethod toString Eth.getBlockByNumber [.str "latest", .bool false] =
      .ok [.str "latest", .bool false] := rfl
  exact headRelative_uncached_iff member rfl accepted (fun _ => .ok 0) rfl exampleDetails

/-- A contract call on an object that names the head. -/
def callOnLatest : List Json := [.obj [("data", .str "0x06")], .obj [("blockNumber", .str "latest")]]

/-- The answer of a call on the head is stored and given to a later call, whose handler
would answer something else by then. -/
theorem call_latest_object_cached :
    precheckRpcMethod toString Eth.call callOnLatest = .ok callOnLatest ∧
    (BlockArgument.params 1).isHeadRelative (fun _ => .ok 0) callOnLatest = true ∧ ∃ store,
      run (serveEth toString .local) (fun _ => none)
        [.call ⟨Eth.call, by simp [cachedMethods]⟩ callOnLatest exampleDetails (.ok (.json (.str "0x01")))] =
          some store ∧
      (cachedCall .local Eth.call.options Eth.call.name
        (arrangeRpcParams toString Eth.call callOnLatest exampleDetails) (.ok (.json (.str "0x02"))) store).1 =
          .ok (.json (.str "0x01")) :=
  ⟨rfl, rfl, _, rfl, rfl⟩

end HieroRelay.Relay
