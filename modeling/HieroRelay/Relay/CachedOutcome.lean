import HieroRelay.Relay.CacheDecorator
import HieroRelay.Lib.Run

/-! What a call that the cache answers reports, against what the evaluation behind the
cached value reported. -/

namespace HieroRelay.Relay

open HieroRelay.Js HieroRelay.Lib

/-- The cache, and of every key what its handler did when it ran last. -/
structure Evaluations where
  store : CacheStore
  evaluated : CacheKey → Option (Except HandlerError JsValue)

def Evaluations.empty : Evaluations := { store := fun _ => none, evaluated := fun _ => none }

/-- A call of a decorated method, with what its handler would do, or an entry that
expires, is evicted or is deleted. -/
inductive CacheLabel where
  | call (methodName : String) (options : CacheOptions) (args : List HandlerArg)
      (outcome : Except HandlerError JsValue)
  | drop (key : CacheKey)

def evaluate (backend : Backend) (state : Evaluations) : CacheLabel → Option Evaluations
  | .call methodName options args outcome =>
      let key := generateCacheKey methodName args
      some {
        store := (cachedCall backend options methodName args outcome state.store).2
        evaluated :=
          match state.store.cachedResponse key with
          | some _ => state.evaluated
          | none => Function.update state.evaluated key (some outcome) }
  | .drop key => some { state with store := Function.update state.store key none }

/-- The handler returned an error of a class that the dispatcher throws again. -/
def ReturnsError : Except HandlerError JsValue → Prop
  | .ok (.error error) => error.isRethrown = true
  | _ => False

instance : DecidablePred ReturnsError
  | .ok (.error _) => inferInstanceAs (Decidable (_ = true))
  | .ok .undefined => .isFalse id
  | .ok (.json _) => .isFalse id
  | .error _ => .isFalse id

/-- Every entry is what the backend reads back of the truthy result of the last
evaluation under its key. -/
def FromEvaluation (backend : Backend) (state : Evaluations) : Prop :=
  ∀ key cached, state.store key = some cached → ∃ result,
    state.evaluated key = some (.ok result) ∧ result.truthy ∧ cached = backend.readBack result

private theorem fromEvaluation_empty (backend : Backend) : FromEvaluation backend .empty := by
  intro key cached stored
  cases stored

/-- A stored value is truthy, so the decorator returns what the store holds. -/
theorem readBack_truthy (backend : Backend) {result : JsValue} (truthy : result.truthy) :
    (backend.readBack result).truthy := by
  cases backend with
  | «local» => exact truthy
  | redis =>
    cases result with
    | undefined => cases truthy
    | json value => exact truthy
    | error error => cases error <;> rfl

theorem cachedResponse_eq {backend : Backend} {state : Evaluations} (sourced : FromEvaluation backend state)
    (key : CacheKey) : state.store.cachedResponse key = state.store key := by
  cases stored : state.store key with
  | none => simp [CacheStore.cachedResponse, stored]
  | some cached =>
    obtain ⟨result, -, truthy, rfl⟩ := sourced key cached stored
    simp [CacheStore.cachedResponse, stored, readBack_truthy backend truthy]

/-- Only a truthy result that no rule keeps out is stored, under the key of the call. -/
theorem cachedCall_store_cases (backend : Backend) (options : CacheOptions) (methodName : String)
    (args : List HandlerArg) (outcome : Except HandlerError JsValue) (store : CacheStore) :
    (cachedCall backend options methodName args outcome store).2 = store ∨
      ∃ result, outcome = .ok result ∧ result.truthy ∧ shouldStore options args result = .ok true ∧
        store.cachedResponse (generateCacheKey methodName args) = none ∧
        (cachedCall backend options methodName args outcome store).2 =
          Function.update store (generateCacheKey methodName args) (some (backend.readBack result)) := by
  cases cached : store.cachedResponse (generateCacheKey methodName args) with
  | some value => exact Or.inl (by simp [cachedCall, cached])
  | none =>
    cases outcome with
    | error error => exact Or.inl (by simp [cachedCall, cached])
    | ok result =>
      by_cases truthy : result.truthy = true
      · cases decided : shouldStore options args result with
        | error error => exact Or.inl (by simp [cachedCall, cached, decided])
        | ok stores =>
          cases stores with
          | false => exact Or.inl (by simp [cachedCall, cached, decided])
          | true => exact Or.inr ⟨result, rfl, truthy, decided, rfl, by simp [cachedCall, cached, decided]⟩
      · have skipped : shouldStore options args result = .ok false := by
          simp [shouldStore, truthy]
        exact Or.inl (by simp [cachedCall, cached, skipped])

private theorem fromEvaluation_step {backend : Backend} {before after : Evaluations} {label : CacheLabel}
    (sourced : FromEvaluation backend before) (taken : evaluate backend before label = some after) :
    FromEvaluation backend after := by
  cases label with
  | drop key =>
    obtain rfl := Option.some.inj taken
    intro other cached stored
    by_cases same : other = key
    · simp [same] at stored
    · have kept : before.store other = some cached := by simpa [Function.update_of_ne same] using stored
      exact sourced other cached kept
  | call methodName options args outcome =>
    obtain rfl := Option.some.inj taken
    intro other cached stored
    rcases cachedCall_store_cases backend options methodName args outcome before.store with
      unchanged | ⟨result, rfl, truthy, -, missed, updated⟩
    · simp only [unchanged] at stored
      obtain ⟨result, evaluated, rest⟩ := sourced other cached stored
      refine ⟨result, ?_, rest⟩
      cases response : before.store.cachedResponse (generateCacheKey methodName args) with
      | some value => simpa [response] using evaluated
      | none =>
        have different : other ≠ generateCacheKey methodName args := by
          rintro rfl
          rw [cachedResponse_eq sourced, stored] at response
          cases response
        simpa [response, Function.update_of_ne different] using evaluated
    · simp only [updated] at stored
      by_cases same : other = generateCacheKey methodName args
      · subst same
        rw [Function.update_self] at stored
        exact ⟨result, by simp [missed], truthy, (Option.some.inj stored).symm⟩
      · rw [Function.update_of_ne same] at stored
        obtain ⟨earlier, evaluated, rest⟩ := sourced other cached stored
        exact ⟨earlier, by simpa [missed, Function.update_of_ne same] using evaluated, rest⟩

private theorem fromEvaluation_run {backend : Backend} {labels : List CacheLabel} {state : Evaluations}
    (reached : run (evaluate backend) .empty labels = some state) : FromEvaluation backend state :=
  run_invariant (fun _ _ _ => fromEvaluation_step) (fromEvaluation_empty backend) reached

/-- A value that Redis read back has lost the class of an error. -/
theorem dispatch_readBack_redis (result : JsValue) (truthy : result.truthy) (requestId : String) :
    dispatch (.ok (Backend.redis.readBack result)) requestId = .result (Backend.redis.readBack result) := by
  cases result with
  | undefined => cases truthy
  | json value => rfl
  | error error => rfl

private theorem readBack_jsonText (backend : Backend) (result : JsValue) :
    (backend.readBack result).jsonText = result.jsonText := by
  cases backend with
  | «local» => rfl
  | redis => cases result <;> rfl

/-- Unless an error that the handler returned went through Redis, the cached value is
reported as its evaluation was. -/
theorem sameAnswer_readBack_iff (backend : Backend) {result : JsValue} (truthy : result.truthy) :
    (∀ firstId laterId, SameAnswer firstId laterId (dispatch (.ok result) firstId)
      (dispatch (.ok (backend.readBack result)) laterId)) ↔
      backend = .local ∨ ¬ ReturnsError (.ok result) := by
  cases backend with
  | «local» => exact ⟨fun _ => Or.inl rfl, fun _ => sameAnswer_of_eq (.ok result)⟩
  | redis =>
    simp only [dispatch_readBack_redis result truthy]
    by_cases returns : ReturnsError (.ok result)
    · refine iff_of_false ?_ (by simp [returns])
      intro same
      cases result with
      | undefined => exact returns
      | json value => exact returns
      | error error =>
        have thrown : dispatch (.ok (.error error)) "" = .error (handleRpcMethodError error "") := by
          have rethrown : error.isRethrown = true := returns
          simp [dispatch, processRpcMethod, rethrown]
        have impossible := same "" ""
        rw [thrown] at impossible
        cases impossible
    · refine iff_of_true ?_ (Or.inr returns)
      intro firstId laterId
      have reported : dispatch (.ok result) firstId = .result result := by
        cases result with
        | undefined => rfl
        | json value => rfl
        | error error =>
          have kept : error.isRethrown = false := by simpa [ReturnsError] using returns
          simp [dispatch, processRpcMethod, kept]
      rw [reported]
      exact .result (readBack_jsonText .redis result).symm

/-- A call that the cache answers reports what the evaluation behind the cached value
reported exactly when the backend is the local cache or that evaluation did not return
an error as its result. -/
theorem cachedOutcome_agrees_iff (backend : Backend) {labels : List CacheLabel} {state : Evaluations}
    (reached : run (evaluate backend) .empty labels = some state) (methodName : String)
    (options : CacheOptions) (args : List HandlerArg) (unused : Except HandlerError JsValue)
    (answered : (state.store.cachedResponse (generateCacheKey methodName args)).isSome) :
    ∃ first, state.evaluated (generateCacheKey methodName args) = some first ∧
      ((∀ firstId laterId, SameAnswer firstId laterId (dispatch first firstId)
          (dispatch (cachedCall backend options methodName args unused state.store).1 laterId)) ↔
        backend = .local ∨ ¬ ReturnsError first) := by
  have sourced := fromEvaluation_run reached
  obtain ⟨cached, response⟩ := Option.isSome_iff_exists.mp answered
  have stored := cachedResponse_eq sourced (generateCacheKey methodName args)
  rw [response] at stored
  obtain ⟨result, evaluated, truthy, rfl⟩ := sourced _ cached stored.symm
  have returned : (cachedCall backend options methodName args unused state.store).1 =
      .ok (backend.readBack result) := by
    simp [cachedCall, response]
  refine ⟨.ok result, evaluated, ?_⟩
  rw [returned]
  exact sameAnswer_readBack_iff backend truthy

/-- The arguments of a fee history whose newest block lies beyond the head. -/
def beyondHeadArgs : List HandlerArg := [.json (.num 1), .json (.str "0x64"), .json (.arr [])]

/-- What its handler returns when the head is block 5. -/
def beyondHead : Except HandlerError JsValue :=
  .ok (.error (.jsonRpc (predefined.REQUEST_BEYOND_HEAD_BLOCK 100 5)))

def feeHistoryOptions : CacheOptions :=
  { skipParams := [{ index := 1, values := ["latest", "pending", "finalized", "safe"] }], ttl := some 900000 }

/-- In the local cache the error keeps its class. -/
theorem cachedOutcome_agrees_local : ∃ state,
    run (evaluate .local) .empty [.call "feeHistory" feeHistoryOptions beyondHeadArgs beyondHead] = some state ∧
    ∃ first, state.evaluated (generateCacheKey "feeHistory" beyondHeadArgs) = some first ∧
      ((∀ firstId laterId, SameAnswer firstId laterId (dispatch first firstId)
          (dispatch (cachedCall .local feeHistoryOptions "feeHistory" beyondHeadArgs beyondHead state.store).1
            laterId)) ↔
        Backend.local = .local ∨ ¬ ReturnsError first) := by
  have reached : run (evaluate .local) .empty
      [.call "feeHistory" feeHistoryOptions beyondHeadArgs beyondHead] = some _ := rfl
  exact ⟨_, reached, cachedOutcome_agrees_iff .local reached "feeHistory" feeHistoryOptions beyondHeadArgs
    beyondHead (by decide)⟩

/-- Behind Redis the second request is told that the error of the first is its result. -/
theorem cachedOutcome_differs_redis : ∃ state first,
    run (evaluate .redis) .empty [.call "feeHistory" feeHistoryOptions beyondHeadArgs beyondHead] = some state ∧
    state.evaluated (generateCacheKey "feeHistory" beyondHeadArgs) = some first ∧
    (state.store.cachedResponse (generateCacheKey "feeHistory" beyondHeadArgs)).isSome ∧
    ¬ SameAnswer "1" "2" (dispatch first "1")
      (dispatch (cachedCall .redis feeHistoryOptions "feeHistory" beyondHeadArgs beyondHead state.store).1 "2") := by
  refine ⟨_, beyondHead, rfl, rfl, rfl, ?_⟩
  intro same
  obtain ⟨error, thrown⟩ : ∃ error, dispatch beyondHead "1" = .error error := ⟨_, rfl⟩
  rw [thrown] at same
  cases same

end HieroRelay.Relay
