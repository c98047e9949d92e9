import HieroRelay.Cache.CacheService

/-! The keys of preconfigured spending plans in the relay as it is assembled: the
decorators of the handlers create the cache service before the relay can reserve keys. -/

namespace HieroRelay.Cache

open HieroRelay.Lib

/-- The part of a preconfigured spending plan that names cache keys. -/
structure SpendingPlanConfig where
  id : String
  evmAddresses : List String := []
  ipAddresses : List String := []

/-- `getPreconfiguredSpendingPlanKeys`; `normalize` trims an address and lowers its case. -/
def getPreconfiguredSpendingPlanKeys (normalize : String → String) (plans : List SpendingPlanConfig) :
    Finset String :=
  (plans.flatMap fun plan =>
    [s!"hbarSpendingPlan:{plan.id}", s!"hbarSpendingPlan:{plan.id}:amountSpent",
      s!"hbarSpendingPlan:{plan.id}:spendingHistory"] ++
    plan.evmAddresses.map (fun evmAddress => s!"evmAddressHbarSpendingPlan:{normalize evmAddress}") ++
    plan.ipAddresses.map (fun ipAddress => s!"ipAddressHbarSpendingPlan:{ipAddress}")).toFinset

/-- The handlers decorated with `@cache(CacheService.getInstance(CACHE_LEVEL.L1), ..)`. -/
def decoratedHandlers : List String :=
  ["traceTransaction", "traceBlockByNumber", "feeHistory", "blockNumber", "gasPrice", "getStorageAt",
    "getBalance", "getCode", "getBlockByHash", "getBlockTransactionCountByHash",
    "getBlockTransactionCountByNumber", "getTransactionByBlockHashAndIndex",
    "getTransactionByBlockNumberAndIndex", "getBlockByNumber", "getTransactionCount", "call",
    "getTransactionByHash", "getTransactionReceipt", "getLogs", "getBlockReceipts"]

variable {Value : Type} {lru : (max : Nat) → LruCache String Value max} {options : LruOptions}

/-- Loading `debug.ts` and `eth.ts` evaluates the argument of every decorator. -/
def loadHandlers (instances : Instances lru options) : Instances lru options :=
  decoratedHandlers.foldl (fun instances _ => (getInstance instances .L1 ∅).2) instances

/-- The modules are loaded before the constructor of the relay asks for its cache. -/
def assembleRelay (reservedKeys : Finset String) : CacheService lru options :=
  (getInstance (loadHandlers fun _ => none) .L1 reservedKeys).1

/-- A use of the cache service; of a lookup it tells whether a value was found. -/
inductive CacheOperation (Value : Type) where
  | set (now : Nat) (key : String) (value : Value) (ttl : Option Int)
  | get (now : Nat) (key : String) (found : Bool)
  | delete (key : String)

def CacheOperation.key : CacheOperation Value → String
  | .set _ key _ _ => key
  | .get _ key _ => key
  | .delete key => key

def serve (service : CacheService lru options) : CacheOperation Value → Option (CacheService lru options)
  | .set now key value ttl => some (service.set now key value ttl)
  | .get now key found =>
      if (service.getAsync now key).1.isSome = found then some (service.getAsync now key).2 else none
  | .delete key => some (service.delete key)

/-- The operation as a use of the bounded store. -/
def CacheOperation.toUse (options : LruOptions) : CacheOperation Value → LruUse String Value
  | .set now key value ttl => .set now key value (LocalLRUCache.resolvedTtl options ttl)
  | .get now key found => .get now key found
  | .delete key => .delete key

private theorem key_toUse (options : LruOptions) (operation : CacheOperation Value) :
    (operation.toUse options).key = operation.key := by
  cases operation <;> rfl

/-- No reserved store: every key is in the bounded one. -/
def Unreserved (service : CacheService lru options) : Prop :=
  service.internalCache.reservedCache = none

/-- The order of use in the bounded store. -/
def boundedOrder (service : CacheService lru options) : LruOrder String Value options.max :=
  (lru options.max).order service.internalCache.cache

theorem Unreserved.reservedFor {service : CacheService lru options} (unreserved : Unreserved service)
    (key : String) : service.internalCache.reservedFor key = none := by
  unfold LocalLRUCache.reservedFor
  split
  · exact unreserved
  · rfl

theorem getAsync_bounded {service : CacheService lru options} (unreserved : Unreserved service)
    (now : Nat) (key : String) :
    (service.getAsync now key).1 = ((boundedOrder service).get now key).1 ∧
      Unreserved (service.getAsync now key).2 ∧
      boundedOrder (service.getAsync now key).2 = ((boundedOrder service).get now key).2 := by
  simp only [CacheService.getAsync, LocalLRUCache.get, unreserved.reservedFor key]
  exact ⟨(lru options.max).get_value _ _ _, unreserved, (lru options.max).order_get _ _ _⟩

theorem set_bounded {service : CacheService lru options} (unreserved : Unreserved service)
    (now : Nat) (key : String) (value : Value) (ttl : Option Int) :
    Unreserved (service.set now key value ttl) ∧
      boundedOrder (service.set now key value ttl) =
        (boundedOrder service).set now key value (LocalLRUCache.resolvedTtl options ttl) := by
  simp only [CacheService.set, LocalLRUCache.set, unreserved.reservedFor key]
  exact ⟨unreserved, (lru options.max).order_set _ _ _ _ _⟩

private theorem delete_bounded {service : CacheService lru options} (unreserved : Unreserved service) (key : String) :
    Unreserved (service.delete key) ∧ boundedOrder (service.delete key) = (boundedOrder service).delete key := by
  simp only [CacheService.delete, LocalLRUCache.delete, unreserved.reservedFor key]
  exact ⟨unreserved, (lru options.max).order_delete _ _⟩

/-- Without a reserved store, the service is its bounded store. -/
theorem serve_bounded {service next : CacheService lru options} (unreserved : Unreserved service)
    {operation : CacheOperation Value} (taken : serve service operation = some next) :
    Unreserved next ∧ (boundedOrder service).use (operation.toUse options) = some (boundedOrder next) := by
  cases operation with
  | set now key value ttl =>
    cases taken
    obtain ⟨still, order⟩ := set_bounded unreserved now key value ttl
    exact ⟨still, by rw [order]; rfl⟩
  | get now key found =>
    obtain ⟨value, still, order⟩ := getAsync_bounded unreserved now key
    simp only [serve, Option.ite_none_right_eq_some, Option.some.injEq] at taken
    obtain ⟨same, rfl⟩ := taken
    refine ⟨still, ?_⟩
    rw [order, CacheOperation.toUse, LruOrder.use, ← value, if_pos same]
  | delete key =>
    cases taken
    obtain ⟨still, order⟩ := delete_bounded unreserved key
    exact ⟨still, by rw [order]; rfl⟩

theorem run_bounded {service final : CacheService lru options} (unreserved : Unreserved service)
    {operations : List (CacheOperation Value)} (reached : run serve service operations = some final) :
    Unreserved final ∧
      run LruOrder.use (boundedOrder service) (operations.map (CacheOperation.toUse options)) =
        some (boundedOrder final) := by
  induction operations generalizing service with
  | nil =>
    obtain rfl := Option.some.inj reached
    exact ⟨unreserved, rfl⟩
  | cons operation rest ih =>
    rw [run_cons, Option.bind_eq_some_iff] at reached
    obtain ⟨next, taken, reached⟩ := reached
    obtain ⟨still, used⟩ := serve_bounded unreserved taken
    obtain ⟨final, reached⟩ := ih still reached
    exact ⟨final, by rw [List.map_cons, run_cons, used, Option.bind_some, reached]⟩

/-- Once a level has an instance, later requests change nothing. -/
theorem getInstance_of_some {instances : Instances lru options} {type : CacheLevel}
    {service : CacheService lru options} (created : instances type = some service)
    (reservedKeys : Finset String) : getInstance instances type reservedKeys = (service, instances) := by
  simp [getInstance, created]

private theorem foldl_getInstance_of_some {instances : Instances lru options} {service : CacheService lru options}
    (created : instances .L1 = some service) (handlers : List String) :
    handlers.foldl (fun instances _ => (getInstance instances .L1 ∅).2) instances = instances := by
  induction handlers with
  | nil => rfl
  | cons handler rest ih => rw [List.foldl_cons, getInstance_of_some created, ih]

/-- The first decorator creates the instance of its level, without reserved keys. -/
theorem loadHandlers_L1 : (loadHandlers fun _ => none : Instances lru options) .L1 = some (.new ∅) := by
  have created : (getInstance (fun _ => none : Instances lru options) .L1 ∅).2 .L1 = some (.new ∅) := by
    simp [getInstance]
  rw [loadHandlers, decoratedHandlers, List.foldl_cons, foldl_getInstance_of_some created, created]

/-- The relay works on the instance of the decorators, whatever keys it reserves. -/
theorem assembleRelay_unreserved (reservedKeys : Finset String) :
    Unreserved (assembleRelay reservedKeys : CacheService lru options) := by
  rw [assembleRelay, getInstance_of_some loadHandlers_L1]
  simp [Unreserved, CacheService.new, LocalLRUCache.new]

/-- An entry under the key of a preconfigured plan, written without time limit, is
returned after uses of other keys exactly when at no moment since it was written
`CACHE_MAX` other entries (if there is a maximum) were the more recently used ones. -/
theorem reservedEntry_kept_iff (normalize : String → String) (plans : List SpendingPlanConfig) {key : String}
    (_reserved : key ∈ getPreconfiguredSpendingPlanKeys normalize plans)
    {earlier operations : List (CacheOperation Value)} {before after : CacheService lru options}
    (started : run serve (assembleRelay (getPreconfiguredSpendingPlanKeys normalize plans)) earlier = some before)
    (written : Nat) (value : Value) (others : ∀ operation ∈ operations, key ≠ operation.key)
    (ran : run serve (before.set written key value (some (-1))) operations = some after) (now : Nat) :
    (after.getAsync now key).1 = some value ↔
      ¬ LruOrder.Crowded options.max (operations.map (CacheOperation.toUse options)) := by
  obtain ⟨unreserved, -⟩ := run_bounded (assembleRelay_unreserved _) started
  obtain ⟨still, order⟩ := set_bounded unreserved written key value (some (-1))
  obtain ⟨final, reached⟩ := run_bounded still ran
  have stored := LruOrder.set_behind (boundedOrder before) written key value 0
  rw [order] at reached
  rw [(getAsync_bounded final now key).1]
  refine LruOrder.get_value_iff_not_crowded stored rfl ?_ reached now
  intro step member
  obtain ⟨operation, inside, rfl⟩ := List.mem_map.mp member
  rw [key_toUse]
  exact others operation inside

/-- One preconfigured plan. -/
def examplePlan : SpendingPlanConfig := { id := "plan", evmAddresses := ["0xa"] }

/-- A cache for two entries, filled from outside. -/
abbrev exampleRelay (max : Nat) : CacheService (LruCache.ofOrder String Nat) { max, ttl := 3600000 } :=
  assembleRelay (getPreconfiguredSpendingPlanKeys id [examplePlan])

theorem examplePlan_reserved :
    "hbarSpendingPlan:plan" ∈ getPreconfiguredSpendingPlanKeys id [examplePlan] := by
  simp only [getPreconfiguredSpendingPlanKeys, examplePlan, List.mem_toFinset, List.flatMap_cons, List.mem_append]
  exact Or.inl (Or.inl (Or.inl (List.mem_cons.mpr (Or.inl rfl))))

/-- With room for two entries, one other entry leaves the plan in the cache. -/
theorem reservedEntry_kept_one_other : ∃ after,
    run serve ((exampleRelay 2).set 1 "hbarSpendingPlan:plan" 7 (some (-1)))
      [.set 2 "eth_gasPrice" 5 none] = some after ∧
    ((after.getAsync 3 "hbarSpendingPlan:plan").1 = some 7 ↔
      ¬ LruOrder.Crowded 2 [.set 2 "eth_gasPrice" 5 3600000]) := by
  refine ⟨_, rfl, ?_⟩
  have others : ∀ operation ∈ [CacheOperation.set 2 "eth_gasPrice" 5 none],
      "hbarSpendingPlan:plan" ≠ operation.key := by
    simp [CacheOperation.key]
  have started : run serve (exampleRelay 2) [] = some (exampleRelay 2) := rfl
  exact reservedEntry_kept_iff id [examplePlan] examplePlan_reserved started 1 7 others rfl 3

/-- Two other entries in a cache of two: the configured plan is gone. -/
theorem reservedEntry_evicted :
    "hbarSpendingPlan:plan" ∈ getPreconfiguredSpendingPlanKeys id [examplePlan] ∧ ∃ after,
      run serve ((exampleRelay 2).set 1 "hbarSpendingPlan:plan" 7 (some (-1)))
        [.set 2 "eth_gasPrice" 5 none, .set 3 "eth_blockNumber" 6 none] = some after ∧
      (after.getAsync 4 "hbarSpendingPlan:plan").1 = none :=
  ⟨examplePlan_reserved, _, rfl, rfl⟩

end HieroRelay.Cache
