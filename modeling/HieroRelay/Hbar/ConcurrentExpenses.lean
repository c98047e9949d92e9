import HieroRelay.Hbar.WindowBudget
import Mathlib.Algebra.BigOperators.Group.Finset.Basic
import Mathlib.Algebra.Order.BigOperators.Group.Finset
import Mathlib.Data.Fintype.Basic

/-! Calls of `addExpense` in flight together: their operations on the shared cache
interleave, and time passes between them. -/

namespace HieroRelay.Hbar

open HieroRelay.Lib HieroRelay.Relay

namespace LimiterState

variable (state : LimiterState)

/-- What the counter of a plan says; a counter that is missing says zero. -/
def amountOf (id : PlanId) : Nat := (state.amountSpent.get state.now id).getD 0

/-- The same entries are read. -/
structure SameEntries (before after : LimiterState) : Prop where
  plans : ∀ id, after.plans.get after.now id = before.plans.get before.now id
  amountSpent : ∀ id, after.amountSpent.get after.now id = before.amountSpent.get before.now id
  evmAddresses : ∀ key, after.evmAddresses.get after.now key = before.evmAddresses.get before.now key
  ipAddresses : ∀ ipAddress, after.ipAddresses.get after.now ipAddress = before.ipAddresses.get before.now ipAddress

end LimiterState

/-- The plan whose counter an operation writes. -/
def LimiterOp.chargedPlan : LimiterOp → Option PlanId
  | .setAmountSpent id _ _ => some id
  | .incrAmountSpent id _ => some id
  | _ => none

/-- The arguments of a call of `addExpense`. -/
structure Expense where
  cost : Nat
  evmAddress : String
  requestDetails : RequestDetails

/-- The cache and the times that the next operations take, and what each call did: the
counter that it read last, the keys of addresses that it looked up, the plans that it
charged and the plans that it created. -/
structure SharedExpenses (Call : Type) where
  cache : LimiterState
  delays : List Nat
  lastRead : Call → Nat
  looked : Call → List String
  charged : Call → List PlanId
  creator : PlanId → Option Call

namespace SharedExpenses

variable {Call : Type} [DecidableEq Call] (shared : SharedExpenses Call)

def initial (cache : LimiterState) (delays : List Nat) : SharedExpenses Call where
  cache
  delays
  lastRead _ := 0
  looked _ := []
  charged _ := []
  creator _ := none

/-- The time before the next operation has passed. -/
def waited : SharedExpenses Call :=
  { shared with
    cache := { shared.cache with now := shared.cache.now + shared.delays.headD 0 }
    delays := shared.delays.tail }

/-- The record of an operation. -/
def note (call : Call) (op : LimiterOp) : SharedExpenses Call :=
  match op with
  | .getAmountSpent id =>
      { shared with lastRead := Function.update shared.lastRead call (shared.cache.amountOf id) }
  | .getEvmAddress key =>
      { shared with looked := Function.update shared.looked call (key :: shared.looked call) }
  | .setAmountSpent id _ _ =>
      { shared with charged := Function.update shared.charged call (id :: shared.charged call) }
  | .incrAmountSpent id _ =>
      { shared with charged := Function.update shared.charged call (id :: shared.charged call) }
  | .uuidV4 =>
      { shared with creator := Function.update shared.creator (.generated shared.cache.generated) (some call) }
  | _ => shared

def perform (call : Call) (op : LimiterOp) (shared : SharedExpenses Call) : op.Answer × SharedExpenses Call :=
  ((shared.waited.cache.perform op).1,
    { shared.waited.note call op with cache := (shared.waited.cache.perform op).2 })

end SharedExpenses

namespace HbarLimitService

variable {Call : Type} (service : HbarLimitService) (calls : Call → Expense)

/-- Where an operation loses no expense: no entry expires, a counter is written over the
amount that the call read last, a call writes the counter of a plan once (its own plan is
not the operator's), an address is linked before any other call looks it up, and the
operator's plan is looked up when it is there or when the IP has no plan. -/
structure Undisturbed (call : Call) (op : LimiterOp) (shared : SharedExpenses Call) : Prop where
  unexpired : shared.cache.SameEntries shared.waited.cache
  counter : ∀ id amount ttl, op = .setAmountSpent id amount ttl → shared.cache.amountOf id = shared.lastRead call
  once : ∀ id, op.chargedPlan = some id → id ∉ shared.charged call
  link : ∀ key link ttl, op = .setEvmAddress key link ttl → ∀ other, other ≠ call → key ∉ shared.looked other
  operator : op = .getEvmAddress service.operatorKey →
    shared.cache.planByEvmKey service.operatorKey ≠ none ∨
      shared.cache.planByIpAddress (calls call).requestDetails.ipAddress = none

/-- The plan that a call is charged to besides the operator's. -/
def ownPlanId (cache : LimiterState) (call : Call) : Option PlanId :=
  (service.planFor cache (calls call).evmAddress (calls call).requestDetails).map fun plan => plan.id

def ownCosts [Fintype Call] (cache : LimiterState) (id : PlanId) : Nat :=
  ∑ call, if service.ownPlanId calls cache call = some id then (calls call).cost else 0

/-- The costs of the calls for an address. -/
def addressCosts [Fintype Call] (key : String) : Nat :=
  ∑ call, if (calls call).evmAddress ≠ "" ∧ service.evmAddressKey (calls call).evmAddress = key then (calls call).cost
    else 0

/-- No expense is lost: each cost is on the operator's plan, and on the plan to which the
address or else the IP of its call leads. A plan to which one address alone leads has the
costs of that address. -/
structure NoExpenseLost [Fintype Call] (before after : LimiterState) : Prop where
  operator : ∀ plan, after.planByEvmKey service.operatorKey = some plan →
    plan.amountSpent = before.amountOf plan.id + ∑ call, (calls call).cost
  address : ∀ key plan, after.planByEvmKey key = some plan →
    (∀ operatorPlan, after.planByEvmKey service.operatorKey = some operatorPlan → plan.id ≠ operatorPlan.id) →
    plan.amountSpent = before.amountOf plan.id + service.ownCosts calls after plan.id
  unshared : ∀ key plan, after.planByEvmKey key = some plan →
    (∀ operatorPlan, after.planByEvmKey service.operatorKey = some operatorPlan → plan.id ≠ operatorPlan.id) →
    (∀ call, service.ownPlanId calls after call = some plan.id →
      (calls call).evmAddress ≠ "" ∧ service.evmAddressKey (calls call).evmAddress = key) →
    plan.amountSpent = before.amountOf plan.id + service.addressCosts calls key
  planned : ∀ call, after.planByEvmKey service.operatorKey ≠ none ∧
    ((calls call).evmAddress ≠ "" → service.ownPlanId calls after call ≠ none)

end HbarLimitService

end HieroRelay.Hbar
