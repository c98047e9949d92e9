import HieroRelay.Hbar.LimiterCache
import HieroRelay.Relay.Types

/-! The HBAR limiter and its repositories, as programs over the atomic operations of the
cache. Metrics and logs are left out. -/

namespace HieroRelay.Hbar

open HieroRelay.Lib HieroRelay.Relay

inductive LimiterError where
  | planNotFound (id : PlanId)
  | planNotActive (id : PlanId)
  | evmAddressPlanNotFound (evmAddress : String)
  | ipAddressPlanNotFound (ipAddress : String)
  | noEvmAddress
  deriving Repr, DecidableEq

/-- A program that may throw. -/
abbrev Throwing (Result : Type) := ExceptT LimiterError (Prog LimiterOp LimiterOp.Answer) Result

/-- One operation of a program that may throw. -/
def await (op : LimiterOp) : Throwing op.Answer := ExceptT.lift (ask op)

/-- `try { return await .. } catch { .. }`: errors are logged and nothing is returned. -/
def attempt {Result : Type} (program : Throwing Result) : Program (Option Result) := do
  return (← program.run).toOption

structure HbarLimitService where
  tierLimits : SubscriptionTier → Int
  operatorAddress : String
  operatorAddress_ne : operatorAddress ≠ ""
  limitDuration : Nat
  limitDuration_pos : 0 < limitDuration
  /-- `evmAddress.trim().toLowerCase()` -/
  evmAddressKey : String → String
  /-- Whether counters are incremented by `INCRBY` in Redis. -/
  sharedCacheEnabled : Bool

namespace HbarSpendingPlanRepository

def findById (id : PlanId) : Throwing IHbarSpendingPlan := do
  match ← await (.getPlan id) with
  | some plan => return plan
  | none => throw (.planNotFound id)

def checkExistsAndActive (id : PlanId) : Throwing Unit := do
  let plan ← findById id
  if !plan.active then throw (.planNotActive id)

def getAmountSpent (id : PlanId) : Throwing Nat := do
  checkExistsAndActive id
  return (← await (.getAmountSpent id)).getD 0

def findByIdWithDetails (id : PlanId) : Throwing IDetailedHbarSpendingPlan := do
  let plan ← findById id
  return { plan with amountSpent := ← getAmountSpent id }

def create (subscriptionTier : SubscriptionTier) (ttl : Nat) : Throwing IDetailedHbarSpendingPlan := do
  let id ← await .uuidV4
  let createdAt ← await .dateNow
  let plan : IDetailedHbarSpendingPlan := { id, subscriptionTier, createdAt, active := true, amountSpent := 0 }
  await (.setPlan id plan.toIHbarSpendingPlan ttl)
  return plan

/-- `incrBy` of the cache service: without Redis, a read, a read of the remaining time
and a write. -/
def incrBy (sharedCacheEnabled : Bool) (id : PlanId) (amount : Nat) : Throwing Nat := do
  if sharedCacheEnabled then await (.incrAmountSpent id amount)
  else
    let value ← await (.getAmountSpent id)
    let newValue := value.getD 0 + amount
    let remainingTtl ← await (.getAmountSpentTtl id)
    await (.setAmountSpent id newValue remainingTtl)
    return newValue

/-- A counter that is missing or zero is written anew. -/
def addToAmountSpent (sharedCacheEnabled : Bool) (id : PlanId) (amount ttl : Nat) : Throwing Unit := do
  checkExistsAndActive id
  if (← await (.getAmountSpent id)).getD 0 == 0 then await (.setAmountSpent id amount ttl)
  else
    let _ ← incrBy sharedCacheEnabled id amount

/-- The counters of all plans are deleted, one after the other. -/
def deleteAll : List PlanId → Program Unit
  | [] => return ()
  | id :: rest => do
      ask (.deleteAmountSpent id)
      deleteAll rest

def resetAmountSpentOfAllPlans : Program Unit := do
  deleteAll (← ask .amountSpentKeys)

end HbarSpendingPlanRepository

def EvmAddressHbarSpendingPlanRepository.findByAddress (key evmAddress : String) :
    Throwing IEvmAddressHbarSpendingPlan := do
  match ← await (.getEvmAddress key) with
  | some addressPlan => return addressPlan
  | none => throw (.evmAddressPlanNotFound evmAddress)

def IPAddressHbarSpendingPlanRepository.findByAddress (ipAddress : String) :
    Throwing IIPAddressHbarSpendingPlan := do
  match ← await (.getIpAddress ipAddress) with
  | some addressPlan => return addressPlan
  | none => throw (.ipAddressPlanNotFound ipAddress)

namespace HbarLimitService

open HbarSpendingPlanRepository

variable (service : HbarLimitService)

def totalBudget : Int := service.tierLimits .OPERATOR

def isEnabled : Bool := 0 < service.totalBudget

def getSpendingPlanByEvmAddress (evmAddress : String) : Throwing IDetailedHbarSpendingPlan := do
  let link ← EvmAddressHbarSpendingPlanRepository.findByAddress (service.evmAddressKey evmAddress) evmAddress
  findByIdWithDetails link.planId

def getSpendingPlanByIPAddress (requestDetails : RequestDetails) : Throwing IDetailedHbarSpendingPlan := do
  let link ← IPAddressHbarSpendingPlanRepository.findByAddress requestDetails.ipAddress
  findByIdWithDetails link.planId

/-- By the address, and where that fails for any reason by the IP of the request. -/
def getSpendingPlan (evmAddress : String) (requestDetails : RequestDetails) :
    Program (Option IDetailedHbarSpendingPlan) := do
  let byAddress ← (if evmAddress != "" then attempt (service.getSpendingPlanByEvmAddress evmAddress) else pure none)
  match byAddress with
  | some plan => return some plan
  | none =>
      if requestDetails.ipAddress != "" then attempt (getSpendingPlanByIPAddress requestDetails) else return none

def createSpendingPlanForAddress (evmAddress : String) (subscriptionTier : SubscriptionTier) :
    Throwing IDetailedHbarSpendingPlan := do
  if evmAddress == "" then throw .noEvmAddress
  let spendingPlan ← create subscriptionTier service.limitDuration
  await (.setEvmAddress (service.evmAddressKey evmAddress) { evmAddress, planId := spendingPlan.id }
    service.limitDuration)
  return spendingPlan

def getOperatorSpendingPlan (requestDetails : RequestDetails) : Throwing IDetailedHbarSpendingPlan := do
  match ← ExceptT.lift (service.getSpendingPlan service.operatorAddress requestDetails) with
  | some operatorPlan => return operatorPlan
  | none => service.createSpendingPlanForAddress service.operatorAddress .OPERATOR

/-- An error leaves the whole budget. -/
def getRemainingBudget (requestDetails : RequestDetails) : Program Int := do
  match ← (service.getOperatorSpendingPlan requestDetails).run with
  | .ok operatorPlan => return service.totalBudget - operatorPlan.amountSpent
  | .error _ => return service.totalBudget

/-- The second half of `addExpense`: the plan of the caller, created when there is none,
is charged as well. Without an address none is created. -/
def addExpenseToSpendingPlan (cost : Nat) (evmAddress : String) (requestDetails : RequestDetails) :
    Throwing Unit := do
  match ← ExceptT.lift (service.getSpendingPlan evmAddress requestDetails) with
  | some spendingPlan => addToAmountSpent service.sharedCacheEnabled spendingPlan.id cost service.limitDuration
  | none =>
      if evmAddress != "" then
        let spendingPlan ← service.createSpendingPlanForAddress evmAddress .BASIC
        addToAmountSpent service.sharedCacheEnabled spendingPlan.id cost service.limitDuration

def addExpense (cost : Nat) (evmAddress : String) (requestDetails : RequestDetails) : Throwing Unit := do
  if service.isEnabled then
    let operatorPlan ← service.getOperatorSpendingPlan requestDetails
    addToAmountSpent service.sharedCacheEnabled operatorPlan.id cost service.limitDuration
    let _ ← ExceptT.lift (service.getRemainingBudget requestDetails)
    service.addExpenseToSpendingPlan cost evmAddress requestDetails

/-- Whole durations are added until the time is not in the past. -/
def getResetTimestamp (reset now : Nat) : Nat :=
  if reset < now then
    let intervalsPassed := (now - reset + service.limitDuration - 1) / service.limitDuration
    getResetTimestamp (reset + intervalsPassed * service.limitDuration) now
  else reset
termination_by now - reset
decreasing_by
  have positive := service.limitDuration_pos
  have passed : 1 ≤ (now - reset + service.limitDuration - 1) / service.limitDuration :=
    (Nat.one_le_div_iff positive).mpr (by omega)
  have added : 0 < (now - reset + service.limitDuration - 1) / service.limitDuration * service.limitDuration :=
    Nat.mul_pos passed positive
  omega

def resetLimiter (requestDetails : RequestDetails) : Program Unit := do
  resetAmountSpentOfAllPlans
  let _ ← service.getRemainingBudget requestDetails
  let reset ← ask .getReset
  let now ← ask .dateNow
  ask (.setReset (service.getResetTimestamp reset now))

def isTotalBudgetExceeded (estimatedTxFee : Nat) (requestDetails : RequestDetails) : Program Bool := do
  let now ← ask .dateNow
  let reset ← ask .getReset
  (if now ≥ reset then service.resetLimiter requestDetails else pure ())
  let remainingBudget ← service.getRemainingBudget requestDetails
  return remainingBudget ≤ 0 || remainingBudget - estimatedTxFee < 0

/-- Whether the limit of the plan's tier is reached, or would be with the fee. -/
def exceedsLimit (spendingPlan : IDetailedHbarSpendingPlan) (estimatedTxFee : Nat) : Bool :=
  let spendingLimit := service.tierLimits spendingPlan.subscriptionTier
  spendingLimit ≤ spendingPlan.amountSpent || spendingLimit < spendingPlan.amountSpent + estimatedTxFee

/-- The second half of `shouldLimit`: the limit of the caller's plan, which is created
when there is none. -/
def exceedsSpendingLimit (evmAddress : String) (requestDetails : RequestDetails) (estimatedTxFee : Nat) :
    Throwing Bool := do
  match ← ExceptT.lift (service.getSpendingPlan evmAddress requestDetails) with
  | some spendingPlan => return service.exceedsLimit spendingPlan estimatedTxFee
  | none =>
      let spendingPlan ← service.createSpendingPlanForAddress evmAddress .BASIC
      return service.exceedsLimit spendingPlan estimatedTxFee

def shouldLimit (evmAddress : String) (requestDetails : RequestDetails) (estimatedTxFee : Nat) : Throwing Bool := do
  if !service.isEnabled then return false
  if ← ExceptT.lift (service.isTotalBudgetExceeded estimatedTxFee requestDetails) then return true
  if evmAddress == "" && requestDetails.ipAddress == "" then return false
  service.exceedsSpendingLimit evmAddress requestDetails estimatedTxFee

end HbarLimitService

end HieroRelay.Hbar
