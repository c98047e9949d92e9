import HieroRelay.Hbar.Evaluation

/-! Which plan the limiter takes as the operator's, to charge an expense and to read the
remaining budget. -/

namespace HieroRelay.Hbar

open HieroRelay.Lib HieroRelay.Relay

namespace LimiterState

variable (state : LimiterState)

def LinkedToEvmKey (key : String) (id : PlanId) : Prop :=
  ∃ link, state.evmAddresses.get state.now key = some link ∧ link.planId = id

def LinkedToIpAddress (ipAddress : String) (id : PlanId) : Prop :=
  ipAddress ≠ "" ∧ ∃ link, state.ipAddresses.get state.now ipAddress = some link ∧ link.planId = id

variable {state}

theorem activePlan_eq_some {id : PlanId} {plan : IDetailedHbarSpendingPlan}
    (found : state.activePlan id = some plan) :
    state.plans.get state.now id = some plan.toIHbarSpendingPlan ∧ plan.active = true ∧
      plan.amountSpent = (state.amountSpent.get state.now id).getD 0 := by
  unfold activePlan at found
  obtain ⟨stored, kept, same⟩ := Option.map_eq_some_iff.mp found
  obtain ⟨stored, active⟩ := Option.filter_eq_some_iff.mp kept
  subst same
  exact ⟨stored, active, rfl⟩

/-- A plan carries the identifier under which it is found. -/
theorem WellFormed.activePlan_id (wellFormed : state.WellFormed) {id : PlanId} {plan : IDetailedHbarSpendingPlan}
    (found : state.activePlan id = some plan) : plan.id = id := by
  obtain ⟨stored, -, -⟩ := activePlan_eq_some found
  obtain ⟨entry, present, -, same⟩ := TtlStore.get_eq_some_iff.mp stored
  have own := wellFormed.planIds id entry present
  rw [same] at own
  exact own

/-- The counters do not decide which plans are active. -/
theorem activePlan_charge (id other : PlanId) (amount ttl : Nat) :
    ((state.charge id amount ttl).activePlan other).map IDetailedHbarSpendingPlan.toIHbarSpendingPlan =
      (state.activePlan other).map IDetailedHbarSpendingPlan.toIHbarSpendingPlan := by
  simp only [activePlan, charge, Option.map_map]
  rfl

end LimiterState

namespace HbarLimitService

variable (service : HbarLimitService)

/-- A plan of tier OPERATOR that is linked to the operator's address and not to the IP
of the request. -/
structure OwnsPlan (state : LimiterState) (requestDetails : RequestDetails)
    (plan : IDetailedHbarSpendingPlan) : Prop where
  tier : plan.subscriptionTier = .OPERATOR
  linked : state.LinkedToEvmKey (service.evmAddressKey service.operatorAddress) plan.id
  notOfIp : ¬ state.LinkedToIpAddress requestDetails.ipAddress plan.id

/-- The plan that a budget is read of or an expense charged to as the operator's, and the
plan of which the remaining budget is read after the charge, are the operator's own. -/
def OperatorPlanIdentity (state : LimiterState) (requestDetails : RequestDetails) : Prop :=
  ∃ charged after, evaluate (service.getOperatorSpendingPlan requestDetails).run state = (.ok charged, after) ∧
    service.OwnsPlan after requestDetails charged ∧
    ∀ cost, ∃ outcome later read final,
      evaluate (HbarSpendingPlanRepository.addToAmountSpent service.sharedCacheEnabled charged.id cost
        service.limitDuration).run after = (outcome, later) ∧
      evaluate (service.getOperatorSpendingPlan requestDetails).run later = (.ok read, final) ∧
      read.id = charged.id ∧ service.OwnsPlan final requestDetails read

/-- The operator's address leads to an active plan of tier OPERATOR that is not the one
of the IP, or neither the address nor the IP leads to an active plan. -/
def OperatorPlanSettled (state : LimiterState) (requestDetails : RequestDetails) : Prop :=
  match state.planByEvmKey (service.evmAddressKey service.operatorAddress) with
  | some plan =>
      plan.subscriptionTier = .OPERATOR ∧ ¬ state.LinkedToIpAddress requestDetails.ipAddress plan.id
  | none => state.planByIpAddress requestDetails.ipAddress = none

variable {service} {state : LimiterState} {requestDetails : RequestDetails}

/-- Where the operator's address leads to an active plan, that plan is taken. -/
theorem operatorPlan_of_linked {plan : IDetailedHbarSpendingPlan}
    (linked : state.planByEvmKey (service.evmAddressKey service.operatorAddress) = some plan) :
    service.operatorPlan state requestDetails = (plan, state) := by
  simp [operatorPlan, planFor, service.operatorAddress_ne, linked]

/-- Where it does not, the plan of the IP is taken. -/
theorem operatorPlan_of_ip {plan : IDetailedHbarSpendingPlan}
    (unlinked : state.planByEvmKey (service.evmAddressKey service.operatorAddress) = none)
    (ofIp : state.planByIpAddress requestDetails.ipAddress = some plan) :
    service.operatorPlan state requestDetails = (plan, state) := by
  simp [operatorPlan, planFor, unlinked, ofIp]

theorem operatorPlan_of_none
    (unlinked : state.planByEvmKey (service.evmAddressKey service.operatorAddress) = none)
    (noIp : state.planByIpAddress requestDetails.ipAddress = none) :
    service.operatorPlan state requestDetails =
      (newPlan state .OPERATOR, state.withNewPlan service service.operatorAddress .OPERATOR) := by
  simp [operatorPlan, planFor, unlinked, noIp]

private theorem linked_of_planByEvmKey (wellFormed : state.WellFormed) {key : String} {plan : IDetailedHbarSpendingPlan}
    (found : state.planByEvmKey key = some plan) : state.LinkedToEvmKey key plan.id := by
  obtain ⟨link, present, active⟩ := Option.bind_eq_some_iff.mp found
  exact ⟨link, present, (wellFormed.activePlan_id active).symm⟩

private theorem linked_of_planByIpAddress (wellFormed : state.WellFormed) {ipAddress : String}
    {plan : IDetailedHbarSpendingPlan} (found : state.planByIpAddress ipAddress = some plan) :
    state.LinkedToIpAddress ipAddress plan.id := by
  unfold LimiterState.planByIpAddress at found
  split_ifs at found with missing
  obtain ⟨link, present, active⟩ := Option.bind_eq_some_iff.mp found
  exact ⟨missing, link, present, (wellFormed.activePlan_id active).symm⟩

/-- A new plan is found under the address that it was created for. -/
theorem planByEvmKey_withNewPlan (wellFormed : state.WellFormed) (evmAddress : String)
    (subscriptionTier : SubscriptionTier) :
    (state.withNewPlan service evmAddress subscriptionTier).planByEvmKey (service.evmAddressKey evmAddress) =
      some (newPlan state subscriptionTier) := by
  have noCounter : state.amountSpent.find (.generated state.generated) = none := by
    cases found : state.amountSpent.find (.generated state.generated) with
    | none => rfl
    | some entry => exact absurd (wellFormed.counters _ entry found) (Nat.lt_irrefl _)
  have noAmount : state.amountSpent.get state.now (.generated state.generated) = none := by
    simp [TtlStore.get, noCounter]
  simp [LimiterState.planByEvmKey, LimiterState.withNewPlan, LimiterState.activePlan, noAmount, newPlan]

/-- The plan taken after a charge is the same one. -/
theorem planByEvmKey_charge {key : String} {plan : IDetailedHbarSpendingPlan} (id : PlanId) (cost ttl : Nat)
    (found : state.planByEvmKey key = some plan) :
    ∃ read, (state.charge id cost ttl).planByEvmKey key = some read ∧
      read.toIHbarSpendingPlan = plan.toIHbarSpendingPlan := by
  obtain ⟨link, present, active⟩ := Option.bind_eq_some_iff.mp found
  have same := @LimiterState.activePlan_charge state id link.planId cost ttl
  rw [active, Option.map_some] at same
  obtain ⟨read, later, equal⟩ := Option.map_eq_some_iff.mp same
  exact ⟨read, Option.bind_eq_some_iff.mpr ⟨link, present, later⟩, equal⟩

/-- A charge leaves an owned plan owned. -/
theorem OwnsPlan.charge {plan read : IDetailedHbarSpendingPlan} (owned : service.OwnsPlan state requestDetails plan)
    (id : PlanId) (cost ttl : Nat) (same : read.toIHbarSpendingPlan = plan.toIHbarSpendingPlan) :
    service.OwnsPlan (state.charge id cost ttl) requestDetails read where
  tier := by rw [same]; exact owned.tier
  linked := by rw [same]; exact owned.linked
  notOfIp := by rw [same]; exact owned.notOfIp

/-- Once the operator's address leads to an own plan, charging and reading keep to it. -/
theorem identity_of_linked {plan : IDetailedHbarSpendingPlan} {after : LimiterState}
    (taken : service.operatorPlan state requestDetails = (plan, after))
    (linked : after.planByEvmKey (service.evmAddressKey service.operatorAddress) = some plan)
    (owned : service.OwnsPlan after requestDetails plan) : service.OperatorPlanIdentity state requestDetails := by
  refine ⟨plan, after, ?_, owned, ?_⟩
  · rw [evaluate_getOperatorSpendingPlan, taken]
  · intro cost
    have charging := evaluate_addToAmountSpent service.sharedCacheEnabled plan.id cost service.limitDuration after
    cases active : after.activePlan plan.id with
    | none =>
      rw [active] at charging
      refine ⟨_, after, plan, after, charging, ?_, rfl, owned⟩
      rw [evaluate_getOperatorSpendingPlan, operatorPlan_of_linked linked]
    | some found =>
      rw [active] at charging
      obtain ⟨read, later, same⟩ := planByEvmKey_charge plan.id cost service.limitDuration linked
      refine ⟨_, _, read, _, charging, ?_, by rw [same], owned.charge plan.id cost service.limitDuration same⟩
      rw [evaluate_getOperatorSpendingPlan, operatorPlan_of_linked later]

/-- The limiter charges and reads the operator's own plan exactly when the operator's
address leads to such a plan, or when neither that address nor the IP of the request
leads to an active plan. -/
theorem operatorPlanIdentity_iff (service : HbarLimitService) {state : LimiterState} (wellFormed : state.WellFormed)
    (requestDetails : RequestDetails) :
    service.OperatorPlanIdentity state requestDetails ↔ service.OperatorPlanSettled state requestDetails := by
  unfold OperatorPlanSettled
  cases linked : state.planByEvmKey (service.evmAddressKey service.operatorAddress) with
  | some plan =>
    have taken := @operatorPlan_of_linked service state requestDetails plan linked
    constructor
    · intro identity
      obtain ⟨charged, after, evaluated, owned, -⟩ := identity
      rw [evaluate_getOperatorSpendingPlan, taken] at evaluated
      cases evaluated
      exact ⟨owned.tier, owned.notOfIp⟩
    · intro settled
      exact identity_of_linked taken linked
        { tier := settled.1, linked := linked_of_planByEvmKey wellFormed linked, notOfIp := settled.2 }
  | none =>
    cases ofIp : state.planByIpAddress requestDetails.ipAddress with
    | some plan =>
      have taken := operatorPlan_of_ip linked ofIp
      refine iff_of_false ?_ (by simp)
      intro identity
      obtain ⟨charged, after, evaluated, owned, -⟩ := identity
      rw [evaluate_getOperatorSpendingPlan, taken] at evaluated
      cases evaluated
      exact owned.notOfIp (linked_of_planByIpAddress wellFormed ofIp)
    | none =>
      have taken := operatorPlan_of_none linked ofIp
      have found := @planByEvmKey_withNewPlan service state wellFormed service.operatorAddress .OPERATOR
      refine iff_of_true (identity_of_linked taken found ?_) rfl
      refine { tier := rfl, linked := ?_, notOfIp := ?_ }
      · exact ⟨_, TtlStore.get_set_self _ _ _ _ _, rfl⟩
      · intro ofRequest
        obtain ⟨-, link, present, same⟩ := ofRequest
        obtain ⟨entry, stored, -, value⟩ := TtlStore.get_eq_some_iff.mp present
        have known := wellFormed.ipLinks _ entry stored
        rw [value, same] at known
        exact Nat.lt_irrefl _ known

/-- A configured plan that is linked to an IP, and none for the operator. -/
def ipPlanState : LimiterState :=
  { LimiterState.initial 1000 2000 with
    plans := TtlStore.empty.set 0 (.configured "ip") {
      id := .configured "ip", subscriptionTier := .EXTENDED, createdAt := 0, active := true } 0
    ipAddresses := TtlStore.empty.set 0 "10.0.0.1" { ipAddress := "10.0.0.1", planId := .configured "ip" } 0 }

private theorem ipPlanState_wellFormed : ipPlanState.WellFormed where
  planIds := by
    intro id entry found
    by_cases same : id = .configured "ip"
    · subst same
      cases found
      rfl
    · rw [ipPlanState, TtlStore.find_set_other same] at found
      cases found
  plans := by
    intro id entry found
    by_cases same : id = .configured "ip"
    · subst same
      trivial
    · rw [ipPlanState, TtlStore.find_set_other same] at found
      cases found
  counters := by
    intro id entry found
    cases found
  evmLinks := by
    intro key entry found
    cases found
  ipLinks := by
    intro key entry found
    by_cases same : key = "10.0.0.1"
    · subst same
      cases found
      trivial
    · rw [ipPlanState, TtlStore.find_set_other same] at found
      cases found

/-- A request of another IP gets the operator a plan of its own. -/
theorem operatorPlanIdentity_otherIp :
    exampleService.OperatorPlanIdentity ipPlanState { requestId := "1", ipAddress := "10.0.0.9" } ↔
      exampleService.OperatorPlanSettled ipPlanState { requestId := "1", ipAddress := "10.0.0.9" } :=
  operatorPlanIdentity_iff exampleService ipPlanState_wellFormed { requestId := "1", ipAddress := "10.0.0.9" }

/-- A request of the IP is charged to the plan of the IP as the operator's. -/
theorem operatorPlan_ofIp_charged :
    (evaluate (exampleService.getOperatorSpendingPlan { requestId := "1", ipAddress := "10.0.0.1" }).run
      ipPlanState).1 = .ok {
        id := .configured "ip", subscriptionTier := .EXTENDED, createdAt := 0, active := true, amountSpent := 0 } ∧
    ipPlanState.LinkedToIpAddress "10.0.0.1" (.configured "ip") ∧
    ¬ exampleService.OperatorPlanIdentity ipPlanState { requestId := "1", ipAddress := "10.0.0.1" } := by
  refine ⟨rfl, ⟨by decide, _, rfl, rfl⟩, ?_⟩
  intro identity
  obtain ⟨charged, after, evaluated, owned, -⟩ := identity
  cases evaluated
  cases owned.tier

end HbarLimitService

end HieroRelay.Hbar
