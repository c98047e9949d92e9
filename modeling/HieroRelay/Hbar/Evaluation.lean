import HieroRelay.Hbar.HbarLimitService

/-! What each program of the limiter does when it runs alone: one equation for each, in
terms of the plans that are live in the state. -/

namespace HieroRelay.Hbar

open HieroRelay.Lib HieroRelay.Relay

/-- The program alone, from a state. -/
abbrev evaluate {Result : Type} (program : Program Result) (state : LimiterState) : Result × LimiterState :=
  program.eval LimiterState.perform state

theorem evaluate_return {Result : Type} (result : Result) (state : LimiterState) :
    evaluate (pure result : Throwing Result).run state = (.ok result, state) := rfl

theorem evaluate_attempt {Result : Type} (program : Throwing Result) (state : LimiterState) :
    evaluate (attempt program) state =
      ((evaluate program.run state).1.toOption, (evaluate program.run state).2) := by
  unfold evaluate attempt
  rw [Prog.eval_bind]
  rfl

theorem evaluate_lift_bind {Middle Result : Type} (program : Program Middle) (next : Middle → Throwing Result)
    (state : LimiterState) :
    evaluate (ExceptT.lift program >>= next).run state =
      evaluate (next (evaluate program state).1).run (evaluate program state).2 := by
  unfold evaluate
  rw [ExceptT.run_bind, ExceptT.run_lift]
  simp

theorem evaluate_bind {Middle Result : Type} (program : Throwing Middle) (next : Middle → Throwing Result)
    (state : LimiterState) :
    evaluate (program >>= next).run state =
      match evaluate program.run state with
      | (.ok middle, after) => evaluate (next middle).run after
      | (.error error, after) => (.error error, after) := by
  unfold evaluate
  rw [ExceptT.run_bind, Prog.eval_bind]
  cases program.run.eval LimiterState.perform state with
  | mk outcome after => cases outcome <;> rfl

namespace LimiterState

variable (state : LimiterState)

/-- The plan with its counter, when it is there and active. -/
def activePlan (id : PlanId) : Option IDetailedHbarSpendingPlan :=
  ((state.plans.get state.now id).filter IHbarSpendingPlan.active).map fun plan =>
    { plan with amountSpent := (state.amountSpent.get state.now id).getD 0 }

def planByEvmKey (key : String) : Option IDetailedHbarSpendingPlan :=
  (state.evmAddresses.get state.now key).bind fun link => state.activePlan link.planId

def planByIpAddress (ipAddress : String) : Option IDetailedHbarSpendingPlan :=
  if ipAddress = "" then none
  else (state.ipAddresses.get state.now ipAddress).bind fun link => state.activePlan link.planId

/-- The state after a new plan for an address. -/
def withNewPlan (service : HbarLimitService) (evmAddress : String) (subscriptionTier : SubscriptionTier) :
    LimiterState :=
  { state with
    generated := state.generated + 1
    plans := state.plans.set state.now (.generated state.generated)
      { id := .generated state.generated, subscriptionTier, createdAt := state.now, active := true }
      service.limitDuration
    evmAddresses := state.evmAddresses.set state.now (service.evmAddressKey evmAddress)
      { evmAddress, planId := .generated state.generated } service.limitDuration }

/-- The counter of a plan after an expense. -/
def charge (id : PlanId) (amount ttl : Nat) : LimiterState :=
  { state with
    amountSpent :=
      if (state.amountSpent.get state.now id).getD 0 = 0 then state.amountSpent.set state.now id amount ttl
      else state.amountSpent.set state.now id (state.incrBy id amount)
        (state.amountSpent.remainingTtl state.now id) }

end LimiterState

/-- The identifier is configured or was generated before. -/
def PlanId.KnownTo (id : PlanId) (generated : Nat) : Prop :=
  match id with
  | .configured _ => True
  | .generated number => number < generated

/-- What the repositories write: a plan under its own identifier, and no identifier that
was not generated yet. -/
structure LimiterState.WellFormed (state : LimiterState) : Prop where
  planIds : ∀ id entry, state.plans.find id = some entry → entry.value.id = id
  plans : ∀ id entry, state.plans.find id = some entry → id.KnownTo state.generated
  counters : ∀ id entry, state.amountSpent.find id = some entry → id.KnownTo state.generated
  evmLinks : ∀ key entry, state.evmAddresses.find key = some entry → entry.value.planId.KnownTo state.generated
  ipLinks : ∀ key entry, state.ipAddresses.find key = some entry → entry.value.planId.KnownTo state.generated

theorem LimiterState.wellFormed_initial (now reset : Nat) : (LimiterState.initial now reset).WellFormed where
  planIds := by simp [initial]
  plans := by simp [initial]
  counters := by simp [initial]
  evmLinks := by simp [initial]
  ipLinks := by simp [initial]

/-- The new plan of an address. -/
def newPlan (state : LimiterState) (subscriptionTier : SubscriptionTier) : IDetailedHbarSpendingPlan where
  id := .generated state.generated
  subscriptionTier
  createdAt := state.now
  active := true
  amountSpent := 0

open HbarSpendingPlanRepository

theorem evaluate_findById (id : PlanId) (state : LimiterState) :
    evaluate (findById id).run state =
      (match state.plans.get state.now id with
        | some plan => .ok plan
        | none => .error (.planNotFound id), state) := by
  have asked : evaluate (await (.getPlan id)).run state = (.ok (state.plans.get state.now id), state) := rfl
  rw [findById, evaluate_bind, asked]
  cases state.plans.get state.now id <;> rfl

theorem evaluate_checkExistsAndActive (id : PlanId) (state : LimiterState) :
    evaluate (checkExistsAndActive id).run state =
      (match state.plans.get state.now id with
        | some plan => if plan.active then .ok () else .error (.planNotActive id)
        | none => .error (.planNotFound id), state) := by
  rw [checkExistsAndActive, evaluate_bind, evaluate_findById]
  cases stored : state.plans.get state.now id with
  | none => rfl
  | some plan =>
    cases active : plan.active with
    | false =>
      simp only [active, Bool.false_eq_true, if_false, Bool.not_false, if_true]
      rfl
    | true =>
      simp only [active, if_true, Bool.not_true, Bool.false_eq_true, if_false]
      rfl

private theorem evaluate_getAmountSpent (id : PlanId) (state : LimiterState) :
    evaluate (getAmountSpent id).run state =
      (match state.plans.get state.now id with
        | some plan =>
            if plan.active then .ok ((state.amountSpent.get state.now id).getD 0) else .error (.planNotActive id)
        | none => .error (.planNotFound id), state) := by
  rw [getAmountSpent, evaluate_bind, evaluate_checkExistsAndActive]
  cases stored : state.plans.get state.now id with
  | none => rfl
  | some plan =>
    cases active : plan.active with
    | false =>
      simp only [active, Bool.false_eq_true, if_false]
    | true =>
      simp only [active, if_true]
      rfl

theorem evaluate_findByIdWithDetails (id : PlanId) (state : LimiterState) :
    ∃ outcome, evaluate (findByIdWithDetails id).run state = (outcome, state) ∧
      outcome.toOption = state.activePlan id := by
  rw [findByIdWithDetails, evaluate_bind, evaluate_findById]
  unfold LimiterState.activePlan
  cases stored : state.plans.get state.now id with
  | none => exact ⟨_, rfl, rfl⟩
  | some plan =>
    simp only [evaluate_bind, evaluate_getAmountSpent, stored]
    cases active : plan.active with
    | false =>
      simp only [active, Bool.false_eq_true, if_false, Option.filter_some, Option.map_none]
      exact ⟨_, rfl, rfl⟩
    | true =>
      simp only [active, if_true, Option.filter_some, Option.map_some]
      exact ⟨_, rfl, rfl⟩

theorem evaluate_addToAmountSpent (sharedCacheEnabled : Bool) (id : PlanId) (amount ttl : Nat)
    (state : LimiterState) :
    evaluate (addToAmountSpent sharedCacheEnabled id amount ttl).run state =
      match state.activePlan id with
      | some _ => (.ok (), state.charge id amount ttl)
      | none => ((evaluate (checkExistsAndActive id).run state).1, state) := by
  have asked : evaluate (await (.getAmountSpent id)).run state =
      (.ok (state.amountSpent.get state.now id), state) := rfl
  rw [addToAmountSpent, evaluate_bind, evaluate_checkExistsAndActive]
  unfold LimiterState.activePlan
  cases stored : state.plans.get state.now id with
  | none => rfl
  | some plan =>
    cases active : plan.active with
    | false => simp only [active, Bool.false_eq_true, if_false, Option.filter_some, Option.map_none]
    | true =>
      simp only [active, if_true, Option.filter_some, Option.map_some, evaluate_bind, asked]
      unfold LimiterState.charge
      by_cases zero : (state.amountSpent.get state.now id).getD 0 = 0
      · rw [if_pos zero, if_pos (beq_iff_eq.mpr zero)]
        rfl
      · rw [if_neg zero, if_neg (fun same => zero (beq_iff_eq.mp same))]
        cases sharedCacheEnabled <;> rfl

namespace HbarLimitService

variable (service : HbarLimitService)

/-- The plan that a request is charged to. -/
def planFor (state : LimiterState) (evmAddress : String) (requestDetails : RequestDetails) :
    Option IDetailedHbarSpendingPlan :=
  (if evmAddress = "" then none else state.planByEvmKey (service.evmAddressKey evmAddress)).or
    (state.planByIpAddress requestDetails.ipAddress)

private theorem evaluate_getSpendingPlanByEvmAddress (evmAddress : String) (state : LimiterState) :
    evaluate (attempt (service.getSpendingPlanByEvmAddress evmAddress)) state =
      (state.planByEvmKey (service.evmAddressKey evmAddress), state) := by
  have asked : evaluate (await (.getEvmAddress (service.evmAddressKey evmAddress))).run state =
      (.ok (state.evmAddresses.get state.now (service.evmAddressKey evmAddress)), state) := rfl
  rw [evaluate_attempt, getSpendingPlanByEvmAddress, EvmAddressHbarSpendingPlanRepository.findByAddress,
    evaluate_bind, evaluate_bind, asked]
  unfold LimiterState.planByEvmKey
  cases state.evmAddresses.get state.now (service.evmAddressKey evmAddress) with
  | none => rfl
  | some link =>
    obtain ⟨outcome, evaluated, same⟩ := evaluate_findByIdWithDetails link.planId state
    simp only [evaluate_return, evaluated, same, Option.bind_some]

private theorem evaluate_getSpendingPlanByIPAddress (requestDetails : RequestDetails) (state : LimiterState)
    (present : requestDetails.ipAddress ≠ "") :
    evaluate (attempt (getSpendingPlanByIPAddress requestDetails)) state =
      (state.planByIpAddress requestDetails.ipAddress, state) := by
  have asked : evaluate (await (.getIpAddress requestDetails.ipAddress)).run state =
      (.ok (state.ipAddresses.get state.now requestDetails.ipAddress), state) := rfl
  rw [evaluate_attempt, getSpendingPlanByIPAddress, IPAddressHbarSpendingPlanRepository.findByAddress,
    evaluate_bind, evaluate_bind, asked, LimiterState.planByIpAddress, if_neg present]
  cases state.ipAddresses.get state.now requestDetails.ipAddress with
  | none => rfl
  | some link =>
    obtain ⟨outcome, evaluated, same⟩ := evaluate_findByIdWithDetails link.planId state
    simp only [evaluate_return, evaluated, same, Option.bind_some]

theorem evaluate_getSpendingPlan (evmAddress : String) (requestDetails : RequestDetails) (state : LimiterState) :
    evaluate (service.getSpendingPlan evmAddress requestDetails) state =
      (service.planFor state evmAddress requestDetails, state) := by
  have byAddress : evaluate (if evmAddress != "" then attempt (service.getSpendingPlanByEvmAddress evmAddress)
      else pure none) state =
        (if evmAddress = "" then none else state.planByEvmKey (service.evmAddressKey evmAddress), state) := by
    by_cases missing : evmAddress = ""
    · simp [missing]
    · rw [if_pos (bne_iff_ne.mpr missing), if_neg missing]
      exact service.evaluate_getSpendingPlanByEvmAddress evmAddress state
  unfold evaluate at byAddress
  unfold evaluate getSpendingPlan planFor
  rw [Prog.eval_bind, byAddress]
  cases (if evmAddress = "" then none else state.planByEvmKey (service.evmAddressKey evmAddress)) with
  | some plan => rfl
  | none =>
    by_cases missing : requestDetails.ipAddress = ""
    · simp [missing, LimiterState.planByIpAddress]
    · simp only [bne_iff_ne.mpr missing, if_true, Option.none_or]
      exact evaluate_getSpendingPlanByIPAddress requestDetails state missing

theorem evaluate_createSpendingPlanForAddress {evmAddress : String} (present : evmAddress ≠ "")
    (subscriptionTier : SubscriptionTier) (state : LimiterState) :
    evaluate (service.createSpendingPlanForAddress evmAddress subscriptionTier).run state =
      (.ok (newPlan state subscriptionTier), state.withNewPlan service evmAddress subscriptionTier) := by
  have given : (evmAddress == "") = false := by simpa using present
  simp only [createSpendingPlanForAddress, given, Bool.false_eq_true, if_false]
  rfl

/-- The operator's plan, and the state in which it is there. -/
def operatorPlan (state : LimiterState) (requestDetails : RequestDetails) :
    IDetailedHbarSpendingPlan × LimiterState :=
  match service.planFor state service.operatorAddress requestDetails with
  | some plan => (plan, state)
  | none => (newPlan state .OPERATOR, state.withNewPlan service service.operatorAddress .OPERATOR)

theorem evaluate_getOperatorSpendingPlan (requestDetails : RequestDetails) (state : LimiterState) :
    evaluate (service.getOperatorSpendingPlan requestDetails).run state =
      (.ok (service.operatorPlan state requestDetails).1, (service.operatorPlan state requestDetails).2) := by
  rw [getOperatorSpendingPlan, evaluate_lift_bind, evaluate_getSpendingPlan]
  unfold operatorPlan
  cases service.planFor state service.operatorAddress requestDetails with
  | some plan => rfl
  | none => exact service.evaluate_createSpendingPlanForAddress service.operatorAddress_ne .OPERATOR state

theorem evaluate_getRemainingBudget (requestDetails : RequestDetails) (state : LimiterState) :
    evaluate (service.getRemainingBudget requestDetails) state =
      (service.totalBudget - (service.operatorPlan state requestDetails).1.amountSpent,
        (service.operatorPlan state requestDetails).2) := by
  have found := service.evaluate_getOperatorSpendingPlan requestDetails state
  unfold evaluate at found
  unfold evaluate getRemainingBudget
  rw [Prog.eval_bind, found]
  rfl

/-- The caller's plan and the state in which it is there; none is created without an
address. -/
def callerPlan (state : LimiterState) (evmAddress : String) (requestDetails : RequestDetails) :
    Option IDetailedHbarSpendingPlan × LimiterState :=
  match service.planFor state evmAddress requestDetails with
  | some plan => (some plan, state)
  | none =>
      if evmAddress = "" then (none, state)
      else (some (newPlan state .BASIC), state.withNewPlan service evmAddress .BASIC)

theorem evaluate_addExpenseToSpendingPlan (cost : Nat) (evmAddress : String) (requestDetails : RequestDetails)
    (state : LimiterState) :
    evaluate (service.addExpenseToSpendingPlan cost evmAddress requestDetails).run state =
      match service.callerPlan state evmAddress requestDetails with
      | (some plan, after) =>
          evaluate (addToAmountSpent service.sharedCacheEnabled plan.id cost service.limitDuration).run after
      | (none, after) => (.ok (), after) := by
  rw [addExpenseToSpendingPlan, evaluate_lift_bind, evaluate_getSpendingPlan]
  unfold callerPlan
  cases service.planFor state evmAddress requestDetails with
  | some plan => rfl
  | none =>
    by_cases missing : evmAddress = ""
    · subst missing
      rfl
    · simp only [bne_iff_ne.mpr missing, if_true, if_neg missing]
      rw [evaluate_bind, evaluate_createSpendingPlanForAddress service missing]

/-- An expense is charged to the operator's plan first. -/
theorem evaluate_addExpense (enabled : service.isEnabled = true) (cost : Nat) (evmAddress : String)
    (requestDetails : RequestDetails) {state after : LimiterState} {operatorPlan active : IDetailedHbarSpendingPlan}
    (taken : service.operatorPlan state requestDetails = (operatorPlan, after))
    (found : after.activePlan operatorPlan.id = some active) :
    evaluate (service.addExpense cost evmAddress requestDetails).run state =
      evaluate (service.addExpenseToSpendingPlan cost evmAddress requestDetails).run
        (service.operatorPlan (after.charge operatorPlan.id cost service.limitDuration) requestDetails).2 := by
  have charged := evaluate_addToAmountSpent service.sharedCacheEnabled operatorPlan.id cost service.limitDuration after
  rw [found] at charged
  rw [addExpense, if_pos enabled, evaluate_bind, evaluate_getOperatorSpendingPlan, taken]
  simp only
  rw [evaluate_bind, charged]
  simp only
  rw [evaluate_lift_bind, evaluate_getRemainingBudget]

private theorem evaluate_exceedsSpendingLimit (evmAddress : String) (requestDetails : RequestDetails)
    (estimatedTxFee : Nat)
    (state : LimiterState) :
    (evaluate (service.exceedsSpendingLimit evmAddress requestDetails estimatedTxFee).run state).2 =
      (service.callerPlan state evmAddress requestDetails).2 := by
  rw [exceedsSpendingLimit, evaluate_lift_bind, evaluate_getSpendingPlan]
  unfold callerPlan
  cases service.planFor state evmAddress requestDetails with
  | some plan => rfl
  | none =>
    by_cases missing : evmAddress = ""
    · subst missing
      rfl
    · simp only [if_neg missing]
      rw [evaluate_bind, evaluate_createSpendingPlanForAddress service missing]
      rfl

end HbarLimitService

/-- Deleting the counters of the listed plans leaves the other counters. -/
theorem evaluate_deleteAll (ids : List PlanId) (state : LimiterState) :
    ∃ amountSpent, (evaluate (deleteAll ids) state).2 = { state with amountSpent } ∧
      (∀ id ∈ ids, amountSpent.find id = none) ∧
      ∀ id ∉ ids, amountSpent.find id = state.amountSpent.find id := by
  induction ids generalizing state with
  | nil => exact ⟨state.amountSpent, rfl, by simp, by simp⟩
  | cons id rest ih =>
    obtain ⟨amountSpent, evaluated, deleted, kept⟩ :=
      ih { state with amountSpent := state.amountSpent.delete id }
    refine ⟨amountSpent, evaluated, ?_, ?_⟩
    · intro other listed
      by_cases later : other ∈ rest
      · exact deleted other later
      · have same : other = id := by simpa [later] using listed
        rw [kept other later, same, TtlStore.find_delete_self]
    · intro other unlisted
      have different : other ≠ id := fun same => unlisted (by simp [same])
      have notLater : other ∉ rest := fun later => unlisted (by simp [later])
      rw [kept other notLater, TtlStore.find_delete_other different]

/-- A reset leaves no counter. -/
theorem evaluate_resetAmountSpentOfAllPlans (state : LimiterState) :
    ∃ amountSpent, (evaluate resetAmountSpentOfAllPlans state).2 = { state with amountSpent } ∧
      ∀ id, amountSpent.find id = none := by
  obtain ⟨amountSpent, evaluated, deleted, kept⟩ := evaluate_deleteAll state.amountSpent.keys state
  refine ⟨amountSpent, evaluated, ?_⟩
  intro id
  by_cases listed : id ∈ state.amountSpent.keys
  · exact deleted id listed
  · rw [kept id listed]
    exact TtlStore.find_eq_none_of_not_mem_keys listed

namespace HbarLimitService

variable (service : HbarLimitService)

theorem evaluate_resetLimiter (requestDetails : RequestDetails) (state : LimiterState) :
    (evaluate (service.resetLimiter requestDetails) state).2 =
      let after := (service.operatorPlan (evaluate resetAmountSpentOfAllPlans state).2 requestDetails).2
      { after with reset := service.getResetTimestamp after.reset after.now } := by
  have read := service.evaluate_getRemainingBudget requestDetails (evaluate resetAmountSpentOfAllPlans state).2
  unfold evaluate at read ⊢
  rw [resetLimiter, Prog.eval_bind, Prog.eval_bind, read]
  rfl

/-- The total budget is checked after a reset that is due. -/
theorem evaluate_isTotalBudgetExceeded (estimatedTxFee : Nat) (requestDetails : RequestDetails)
    (state : LimiterState) :
    (evaluate (service.isTotalBudgetExceeded estimatedTxFee requestDetails) state).2 =
      (service.operatorPlan
        (if state.now ≥ state.reset then (evaluate (service.resetLimiter requestDetails) state).2 else state)
        requestDetails).2 := by
  have asked : evaluate (service.isTotalBudgetExceeded estimatedTxFee requestDetails) state =
      evaluate ((if state.now ≥ state.reset then service.resetLimiter requestDetails else pure ()) >>= fun _ =>
        service.getRemainingBudget requestDetails >>= fun remainingBudget =>
          pure (remainingBudget ≤ 0 || remainingBudget - estimatedTxFee < 0)) state := rfl
  rw [asked]
  unfold evaluate
  rw [Prog.eval_bind, Prog.eval_bind]
  by_cases due : state.now ≥ state.reset
  · simp only [if_pos due]
    exact congrArg Prod.snd (service.evaluate_getRemainingBudget requestDetails _)
  · simp only [if_neg due]
    exact congrArg Prod.snd (service.evaluate_getRemainingBudget requestDetails state)

theorem evaluate_shouldLimit (enabled : service.isEnabled = true) (evmAddress : String)
    (requestDetails : RequestDetails) (estimatedTxFee : Nat) (state : LimiterState) :
    let after := (evaluate (service.isTotalBudgetExceeded estimatedTxFee requestDetails) state).2
    (evaluate (service.shouldLimit evmAddress requestDetails estimatedTxFee).run state).2 = after ∨
      (evaluate (service.shouldLimit evmAddress requestDetails estimatedTxFee).run state).2 =
        (service.callerPlan after evmAddress requestDetails).2 := by
  intro after
  have evaluated : evaluate (service.shouldLimit evmAddress requestDetails estimatedTxFee).run state =
      evaluate (if (evaluate (service.isTotalBudgetExceeded estimatedTxFee requestDetails) state).1 = true then
          (pure true : Throwing Bool)
        else if evmAddress == "" && requestDetails.ipAddress == "" then pure false
        else service.exceedsSpendingLimit evmAddress requestDetails estimatedTxFee).run after := by
    simp only [shouldLimit, enabled, Bool.not_true, Bool.false_eq_true, if_false]
    exact evaluate_lift_bind _ _ state
  rw [evaluated]
  split_ifs with exceeded unknown
  · exact Or.inl rfl
  · exact Or.inl rfl
  · exact Or.inr (service.evaluate_exceedsSpendingLimit evmAddress requestDetails estimatedTxFee after)

end HbarLimitService

/-- A limiter with a budget of 100 and a limit duration of one day. -/
def exampleService : HbarLimitService where
  tierLimits _ := 100
  operatorAddress := "0x2"
  operatorAddress_ne := by decide
  limitDuration := 86400000
  limitDuration_pos := by decide
  evmAddressKey := id
  sharedCacheEnabled := false

end HieroRelay.Hbar
