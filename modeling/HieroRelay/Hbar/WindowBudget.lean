import HieroRelay.Hbar.OperatorPlan

/-! The remaining budget against the expenses of the current window, along runs of
`addExpense`, `shouldLimit` and the clock without configured plans. -/

namespace HieroRelay.Hbar

open HieroRelay.Lib HieroRelay.Relay

/-- The limiter, and the sum of all expenses since it was reset last. -/
structure Window where
  state : LimiterState
  spent : Nat

inductive WindowLabel where
  | addExpense (cost : Nat) (evmAddress : String) (requestDetails : RequestDetails)
  | shouldLimit (evmAddress : String) (requestDetails : RequestDetails) (estimatedTxFee : Nat)
  | advance (duration : Nat)

namespace HbarLimitService

variable (service : HbarLimitService)

/-- The key of the association of the operator's address. -/
def operatorKey : String := service.evmAddressKey service.operatorAddress

/-- Calls for the operator's own address are left out. -/
def serveWindow (window : Window) : WindowLabel → Option Window
  | .addExpense cost evmAddress requestDetails =>
      if service.evmAddressKey evmAddress = service.operatorKey then none
      else some {
        state := (evaluate (service.addExpense cost evmAddress requestDetails).run window.state).2
        spent := window.spent + cost }
  | .shouldLimit evmAddress requestDetails estimatedTxFee =>
      if service.evmAddressKey evmAddress = service.operatorKey then none
      else some {
        state := (evaluate (service.shouldLimit evmAddress requestDetails estimatedTxFee).run window.state).2
        spent := if service.isEnabled && window.state.now ≥ window.state.reset then 0 else window.spent }
  | .advance duration =>
      some { window with state := { window.state with now := window.state.now + duration } }

/-- The budget that is left is the total one without the expenses of the window. -/
def Conserved (window : Window) : Prop :=
  ∀ requestDetails, (evaluate (service.getRemainingBudget requestDetails) window.state).1 =
    service.totalBudget - window.spent

/-- The three entries of the operator are unexpired: the association of its address, the
plan and its counter. -/
def OperatorEntriesLive (state : LimiterState) : Prop :=
  ∃ link, state.evmAddresses.get state.now service.operatorKey = some link ∧
    (state.plans.get state.now link.planId).isSome ∧ (state.amountSpent.get state.now link.planId).isSome

/-- Once something was spent in the window, the operator's entries are unexpired. -/
def EntriesOutliveExpenses (window : Window) : Prop :=
  window.spent = 0 ∨ service.OperatorEntriesLive window.state

/-- What the entries say about the window, expired or not: the counter of the operator's
plan is what was spent, and no other address is linked to that plan. -/
structure Ledger (window : Window) : Prop where
  wellFormed : window.state.WellFormed
  noIp : ∀ ipAddress, window.state.ipAddresses.find ipAddress = none
  active : ∀ id entry, window.state.plans.find id = some entry → entry.value.active = true
  counter : ∀ link entry, window.state.evmAddresses.find service.operatorKey = some link →
    window.state.amountSpent.find link.value.planId = some entry → entry.value = window.spent
  separate : ∀ link key other, window.state.evmAddresses.find service.operatorKey = some link →
    key ≠ service.operatorKey → window.state.evmAddresses.find key = some other →
    other.value.planId ≠ link.value.planId
  idle : service.isEnabled = false → window.state.evmAddresses.find service.operatorKey = none

end HbarLimitService

theorem PlanId.KnownTo.weaken {id : PlanId} {generated later : Nat} (known : id.KnownTo generated)
    (grown : generated ≤ later) : id.KnownTo later := by
  cases id with
  | configured id => trivial
  | generated number => exact Nat.lt_of_lt_of_le known grown

theorem PlanId.KnownTo.ne_generated {id : PlanId} {generated : Nat} (known : id.KnownTo generated) :
    id ≠ .generated generated := by
  intro same
  subst same
  exact Nat.lt_irrefl _ known

namespace LimiterState

variable {state : LimiterState}

theorem WellFormed.withNewPlan (wellFormed : state.WellFormed) (service : HbarLimitService) (evmAddress : String)
    (subscriptionTier : SubscriptionTier) : (state.withNewPlan service evmAddress subscriptionTier).WellFormed where
  planIds := by
    intro id entry found
    by_cases same : id = .generated state.generated
    · subst same
      have equal := (TtlStore.find_set_self _ _ _ _ _).symm.trans found
      cases equal
      rfl
    · exact wellFormed.planIds id entry ((TtlStore.find_set_other same _ _ _ _).symm.trans found)
  plans := by
    intro id entry found
    by_cases same : id = .generated state.generated
    · subst same
      exact Nat.lt_succ_self _
    · have known := wellFormed.plans id entry ((TtlStore.find_set_other same _ _ _ _).symm.trans found)
      exact known.weaken (Nat.le_succ _)
  counters := by
    intro id entry found
    exact (wellFormed.counters id entry found).weaken (Nat.le_succ _)
  evmLinks := by
    intro key entry found
    by_cases same : key = service.evmAddressKey evmAddress
    · subst same
      have equal := (TtlStore.find_set_self _ _ _ _ _).symm.trans found
      cases equal
      exact Nat.lt_succ_self _
    · have known := wellFormed.evmLinks key entry ((TtlStore.find_set_other same _ _ _ _).symm.trans found)
      exact known.weaken (Nat.le_succ _)
  ipLinks := by
    intro key entry found
    exact (wellFormed.ipLinks key entry found).weaken (Nat.le_succ _)

/-- The counters after a charge: one entry is written, with the sum. -/
theorem charge_find_self (id : PlanId) (amount ttl : Nat) :
    ∃ entry, (state.charge id amount ttl).amountSpent.find id = some entry ∧
      entry.value = (state.amountSpent.get state.now id).getD 0 + amount := by
  unfold charge
  by_cases zero : (state.amountSpent.get state.now id).getD 0 = 0
  · exact ⟨_, by simp only [if_pos zero]; exact TtlStore.find_set_self _ _ _ _ _, by simp [zero]⟩
  · exact ⟨_, by simp only [if_neg zero]; exact TtlStore.find_set_self _ _ _ _ _, rfl⟩

theorem charge_find_other {id other : PlanId} (different : other ≠ id) (amount ttl : Nat) :
    (state.charge id amount ttl).amountSpent.find other = state.amountSpent.find other := by
  unfold charge
  by_cases zero : (state.amountSpent.get state.now id).getD 0 = 0
  · simp only [if_pos zero]
    exact TtlStore.find_set_other different _ _ _ _
  · simp only [if_neg zero]
    exact TtlStore.find_set_other different _ _ _ _

theorem WellFormed.charge (wellFormed : state.WellFormed) {id : PlanId} (known : id.KnownTo state.generated)
    (amount ttl : Nat) : (state.charge id amount ttl).WellFormed where
  planIds := wellFormed.planIds
  plans := wellFormed.plans
  counters := by
    intro other entry found
    by_cases same : other = id
    · subst same
      exact known
    · rw [charge_find_other same] at found
      exact wellFormed.counters other entry found
  evmLinks := wellFormed.evmLinks
  ipLinks := wellFormed.ipLinks

end LimiterState

namespace HbarLimitService

variable {service : HbarLimitService} {window : Window}

/-- Without configured plans the operator's plan is found by its address or created. -/
theorem Ledger.operatorPlan_cases (ledger : service.Ledger window) (requestDetails : RequestDetails) :
    (∃ plan, window.state.planByEvmKey service.operatorKey = some plan ∧
        service.operatorPlan window.state requestDetails = (plan, window.state)) ∨
      window.state.planByEvmKey service.operatorKey = none ∧
        service.operatorPlan window.state requestDetails =
          (newPlan window.state .OPERATOR, window.state.withNewPlan service service.operatorAddress .OPERATOR) := by
  cases linked : window.state.planByEvmKey service.operatorKey with
  | some plan => exact Or.inl ⟨plan, rfl, operatorPlan_of_linked linked⟩
  | none =>
    refine Or.inr ⟨rfl, operatorPlan_of_none linked ?_⟩
    simp [LimiterState.planByIpAddress, TtlStore.get, ledger.noIp]

/-- The entries behind a plan that the operator's address leads to. -/
theorem Ledger.linked (ledger : service.Ledger window) {plan : IDetailedHbarSpendingPlan}
    (found : window.state.planByEvmKey service.operatorKey = some plan) :
    ∃ link, window.state.evmAddresses.find service.operatorKey = some link ∧ link.value.planId = plan.id ∧
      link.isStale window.state.now = false ∧ window.state.activePlan plan.id = some plan ∧
      plan.amountSpent = (window.state.amountSpent.get window.state.now plan.id).getD 0 := by
  obtain ⟨value, present, active⟩ := Option.bind_eq_some_iff.mp found
  obtain ⟨link, stored, live, same⟩ := TtlStore.get_eq_some_iff.mp present
  have own := ledger.wellFormed.activePlan_id active
  subst same
  rw [← own] at active
  obtain ⟨-, -, amount⟩ := LimiterState.activePlan_eq_some active
  exact ⟨link, stored, own.symm, live, active, amount⟩

/-- The plan that is taken as the operator's shows what was spent. -/
theorem Ledger.amountSpent_eq (ledger : service.Ledger window) (live : service.EntriesOutliveExpenses window)
    (requestDetails : RequestDetails) :
    (service.operatorPlan window.state requestDetails).1.amountSpent = window.spent := by
  rcases ledger.operatorPlan_cases requestDetails with ⟨plan, found, taken⟩ | ⟨missing, taken⟩
  · obtain ⟨link, stored, own, fresh, -, amount⟩ := ledger.linked found
    rw [taken, amount]
    cases counted : window.state.amountSpent.get window.state.now plan.id with
    | some value =>
      obtain ⟨entry, present, -, same⟩ := TtlStore.get_eq_some_iff.mp counted
      rw [← own] at present
      rw [Option.getD_some, ← same]
      exact ledger.counter link entry stored present
    | none =>
      rcases live with zero | ⟨value, present, -, counter⟩
      · simp [zero]
      · obtain ⟨other, found, -, same⟩ := TtlStore.get_eq_some_iff.mp present
        rw [stored] at found
        cases found
        rw [← same, own, counted] at counter
        cases counter
  · rw [taken]
    rcases live with zero | ⟨value, present, plans, -⟩
    · exact zero.symm
    · obtain ⟨plan, stored⟩ := Option.isSome_iff_exists.mp plans
      obtain ⟨entry, inside, -, same⟩ := TtlStore.get_eq_some_iff.mp stored
      have active := ledger.active value.planId entry inside
      rw [same] at active
      simp [LimiterState.planByEvmKey, present, LimiterState.activePlan, stored, active] at missing

theorem Ledger.conserved (ledger : service.Ledger window) (live : service.EntriesOutliveExpenses window) :
    service.Conserved window := by
  intro requestDetails
  rw [evaluate_getRemainingBudget, ledger.amountSpent_eq live requestDetails]

/-- A budget that shows an expense is read from unexpired entries. -/
theorem Ledger.entriesOutliveExpenses (ledger : service.Ledger window) (conserved : service.Conserved window) :
    service.EntriesOutliveExpenses window := by
  have read := conserved { requestId := "", ipAddress := "" }
  rw [evaluate_getRemainingBudget] at read
  rcases ledger.operatorPlan_cases { requestId := "", ipAddress := "" } with ⟨plan, found, taken⟩ | ⟨-, taken⟩
  · obtain ⟨link, stored, own, fresh, active, amount⟩ := ledger.linked found
    rw [taken, amount] at read
    cases counted : window.state.amountSpent.get window.state.now plan.id with
    | none =>
      left
      simp only [counted, Option.getD_none] at read
      omega
    | some value =>
      right
      refine ⟨link.value, TtlStore.get_eq_some_iff.mpr ⟨link, stored, fresh, rfl⟩, ?_, ?_⟩
      · rw [own, (LimiterState.activePlan_eq_some active).1]
        rfl
      · rw [own, counted]
        rfl
  · left
    rw [taken] at read
    simp only [newPlan] at read
    omega

theorem Ledger.active_withNewPlan (ledger : service.Ledger window) (evmAddress : String)
    (subscriptionTier : SubscriptionTier) :
    ∀ id entry, (window.state.withNewPlan service evmAddress subscriptionTier).plans.find id = some entry →
      entry.value.active = true := by
  intro id entry found
  by_cases same : id = .generated window.state.generated
  · subst same
    have equal := (TtlStore.find_set_self _ _ _ _ _).symm.trans found
    cases equal
    rfl
  · exact ledger.active id entry ((TtlStore.find_set_other same _ _ _ _).symm.trans found)

/-- A new plan for the operator's address has no counter yet. -/
theorem Ledger.newOperatorPlan (ledger : service.Ledger window) (enabled : service.isEnabled = true)
    (subscriptionTier : SubscriptionTier) :
    service.Ledger { window with
      state := window.state.withNewPlan service service.operatorAddress subscriptionTier } where
  wellFormed := ledger.wellFormed.withNewPlan service service.operatorAddress subscriptionTier
  noIp := ledger.noIp
  active := ledger.active_withNewPlan service.operatorAddress subscriptionTier
  counter := by
    intro link entry stored counted
    have equal := (TtlStore.find_set_self _ _ _ _ _).symm.trans stored
    cases equal
    exact absurd rfl (ledger.wellFormed.counters _ entry counted).ne_generated
  separate := by
    intro link key other stored different found
    have equal := (TtlStore.find_set_self _ _ _ _ _).symm.trans stored
    cases equal
    have kept := (TtlStore.find_set_other different _ _ _ _).symm.trans found
    exact (ledger.wellFormed.evmLinks key other kept).ne_generated
  idle := by simp [enabled]

/-- A new plan for another address has nothing to do with the operator's. -/
theorem Ledger.newCallerPlan (ledger : service.Ledger window) {evmAddress : String}
    (different : service.evmAddressKey evmAddress ≠ service.operatorKey) (subscriptionTier : SubscriptionTier) :
    service.Ledger { window with state := window.state.withNewPlan service evmAddress subscriptionTier } := by
  have kept : ∀ {link}, (window.state.withNewPlan service evmAddress subscriptionTier).evmAddresses.find
      service.operatorKey = some link → window.state.evmAddresses.find service.operatorKey = some link := by
    intro link stored
    exact (TtlStore.find_set_other different.symm _ _ _ _).symm.trans stored
  refine {
    wellFormed := ledger.wellFormed.withNewPlan service evmAddress subscriptionTier
    noIp := ledger.noIp
    active := ledger.active_withNewPlan evmAddress subscriptionTier
    counter := fun link entry stored counted => ledger.counter link entry (kept stored) counted
    separate := ?_
    idle := fun disabled => (TtlStore.find_set_other different.symm _ _ _ _).trans (ledger.idle disabled) }
  intro link key other stored notOperator found
  by_cases same : key = service.evmAddressKey evmAddress
  · subst same
    have equal := (TtlStore.find_set_self _ _ _ _ _).symm.trans found
    cases equal
    exact (ledger.wellFormed.evmLinks _ link (kept stored)).ne_generated.symm
  · have before := (TtlStore.find_set_other same _ _ _ _).symm.trans found
    exact ledger.separate link key other (kept stored) notOperator before

/-- A charge of the operator's plan is an expense of the window. -/
theorem Ledger.chargeOperator (ledger : service.Ledger window) {link : LruEntry IEvmAddressHbarSpendingPlan}
    (stored : window.state.evmAddresses.find service.operatorKey = some link)
    (spent : (window.state.amountSpent.get window.state.now link.value.planId).getD 0 = window.spent)
    (cost ttl : Nat) :
    service.Ledger { state := window.state.charge link.value.planId cost ttl, spent := window.spent + cost } where
  wellFormed := ledger.wellFormed.charge (ledger.wellFormed.evmLinks _ link stored) cost ttl
  noIp := ledger.noIp
  active := ledger.active
  counter := by
    intro other entry found counted
    have same : other = link := Option.some.inj (found.symm.trans stored)
    subst same
    obtain ⟨written, charged, value⟩ := window.state.charge_find_self other.value.planId cost ttl
    have equal : entry = written := Option.some.inj (counted.symm.trans charged)
    rw [equal, value, spent]
  separate := ledger.separate
  idle := ledger.idle

/-- A charge of another plan is none. -/
theorem Ledger.chargeOther (ledger : service.Ledger window) {id : PlanId}
    (known : id.KnownTo window.state.generated)
    (other : ∀ link, window.state.evmAddresses.find service.operatorKey = some link → id ≠ link.value.planId)
    (cost ttl : Nat) : service.Ledger { window with state := window.state.charge id cost ttl } where
  wellFormed := ledger.wellFormed.charge known cost ttl
  noIp := ledger.noIp
  active := ledger.active
  counter := by
    intro link entry stored counted
    have before := (LimiterState.charge_find_other (other link stored).symm cost ttl).symm.trans counted
    exact ledger.counter link entry stored before
  separate := ledger.separate
  idle := ledger.idle

/-- Looking the operator's plan up, and creating it where there is none. -/
theorem Ledger.operatorPlan (ledger : service.Ledger window) (enabled : service.isEnabled = true)
    (requestDetails : RequestDetails) :
    ∃ plan after, service.operatorPlan window.state requestDetails = (plan, after) ∧
      after.planByEvmKey service.operatorKey = some plan ∧ service.Ledger { window with state := after } := by
  rcases ledger.operatorPlan_cases requestDetails with ⟨plan, found, taken⟩ | ⟨-, taken⟩
  · exact ⟨plan, window.state, taken, found, ledger⟩
  · exact ⟨_, _, taken, planByEvmKey_withNewPlan ledger.wellFormed _ _, ledger.newOperatorPlan enabled .OPERATOR⟩

/-- The plan of a caller is not the operator's. -/
theorem Ledger.callerPlan (ledger : service.Ledger window) {evmAddress : String}
    (different : service.evmAddressKey evmAddress ≠ service.operatorKey) (requestDetails : RequestDetails) :
    service.Ledger { window with state := (service.callerPlan window.state evmAddress requestDetails).2 } ∧
      ∀ plan, (service.callerPlan window.state evmAddress requestDetails).1 = some plan →
        plan.id.KnownTo (service.callerPlan window.state evmAddress requestDetails).2.generated ∧
        ∀ link, (service.callerPlan window.state evmAddress requestDetails).2.evmAddresses.find
          service.operatorKey = some link → plan.id ≠ link.value.planId := by
  unfold HbarLimitService.callerPlan
  cases planned : service.planFor window.state evmAddress requestDetails with
  | some plan =>
    refine ⟨ledger, ?_⟩
    intro same equal
    obtain rfl := Option.some.inj equal
    have noIp : window.state.planByIpAddress requestDetails.ipAddress = none := by
      simp [LimiterState.planByIpAddress, TtlStore.get, ledger.noIp]
    simp only [planFor, noIp, Option.or_none] at planned
    split_ifs at planned
    obtain ⟨value, present, active⟩ := Option.bind_eq_some_iff.mp planned
    obtain ⟨entry, stored, -, same⟩ := TtlStore.get_eq_some_iff.mp present
    have own := ledger.wellFormed.activePlan_id active
    rw [own, ← same]
    exact ⟨ledger.wellFormed.evmLinks _ entry stored,
      fun link operators => ledger.separate link _ entry operators different stored⟩
  | none =>
    by_cases missing : evmAddress = ""
    · simp only [if_pos missing]
      refine ⟨ledger, ?_⟩
      rintro plan ⟨⟩
    · simp only [if_neg missing]
      have created := ledger.newCallerPlan different .BASIC
      refine ⟨created, ?_⟩
      intro plan equal
      obtain rfl := Option.some.inj equal
      refine ⟨Nat.lt_succ_self _, ?_⟩
      intro link stored
      exact (created.separate link _ _ stored different (TtlStore.find_set_self _ _ _ _ _))

/-- The counters are gone after a reset, whatever was spent. -/
theorem Ledger.reset (ledger : service.Ledger window) {amountSpent : TtlStore PlanId Nat}
    (deleted : ∀ id, amountSpent.find id = none) :
    service.Ledger { state := { window.state with amountSpent }, spent := 0 } where
  wellFormed := {
    planIds := ledger.wellFormed.planIds
    plans := ledger.wellFormed.plans
    counters := by simp [deleted]
    evmLinks := ledger.wellFormed.evmLinks
    ipLinks := ledger.wellFormed.ipLinks }
  noIp := ledger.noIp
  active := ledger.active
  counter := by simp [deleted]
  separate := ledger.separate
  idle := ledger.idle

/-- The clock and the time of the next reset do not matter to the entries. -/
theorem Ledger.times (ledger : service.Ledger window) (now reset : Nat) :
    service.Ledger { window with state := { window.state with now, reset } } where
  wellFormed := {
    planIds := ledger.wellFormed.planIds
    plans := ledger.wellFormed.plans
    counters := ledger.wellFormed.counters
    evmLinks := ledger.wellFormed.evmLinks
    ipLinks := ledger.wellFormed.ipLinks }
  noIp := ledger.noIp
  active := ledger.active
  counter := ledger.counter
  separate := ledger.separate
  idle := ledger.idle

theorem Ledger.addExpense (ledger : service.Ledger window) (live : service.EntriesOutliveExpenses window)
    {evmAddress : String} (different : service.evmAddressKey evmAddress ≠ service.operatorKey) (cost : Nat)
    (requestDetails : RequestDetails) :
    service.Ledger {
      state := (evaluate (service.addExpense cost evmAddress requestDetails).run window.state).2
      spent := window.spent + cost } := by
  cases enabled : service.isEnabled with
  | false =>
    have unchanged : (evaluate (service.addExpense cost evmAddress requestDetails).run window.state).2 =
        window.state := by
      simp only [HbarLimitService.addExpense, enabled, Bool.false_eq_true, if_false]
      rfl
    rw [unchanged]
    refine { ledger with counter := ?_ }
    intro link entry stored
    rw [ledger.idle enabled] at stored
    cases stored
  | true =>
    obtain ⟨plan, after, taken, found, settled⟩ := ledger.operatorPlan enabled requestDetails
    obtain ⟨link, stored, own, -, active, amount⟩ := settled.linked found
    have spent : plan.amountSpent = window.spent := by
      have shown := ledger.amountSpent_eq live requestDetails
      rwa [taken] at shown
    have charged := settled.chargeOperator stored (by rw [own, ← amount, spent]) cost service.limitDuration
    rw [own] at charged
    obtain ⟨read, later, again, -, read⟩ := charged.operatorPlan enabled requestDetails
    rw [service.evaluate_addExpense enabled cost evmAddress requestDetails taken active]
    simp only at again read
    rw [again, service.evaluate_addExpenseToSpendingPlan]
    obtain ⟨callers, notOperators⟩ := read.callerPlan different requestDetails
    simp only at callers notOperators
    cases caller : service.callerPlan later evmAddress requestDetails with
    | mk callerPlan final =>
      rw [caller] at callers notOperators
      cases callerPlan with
      | none => exact callers
      | some own =>
        obtain ⟨known, other⟩ := notOperators own rfl
        simp only [evaluate_addToAmountSpent]
        cases final.activePlan own.id with
        | none => exact callers
        | some present => exact callers.chargeOther known other cost service.limitDuration

theorem Ledger.shouldLimit (ledger : service.Ledger window) {evmAddress : String}
    (different : service.evmAddressKey evmAddress ≠ service.operatorKey) (requestDetails : RequestDetails)
    (estimatedTxFee : Nat) :
    service.Ledger {
      state := (evaluate (service.shouldLimit evmAddress requestDetails estimatedTxFee).run window.state).2
      spent := if service.isEnabled && window.state.now ≥ window.state.reset then 0 else window.spent } := by
  cases enabled : service.isEnabled with
  | false =>
    have unchanged : (evaluate (service.shouldLimit evmAddress requestDetails estimatedTxFee).run window.state).2 =
        window.state := by
      simp only [HbarLimitService.shouldLimit, enabled, Bool.not_false, if_true]
      rfl
    rw [unchanged]
    simpa using ledger
  | true =>
    have checked : service.Ledger {
        state := (evaluate (service.isTotalBudgetExceeded estimatedTxFee requestDetails) window.state).2
        spent := if window.state.now ≥ window.state.reset then 0 else window.spent } := by
      rw [evaluate_isTotalBudgetExceeded]
      by_cases due : window.state.now ≥ window.state.reset
      · simp only [if_pos due]
        obtain ⟨amountSpent, evaluated, deleted⟩ := evaluate_resetAmountSpentOfAllPlans window.state
        rw [evaluate_resetLimiter, evaluated]
        obtain ⟨plan, after, taken, -, settled⟩ := (ledger.reset deleted).operatorPlan enabled requestDetails
        simp only at taken settled
        rw [taken]
        have timed := settled.times after.now (service.getResetTimestamp after.reset after.now)
        obtain ⟨again, final, later, -, read⟩ := timed.operatorPlan enabled requestDetails
        simp only at later read
        rw [later]
        exact read
      · simp only [if_neg due]
        obtain ⟨plan, after, taken, -, settled⟩ := ledger.operatorPlan enabled requestDetails
        rw [taken]
        exact settled
    have reached := service.evaluate_shouldLimit enabled evmAddress requestDetails estimatedTxFee window.state
    simp only [Bool.true_and, decide_eq_true_eq]
    rcases reached with stopped | created
    · rw [stopped]
      exact checked
    · rw [created]
      exact (checked.callerPlan different requestDetails).1

/-- A step from a state whose entries outlive the expenses keeps the ledger. -/
theorem Ledger.step (ledger : service.Ledger window) (live : service.EntriesOutliveExpenses window)
    {label : WindowLabel} {after : Window} (taken : service.serveWindow window label = some after) :
    service.Ledger after := by
  cases label with
  | addExpense cost evmAddress requestDetails =>
    simp only [serveWindow] at taken
    split_ifs at taken with operators
    obtain rfl := Option.some.inj taken
    exact ledger.addExpense live operators cost requestDetails
  | shouldLimit evmAddress requestDetails estimatedTxFee =>
    simp only [serveWindow] at taken
    by_cases operators : service.evmAddressKey evmAddress = service.operatorKey
    · rw [if_pos operators] at taken
      cases taken
    · rw [if_neg operators] at taken
      obtain rfl := Option.some.inj taken
      exact ledger.shouldLimit operators requestDetails estimatedTxFee
  | advance duration =>
    obtain rfl := Option.some.inj taken
    exact ledger.times (window.state.now + duration) window.state.reset

/-- The window that a limiter starts with. -/
def Window.initial (now reset : Nat) : Window := { state := .initial now reset, spent := 0 }

private theorem ledger_initial (now reset : Nat) : service.Ledger (Window.initial now reset) where
  wellFormed := LimiterState.wellFormed_initial now reset
  noIp := by simp [Window.initial, LimiterState.initial]
  active := by simp [Window.initial, LimiterState.initial]
  counter := by simp [Window.initial, LimiterState.initial]
  separate := by simp [Window.initial, LimiterState.initial]
  idle := by simp [Window.initial, LimiterState.initial]

/-- The ledger holds after a run whose earlier states all have entries that outlive the
expenses. -/
theorem ledger_run {labels : List WindowLabel} {now reset : Nat} {final : Window}
    (live : ∀ earlier later window, earlier ++ later = labels → later ≠ [] →
      run service.serveWindow (Window.initial now reset) earlier = some window →
        service.EntriesOutliveExpenses window)
    (reached : run service.serveWindow (Window.initial now reset) labels = some final) : service.Ledger final := by
  induction labels using List.reverseRecOn generalizing final with
  | nil =>
    obtain rfl := Option.some.inj reached
    exact ledger_initial now reset
  | append_singleton labels label ih =>
    obtain ⟨before, reached, taken⟩ := (run_snoc service.serveWindow).mp reached
    have ledger : service.Ledger before := by
      apply ih _ reached
      intro earlier later window split more
      subst split
      exact live earlier (later ++ [label]) window (List.append_assoc earlier later [label]).symm (by simp)
    exact ledger.step (live labels [label] before rfl (by simp) reached) taken

/-- No spent amount is forgotten in a run exactly when no entry of the operator expires in
a window with an expense. -/
theorem conserved_run_iff (service : HbarLimitService) (now reset : Nat) (labels : List WindowLabel) :
    (∀ earlier later window, earlier ++ later = labels →
        run service.serveWindow (Window.initial now reset) earlier = some window → service.Conserved window) ↔
      ∀ earlier later window, earlier ++ later = labels →
        run service.serveWindow (Window.initial now reset) earlier = some window →
          service.EntriesOutliveExpenses window := by
  constructor
  · intro conserved earlier
    induction length : earlier.length using Nat.strongRecOn generalizing earlier with
    | ind length ih =>
      subst length
      intro later window split reached
      have ledger : service.Ledger window := by
        apply ledger_run _ reached
        intro first second middle inside more
        subst inside
        have shorter : first.length < (first ++ second).length := by
          have nonempty := List.length_pos_iff.mpr more
          rw [List.length_append]
          omega
        exact ih first.length shorter first rfl (second ++ later) middle (by rw [← List.append_assoc, split])
      exact ledger.entriesOutliveExpenses (conserved earlier later window split reached)
  · intro live earlier later window split reached
    have ledger : service.Ledger window := by
      apply ledger_run _ reached
      intro first second middle inside more
      subst inside
      exact live first (second ++ later) middle (by rw [← List.append_assoc, split])
    exact ledger.conserved (live earlier later window split reached)

/-- The plan of noon expires at the noon after, between the resets of two midnights. -/
theorem expiredPlan_forgotten :
    ∃ labels final, run exampleService.serveWindow (Window.initial 43200000 86400000) labels = some final ∧
      final.spent = 10 ∧ final.state.now < final.state.reset ∧
      (evaluate (exampleService.getRemainingBudget { requestId := "", ipAddress := "" }) final.state).1 = 100 ∧
      ¬ exampleService.Conserved final := by
  have nextMidnight : exampleService.getResetTimestamp 86400000 86400001 = 172800000 := by
    rw [getResetTimestamp, getResetTimestamp]
    rfl
  refine ⟨[.addExpense 5 "0xa" { requestId := "", ipAddress := "" }, .advance 43200001,
    .shouldLimit "0xa" { requestId := "", ipAddress := "" } 0,
    .addExpense 10 "0xa" { requestId := "", ipAddress := "" }, .advance 50000000], _, rfl, rfl, ?_, ?_, ?_⟩
  · show 136400001 < exampleService.getResetTimestamp 86400000 86400001
    rw [nextMidnight]
    decide
  · rfl
  · intro conserved
    have read := conserved { requestId := "", ipAddress := "" }
    revert read
    decide

end HbarLimitService

end HieroRelay.Hbar
