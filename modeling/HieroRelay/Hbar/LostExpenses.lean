import HieroRelay.Hbar.PlanLookups

/-! Calls of `addExpense` in flight together lose no expense when they are undisturbed,
and two first calls that read the same counter lose one. -/

namespace HieroRelay.Hbar

open HieroRelay.Lib HieroRelay.Relay

namespace SharedExpenses

variable {Call : Type} {start : LimiterState} {call : Call} {calls : Call → Expense}
  {before after : SharedExpenses Call} {written : List String} {paid : List PlanId}

theorem Operates.onward [Fintype Call] (operates : Operates calls call before after)
    (accounts : Accounts calls start before)
    (links : ∀ key, key ∉ written → after.cache.storedLink key = before.cache.storedLink key)
    (stillLooked : after.looked call = before.looked call)
    (charged : after.charged call = paid ++ before.charged call) :
    Onward start call written paid before after where
  plans := by
    intro id fixed
    rcases operates.plans id with same | ⟨absent, created, -⟩
    · exact same
    · rcases fixed with known | present
      · exact absurd known (accounts.creators id call created).2
      · exact absurd absent present
  links key _ unwritten := links key unwritten
  ipLinks := operates.ipLinks
  stillLooked key looked := by rwa [stillLooked]
  charged := charged

end SharedExpenses

namespace HbarLimitService

open SharedExpenses HbarSpendingPlanRepository

section Plans
variable {Call : Type} {service : HbarLimitService} {calls : Call → Expense} {start : LimiterState} {call : Call}
  {written : List String} {paid : List PlanId}

/-- The operator's plan, once its key was looked up and leads to it. -/
def OperatorLinked (service : HbarLimitService) (call : Call) (id : PlanId) (shared : SharedExpenses Call) : Prop :=
  shared.cache.linkedId service.operatorKey = some id ∧ service.operatorKey ∈ shared.looked call

theorem OperatorLinked.onward [Fintype Call] {id : PlanId} {before after : SharedExpenses Call}
    (linked : service.OperatorLinked call id before) (onward : Onward start call written paid before after)
    (accounts : Accounts calls start before) (unwritten : service.operatorKey ∉ written) :
    service.OperatorLinked call id after :=
  ⟨(onward.linkedId accounts linked.2 unwritten).trans linked.1, onward.stillLooked _ linked.2⟩

theorem plannedId_of_linked {shared : SharedExpenses Call} {evmAddress : String} {id : PlanId} (ipAddress : String)
    (present : evmAddress ≠ "") (linked : shared.cache.linkedId (service.evmAddressKey evmAddress) = some id) :
    shared.cache.plannedId service evmAddress ipAddress = some id := by
  rw [LimiterState.plannedId, if_neg present, linked]
  rfl

private theorem unlinked_of_unplanned {shared : SharedExpenses Call} {evmAddress ipAddress : String}
    (present : evmAddress ≠ "")
    (unplanned : shared.cache.plannedId service evmAddress ipAddress = none) :
    shared.cache.linkedId (service.evmAddressKey evmAddress) = none := by
  rw [LimiterState.plannedId, if_neg present] at unplanned
  exact (Option.or_eq_none_iff.mp unplanned).1

/-- The plan of a request is active. -/
theorem active_of_planned [Fintype Call] {shared : SharedExpenses Call} {evmAddress ipAddress : String} {id : PlanId}
    (accounts : Accounts calls start shared)
    (planned : shared.cache.plannedId service evmAddress ipAddress = some id) : shared.cache.activeId id = some id := by
  have target : ∃ other, shared.cache.activeId other = some id := by
    unfold LimiterState.plannedId LimiterState.linkedId LimiterState.ipLinkedId at planned
    rcases Option.or_eq_some_iff.mp planned with byAddress | ⟨-, byIp⟩
    · split_ifs at byAddress
      obtain ⟨link, -, active⟩ := Option.bind_eq_some_iff.mp byAddress
      exact ⟨link.planId, active⟩
    · split_ifs at byIp
      obtain ⟨link, -, active⟩ := Option.bind_eq_some_iff.mp byIp
      exact ⟨link.planId, active⟩
  obtain ⟨other, active⟩ := target
  obtain ⟨rfl, -⟩ := accounts.activeId active
  exact active

/-- What a call that is done leaves behind: it charged the operator's plan and the plan to
which its own address or IP leads. -/
structure Settled (service : HbarLimitService) (calls : Call → Expense) (call : Call) (id : PlanId)
    (shared : SharedExpenses Call) : Prop where
  operator : service.OperatorLinked call id shared
  charged : shared.charged call = (shared.cache.plannedId service (calls call).evmAddress
    (calls call).requestDetails.ipAddress).toList ++ [id]
  own : (calls call).evmAddress ≠ "" →
    service.evmAddressKey (calls call).evmAddress ∈ shared.looked call ∧
      shared.cache.plannedId service (calls call).evmAddress (calls call).requestDetails.ipAddress ≠ none

theorem plannedId_onward [Fintype Call] (service : HbarLimitService) (ipAddress : String)
    {before after : SharedExpenses Call} {evmAddress : String} (onward : Onward start call written paid before after)
    (accounts : Accounts calls start before)
    (looked : evmAddress ≠ "" → service.evmAddressKey evmAddress ∈ before.looked call)
    (unwritten : service.evmAddressKey evmAddress ∉ written) :
    after.cache.plannedId service evmAddress ipAddress = before.cache.plannedId service evmAddress ipAddress := by
  unfold LimiterState.plannedId
  rw [onward.ipLinkedId accounts]
  by_cases missing : evmAddress = ""
  · rw [if_pos missing, if_pos missing]
  · rw [if_neg missing, if_neg missing, onward.linkedId accounts (looked missing) unwritten]

theorem Settled.since [Fintype Call] {id : PlanId} {before after : SharedExpenses Call}
    (settled : service.Settled calls call id before)
    (since : Since start call before after) (accounts : Accounts calls start before) :
    service.Settled calls call id after := by
  have planned := plannedId_onward service (calls call).requestDetails.ipAddress
    since.onward accounts (fun present => (settled.own present).1) List.not_mem_nil
  constructor
  · exact settled.operator.onward since.onward accounts List.not_mem_nil
  · rw [since.charged, planned]
    exact settled.charged
  · intro present
    rw [planned]
    exact ⟨since.stillLooked _ (settled.own present).1, (settled.own present).2⟩

private theorem accounts_initial [Fintype Call] (calls : Call → Expense) (wellFormed : start.WellFormed)
    (delays : List Nat) :
    Accounts calls start (.initial start delays) where
  planIds := by
    intro id plan found
    obtain ⟨entry, present, -, same⟩ := TtlStore.get_eq_some_iff.mp found
    rw [← same]
    exact wellFormed.planIds id entry present
  plans := by
    intro id present
    obtain ⟨plan, found⟩ := Option.ne_none_iff_exists'.mp present
    obtain ⟨entry, present, -⟩ := TtlStore.get_eq_some_iff.mp found
    exact wellFormed.plans id entry present
  links := by
    intro key link found
    obtain ⟨entry, present, -, same⟩ := TtlStore.get_eq_some_iff.mp found
    rw [← same]
    exact Or.inl (wellFormed.evmLinks key entry present)
  ipLinks := by
    intro ipAddress link found
    obtain ⟨entry, present, -, same⟩ := TtlStore.get_eq_some_iff.mp found
    rw [← same]
    exact wellFormed.ipLinks ipAddress entry present
  generated := Nat.le_refl _
  creators := by
    intro id call created
    cases created
  amounts := by
    intro id
    simp [SharedExpenses.initial]
  distinct _ := List.nodup_nil

private theorem cost_count (cost : Nat) (own : Option PlanId) (operator id : PlanId) :
    cost * (own.toList ++ [operator]).count id =
      (if operator = id then cost else 0) + if own = some id then cost else 0 := by
  rw [List.count_append, Nat.mul_add, Nat.add_comm]
  congr 1
  · by_cases same : operator = id <;> simp [same]
  · cases own with
    | none => simp
    | some plan => by_cases same : plan = id <;> simp [same]

/-- When all calls are done, a counter has what they charged to its plan. -/
theorem amountOf_of_settled [Fintype Call] {shared : SharedExpenses Call} (accounts : Accounts calls start shared)
    (settled : ∀ call, ∃ operator, service.Settled calls call operator shared) (id : PlanId) :
    shared.cache.amountOf id = start.amountOf id +
      (if shared.cache.linkedId service.operatorKey = some id then ∑ call, (calls call).cost else 0) +
        service.ownCosts calls shared.cache id := by
  have split : ∀ call, (calls call).cost * (shared.charged call).count id =
      (if shared.cache.linkedId service.operatorKey = some id then (calls call).cost else 0) +
        if service.ownPlanId calls shared.cache call = some id then (calls call).cost else 0 := by
    intro call
    obtain ⟨operator, done⟩ := settled call
    rw [done.charged, cost_count, ownPlanId, LimiterState.map_planFor, done.operator.1]
    simp only [Option.some.injEq]
  rw [accounts.amounts id, Finset.sum_congr rfl fun call _ => split call, Finset.sum_add_distrib, ← Nat.add_assoc]
  congr 2
  by_cases same : shared.cache.linkedId service.operatorKey = some id <;> simp [same]

/-- No call is charged to the operator's plan as to its own. -/
theorem ownCosts_operator [Fintype Call] {shared : SharedExpenses Call} (accounts : Accounts calls start shared)
    (settled : ∀ call, ∃ operator, service.Settled calls call operator shared) {id : PlanId}
    (linked : shared.cache.linkedId service.operatorKey = some id) : service.ownCosts calls shared.cache id = 0 := by
  apply Finset.sum_eq_zero
  intro call _
  obtain ⟨operator, done⟩ := settled call
  obtain rfl : operator = id := Option.some.inj (done.operator.1.symm.trans linked)
  have distinct := accounts.distinct call
  rw [done.charged] at distinct
  rw [if_neg]
  intro own
  rw [ownPlanId, LimiterState.map_planFor] at own
  rw [own] at distinct
  simp at distinct

/-- The costs of a plan to which one address alone leads. -/
theorem ownCosts_unshared [Fintype Call] {cache : LimiterState} {key : String} {plan : IDetailedHbarSpendingPlan}
    (found : cache.planByEvmKey key = some plan)
    (alone : ∀ call, service.ownPlanId calls cache call = some plan.id →
      (calls call).evmAddress ≠ "" ∧ service.evmAddressKey (calls call).evmAddress = key) :
    service.ownCosts calls cache plan.id = service.addressCosts calls key := by
  refine Finset.sum_congr rfl fun call _ => if_congr ⟨alone call, ?_⟩ rfl rfl
  rintro ⟨present, rfl⟩
  rw [ownPlanId, planFor, if_neg present, found]
  rfl

theorem amountSpent_of_planByEvmKey [Fintype Call] {shared : SharedExpenses Call}
    (accounts : Accounts calls start shared)
    {key : String} {plan : IDetailedHbarSpendingPlan} (found : shared.cache.planByEvmKey key = some plan) :
    plan.amountSpent = shared.cache.amountOf plan.id := by
  obtain ⟨link, -, active⟩ := Option.bind_eq_some_iff.mp found
  obtain ⟨stored, -, amount⟩ := LimiterState.activePlan_eq_some active
  rw [amount, accounts.planIds _ _ stored]
  rfl

/-- A plan other than the operator's has what the calls charged to it as to their own. -/
private theorem amountSpent_of_settled [Fintype Call] {shared : SharedExpenses Call}
    (accounts : Accounts calls start shared)
    (settled : ∀ call, ∃ operator, service.Settled calls call operator shared)
    {key : String} {plan : IDetailedHbarSpendingPlan} (found : shared.cache.planByEvmKey key = some plan)
    (different : ∀ operatorPlan, shared.cache.planByEvmKey service.operatorKey = some operatorPlan →
      plan.id ≠ operatorPlan.id) :
    plan.amountSpent = start.amountOf plan.id + service.ownCosts calls shared.cache plan.id := by
  have unequal : shared.cache.linkedId service.operatorKey ≠ some plan.id := by
    intro linked
    rw [← LimiterState.map_planByEvmKey] at linked
    obtain ⟨operatorPlan, there, own⟩ := Option.map_eq_some_iff.mp linked
    exact different operatorPlan there own.symm
  rw [amountSpent_of_planByEvmKey accounts found, amountOf_of_settled accounts settled plan.id, if_neg unequal,
    Nat.add_zero]

end Plans

variable {Call : Type} [DecidableEq Call] [Fintype Call] {service : HbarLimitService} {calls : Call → Expense}
  {start : LimiterState} {call : Call} {Result Next : Type} {state : SharedExpenses Call} {written : List String}
  {paid : List PlanId}

theorem run_lift_bind (program : Program Result) (next : Result → Throwing Next) :
    (ExceptT.lift program >>= next).run = program >>= fun result => (next result).run := by
  rw [ExceptT.run_bind, ExceptT.run_lift]
  simp

/-- A program of a call that links keys and charges plans, while the others interfere. -/
def Proceeds (service : HbarLimitService) (calls : Call → Expense) (start : LimiterState) (call : Call)
    (written : List String) (paid : List PlanId) (post : Result → SharedExpenses Call → Prop) (program : Program Result)
    (state : SharedExpenses Call) : Prop :=
  (service.expenses calls start).Reaches call
    (fun result later => Onward start call written paid state later ∧ Accounts calls start later ∧ post result later)
    program state

theorem proceeds_done {post : Result → SharedExpenses Call → Prop} {result : Result}
    (accounts : Accounts calls start state) (holds : post result state) :
    service.Proceeds calls start call [] [] post (.done result) state :=
  Protocol.reaches_done ⟨(Since.refl start call state).onward, accounts, holds⟩

/-- Reading comes first. -/
theorem Reads.proceeds {middle : Result → SharedExpenses Call → Prop} {post : Next → SharedExpenses Call → Prop}
    {program : Program Result} {next : Result → Program Next}
    (first : service.Reads calls start call middle program state)
    (second : ∀ result later, Since start call state later → Accounts calls start later → middle result later →
      service.Proceeds calls start call written paid post (next result) later) :
    service.Proceeds calls start call written paid post (program >>= next) state := by
  apply Protocol.Reaches.bind first
  intro result later holds
  obtain ⟨since, accounts, holds⟩ := holds
  apply (second result later since accounts holds).weaken
  intro result final holds
  exact ⟨since.thenOnward holds.1, holds.2⟩

theorem Proceeds.bind {middle : Result → SharedExpenses Call → Prop} {post : Next → SharedExpenses Call → Prop}
    {program : Program Result} {next : Result → Program Next} (written' : List String) (paid' : List PlanId)
    (first : service.Proceeds calls start call written paid middle program state)
    (second : ∀ result later, Onward start call written paid state later → Accounts calls start later →
      middle result later → service.Proceeds calls start call written' paid' post (next result) later) :
    service.Proceeds calls start call (written ++ written') (paid' ++ paid) post (program >>= next) state := by
  apply Protocol.Reaches.bind first
  intro result later holds
  obtain ⟨onward, accounts, holds⟩ := holds
  apply (second result later onward accounts holds).weaken
  intro result final holds
  exact ⟨onward.trans holds.1, holds.2⟩

/-- A program that does not throw, and one after it. -/
theorem Proceeds.bindOk {middle : Result → SharedExpenses Call → Prop}
    {post : Except LimiterError Next → SharedExpenses Call → Prop} {program : Throwing Result}
    {next : Result → Throwing Next} (written' : List String) (paid' : List PlanId)
    (first : service.Proceeds calls start call written paid
      (fun outcome later => ∃ result, outcome = .ok result ∧ middle result later) program.run state)
    (second : ∀ result later, Onward start call written paid state later → Accounts calls start later →
      middle result later → service.Proceeds calls start call written' paid' post (next result).run later) :
    service.Proceeds calls start call (written ++ written') (paid' ++ paid) post (program >>= next).run state := by
  rw [ExceptT.run_bind]
  apply first.bind
  intro outcome later onward accounts holds
  obtain ⟨result, rfl, holds⟩ := holds
  exact second result later onward accounts holds

/-- A new identifier is the call's own. -/
theorem reads_uuidV4 :
    service.Reads calls start call
      (fun id later => later.creator id = some call ∧ later.cache.storedPlan id = none) (ask .uuidV4) state := by
  apply (reaches_ask fun before _ accounts undisturbed => operates_uuidV4 accounts undisturbed.unexpired).weaken
  intro id later holds
  obtain ⟨kept, before, respects, accounts, undisturbed, rfl, rfl⟩ := holds
  have operates := @operates_uuidV4 Call _ call before start calls _ accounts undisturbed.unexpired
  refine ⟨respects.toSince.trans ?_, kept, ?_, ?_⟩
  · constructor
    · exact fun id _ => undisturbed.unexpired.plans id
    · exact fun key _ => undisturbed.unexpired.evmAddresses key
    · exact undisturbed.unexpired.ipAddresses
    · exact fun id created => operates.created id call created
    · exact fun key looked => looked
    · rfl
  · exact Function.update_self _ _ _
  · by_contra present
    have same : (perform call .uuidV4 before).2.cache.storedPlan (.generated before.cache.generated) =
        before.cache.storedPlan (.generated before.cache.generated) :=
      undisturbed.unexpired.plans (.generated before.cache.generated)
    have there : before.cache.storedPlan (.generated before.cache.generated) ≠ none := by
      rw [← same]
      exact present
    exact Nat.lt_irrefl _ (accounts.plans _ there)

/-- The plan of a new identifier is written. -/
theorem proceeds_setPlan {id : PlanId} (created : state.creator id = some call)
    (absent : state.cache.storedPlan id = none) (plan : IHbarSpendingPlan) (own : plan.id = id) (ttl : Nat) :
    service.Proceeds calls start call [] [] (fun _ later => later.cache.storedPlan id = some plan)
      (ask (.setPlan id plan ttl)) state := by
  have there : ∀ before, Respects start call state before →
      before.cache.storedPlan id = none ∧ before.creator id = some call := by
    intro before respects
    have same := respects.plans id (Or.inr (Or.inr created))
    exact ⟨same.trans absent, respects.creator id created⟩
  apply (reaches_ask fun before respects _ undisturbed =>
    operates_setPlan undisturbed.unexpired (there before respects).1 (there before respects).2 own ttl).weaken
  intro _ later holds
  obtain ⟨kept, before, respects, accounts, undisturbed, -, rfl⟩ := holds
  have operates := @operates_setPlan Call _ call before calls undisturbed.unexpired id (there before respects).1
    (there before respects).2 plan own ttl
  refine ⟨respects.toSince.thenOnward (operates.onward accounts ?_ rfl rfl), kept, ?_⟩
  · exact fun key _ => undisturbed.unexpired.evmAddresses key
  · exact (storedPlan_setPlan undisturbed.unexpired id id plan ttl).trans (if_pos rfl)

/-- An address is linked to a plan that is there. -/
theorem proceeds_setEvmAddress (key : String) {link : IEvmAddressHbarSpendingPlan} {plan : IHbarSpendingPlan}
    (present : state.cache.storedPlan link.planId = some plan) (active : plan.active = true) (ttl : Nat) :
    service.Proceeds calls start call [key] []
      (fun _ later => later.cache.linkedId key = some plan.id ∧ later.looked call = state.looked call)
      (ask (.setEvmAddress key link ttl)) state := by
  have there : ∀ before, Respects start call state before → before.cache.storedPlan link.planId = some plan := by
    intro before respects
    rw [respects.plans link.planId (Or.inr (Or.inl (by rw [present]; exact Option.some_ne_none plan))), present]
  have still : ∀ before, Respects start call state before → before.cache.storedPlan link.planId ≠ none := by
    intro before respects
    rw [there before respects]
    exact Option.some_ne_none plan
  apply (reaches_ask fun before respects _ undisturbed =>
    operates_setEvmAddress undisturbed.unexpired (undisturbed.link key link ttl rfl) (still before respects) ttl).weaken
  intro _ later holds
  obtain ⟨kept, before, respects, accounts, undisturbed, -, rfl⟩ := holds
  have operates := @operates_setEvmAddress Call _ call before calls undisturbed.unexpired key
    (undisturbed.link key link ttl rfl) link (still before respects) ttl
  refine ⟨respects.toSince.thenOnward (operates.onward accounts ?_ rfl rfl), kept, ?_, respects.looked⟩
  · intro other unwritten
    rw [storedLink_setEvmAddress undisturbed.unexpired, if_neg (by simpa using unwritten)]
  · have plans : (perform call (.setEvmAddress key link ttl) before).2.cache.storedPlan link.planId = some plan :=
      (undisturbed.unexpired.plans link.planId).trans (there before respects)
    unfold LimiterState.linkedId LimiterState.activeId
    rw [storedLink_setEvmAddress undisturbed.unexpired, if_pos rfl, Option.bind_some, plans, Option.filter_some,
      if_pos active]
    rfl

/-- A plan that a call creates is found under the key of its address. -/
theorem proceeds_createSpendingPlanForAddress {evmAddress : String} (present : evmAddress ≠ "")
    (subscriptionTier : SubscriptionTier) (looked : service.evmAddressKey evmAddress ∈ state.looked call) :
    service.Proceeds calls start call [service.evmAddressKey evmAddress] []
      (fun outcome later => ∃ plan, outcome = .ok plan ∧
        later.cache.linkedId (service.evmAddressKey evmAddress) = some plan.id ∧
        service.evmAddressKey evmAddress ∈ later.looked call)
      (service.createSpendingPlanForAddress evmAddress subscriptionTier).run state := by
  have given : (evmAddress == "") = false := by simpa using present
  have created : service.Proceeds calls start call [] []
      (fun outcome later => ∃ plan, outcome = .ok plan ∧ plan.active = true ∧
        later.cache.storedPlan plan.id = some plan.toIHbarSpendingPlan)
      (create subscriptionTier service.limitDuration).run state := by
    apply reads_uuidV4.proceeds
    intro id later _ _ fresh
    apply (reads_ask (.dateNow) trivial).proceeds
    intro createdAt later' since _ _
    have absent := (since.plans id (Or.inr (Or.inr fresh.1))).trans fresh.2
    apply (proceeds_setPlan (since.creator id fresh.1) absent { id, subscriptionTier, createdAt, active := true } rfl
      service.limitDuration).bind [] []
    intro _ final _ accounts stored
    exact proceeds_done accounts ⟨_, rfl, rfl, stored⟩
  simp only [createSpendingPlanForAddress, given, Bool.false_eq_true, if_false]
  apply created.bindOk [service.evmAddressKey evmAddress] []
  intro plan later onward accounts holds
  apply (proceeds_setEvmAddress (service.evmAddressKey evmAddress) holds.2 holds.1 service.limitDuration).bind [] []
  intro _ final _ kept linked
  refine proceeds_done kept ⟨plan, rfl, linked.1, ?_⟩
  rw [linked.2]
  exact onward.stillLooked _ looked

/-- A counter is written over the amount that the call read last. -/
theorem proceeds_setAmountSpent {id : PlanId} {amount : Nat} (right : amount = state.lastRead call + (calls call).cost)
    (ttl : Nat) :
    service.Proceeds calls start call [] [id] (fun _ _ => True) (ask (.setAmountSpent id amount ttl)) state := by
  have current : ∀ before, Respects start call state before →
      service.Undisturbed calls call (.setAmountSpent id amount ttl) before →
      amount = before.cache.amountOf id + (calls call).cost := by
    intro before respects undisturbed
    rw [undisturbed.counter id amount ttl rfl, respects.lastRead, right]
  apply (reaches_ask fun before respects _ undisturbed =>
    operates_setAmountSpent undisturbed.unexpired (current before respects undisturbed) (undisturbed.once id rfl)
      ttl).weaken
  intro _ later holds
  obtain ⟨kept, before, respects, accounts, undisturbed, -, rfl⟩ := holds
  have operates := @operates_setAmountSpent Call _ call before calls undisturbed.unexpired id amount
    (current before respects undisturbed) (undisturbed.once id rfl) ttl
  refine ⟨respects.toSince.thenOnward (operates.onward accounts ?_ rfl ?_), kept, trivial⟩
  · exact fun key _ => undisturbed.unexpired.evmAddresses key
  · exact Function.update_self _ _ _

private theorem proceeds_incrAmountSpent (id : PlanId) :
    service.Proceeds calls start call [] [id] (fun _ _ => True) (ask (.incrAmountSpent id (calls call).cost)) state := by
  apply (reaches_ask fun before _ _ undisturbed =>
    operates_incrAmountSpent undisturbed.unexpired (undisturbed.once id rfl)).weaken
  intro _ later holds
  obtain ⟨kept, before, respects, accounts, undisturbed, -, rfl⟩ := holds
  have operates := @operates_incrAmountSpent Call _ call before calls undisturbed.unexpired id
    (undisturbed.once id rfl)
  refine ⟨respects.toSince.thenOnward (operates.onward accounts ?_ rfl ?_), kept, trivial⟩
  · exact fun key _ => undisturbed.unexpired.evmAddresses key
  · exact Function.update_self _ _ _

theorem Answered.lastRead {id : PlanId} {answer : Option Nat} {after : SharedExpenses Call}
    (answered : service.Answered calls start call (.getAmountSpent id) state answer after) :
    after.lastRead call = answer.getD 0 := by
  obtain ⟨before, -, -, -, rfl, rfl⟩ := answered
  exact Function.update_self _ _ _

theorem Answered.lastRead_ttl {id : PlanId} {answer : Nat} {after : SharedExpenses Call}
    (answered : service.Answered calls start call (.getAmountSpentTtl id) state answer after) :
    after.lastRead call = state.lastRead call := by
  obtain ⟨before, respects, -, -, rfl, rfl⟩ := answered
  exact respects.lastRead

private theorem proceeds_incrBy (id : PlanId) :
    service.Proceeds calls start call [] [id] (fun outcome _ => ∃ amount, outcome = .ok amount)
      (incrBy service.sharedCacheEnabled id (calls call).cost).run state := by
  unfold incrBy
  cases service.sharedCacheEnabled with
  | true =>
    apply (proceeds_incrAmountSpent id).bind [] []
    intro amount later _ accounts _
    exact proceeds_done accounts ⟨amount, rfl⟩
  | false =>
    apply (reads_ask (.getAmountSpent id) trivial).proceeds
    intro value later _ _ read
    apply (reads_ask (.getAmountSpentTtl id) trivial).proceeds
    intro ttl later' _ _ readTtl
    have right : value.getD 0 + (calls call).cost = later'.lastRead call + (calls call).cost := by
      rw [readTtl.lastRead_ttl, read.lastRead]
    apply (proceeds_setAmountSpent right ttl).bind [] []
    intro _ final _ accounts _
    exact proceeds_done accounts ⟨_, rfl⟩

/-- The plan that a call charges gets its costs. -/
theorem proceeds_addToAmountSpent {id : PlanId} (accounts : Accounts calls start state)
    (active : state.cache.activeId id = some id) (ttl : Nat) :
    service.Proceeds calls start call [] [id] (fun outcome _ => outcome = .ok ())
      (addToAmountSpent service.sharedCacheEnabled id (calls call).cost ttl).run state := by
  have checked : service.Reads calls start call (fun outcome _ => outcome = .ok ())
      (checkExistsAndActive id).run state := by
    apply (reads_checkExistsAndActive id).weaken
    intro outcome later since found
    rw [FindsActive, since.onward.activeId (Or.inr (accounts.activeId active).2), active] at found
    cases outcome with
    | ok result => rfl
    | error error => cases found
  rw [addToAmountSpent, ExceptT.run_bind]
  apply checked.proceeds
  intro outcome later _ _ same
  subst same
  apply (reads_ask (.getAmountSpent id) trivial).proceeds
  intro amount later' _ _ read
  change service.Proceeds calls start call [] [id] _ (if amount.getD 0 == 0
    then await (.setAmountSpent id (calls call).cost ttl)
    else incrBy service.sharedCacheEnabled id (calls call).cost >>= fun _ => pure ()).run later'
  by_cases zero : amount.getD 0 = 0
  · have right : (calls call).cost = later'.lastRead call + (calls call).cost := by
      rw [read.lastRead, zero, Nat.zero_add]
    rw [if_pos (beq_iff_eq.mpr zero)]
    apply (proceeds_setAmountSpent right ttl).bind [] []
    intro _ final _ kept _
    exact proceeds_done kept rfl
  · rw [if_neg (fun same => zero (beq_iff_eq.mp same)), ExceptT.run_bind]
    apply (proceeds_incrBy id).bind [] []
    intro outcome final _ kept same
    obtain ⟨value, rfl⟩ := same
    exact proceeds_done kept rfl

private theorem proceeds_getOperatorSpendingPlan (accounts : Accounts calls start state) :
    service.Proceeds calls start call [service.operatorKey] []
      (fun outcome later => ∃ plan, outcome = .ok plan ∧ service.OperatorLinked call plan.id later)
      (service.getOperatorSpendingPlan (calls call).requestDetails).run state := by
  rw [getOperatorSpendingPlan, run_lift_bind]
  apply (reads_getSpendingPlan accounts service.operatorAddress).proceeds
  intro found later _ kept holds
  have looksUp := holds.2 service.operatorAddress_ne
  cases found with
  | none =>
    exact proceeds_createSpendingPlanForAddress service.operatorAddress_ne .OPERATOR looksUp.looked
  | some plan =>
    apply Protocol.reaches_done
    refine ⟨?_, kept, plan, rfl, ?_, looksUp.looked⟩
    · exact ⟨fun _ _ => rfl, fun _ _ _ => rfl, fun _ => rfl, fun _ looked => looked, rfl⟩
    · cases linked : later.cache.linkedId service.operatorKey with
      | some id =>
        have planned := plannedId_of_linked (calls call).requestDetails.ipAddress
          service.operatorAddress_ne linked
        exact (Option.some.inj (holds.1.trans planned)).symm ▸ rfl
      | none =>
        have noIp := (looksUp.operator rfl).resolve_left (fun there => there linked)
        have planned := holds.1
        rw [LimiterState.plannedId, if_neg service.operatorAddress_ne, noIp, Option.or_none] at planned
        exact linked.symm.trans planned.symm

private theorem reads_getRemainingBudget (accounts : Accounts calls start state) {id : PlanId}
    (linked : service.OperatorLinked call id state) :
    service.Reads calls start call (fun _ _ => True) (service.getRemainingBudget (calls call).requestDetails) state := by
  have found : service.Reads calls start call (fun _ _ => True)
      (service.getOperatorSpendingPlan (calls call).requestDetails).run state := by
    rw [getOperatorSpendingPlan, run_lift_bind]
    apply (reads_getSpendingPlan accounts service.operatorAddress).bind
    intro found later since kept holds
    have still : later.cache.linkedId service.operatorKey = some id :=
      (since.linkedId accounts linked.2).trans linked.1
    have planned := holds.1.trans (plannedId_of_linked _ service.operatorAddress_ne still)
    cases found with
    | none => cases planned
    | some plan => exact reads_done kept trivial
  apply found.bind
  intro outcome later _ kept _
  cases outcome with
  | ok plan => exact reads_done kept trivial
  | error error => exact reads_done kept trivial

/-- The own half of a call, after the operator's plan was charged. -/
theorem reaches_addExpenseToSpendingPlan (accounts : Accounts calls start state) {id : PlanId}
    (linked : service.OperatorLinked call id state) (charged : state.charged call = [id]) :
    (service.expenses calls start).Reaches call
      (fun outcome later => outcome = .ok () ∧ Accounts calls start later ∧ service.Settled calls call id later)
      (service.addExpenseToSpendingPlan (calls call).cost (calls call).evmAddress (calls call).requestDetails).run
      state := by
  rw [addExpenseToSpendingPlan, run_lift_bind]
  apply Protocol.Reaches.bind (reads_getSpendingPlan accounts (calls call).evmAddress)
  intro found later holds
  obtain ⟨since, kept, planned, looksUp⟩ := holds
  have stillLinked := linked.onward since.onward accounts List.not_mem_nil
  have stillCharged := since.charged.trans charged
  cases found with
  | some plan =>
    apply (proceeds_addToAmountSpent kept (active_of_planned kept planned.symm) service.limitDuration).weaken
    intro outcome final holds
    obtain ⟨onward, recorded, same⟩ := holds
    have stays := plannedId_onward service (calls call).requestDetails.ipAddress onward kept
      (fun present => (looksUp present).looked) List.not_mem_nil
    have own := stays.trans planned.symm
    refine ⟨same, recorded, stillLinked.onward onward kept List.not_mem_nil, ?_, ?_⟩
    · rw [onward.charged, stillCharged, own]
      rfl
    · intro present
      refine ⟨onward.stillLooked _ (looksUp present).looked, ?_⟩
      rw [own]
      exact Option.some_ne_none _
  | none =>
    by_cases missing : (calls call).evmAddress = ""
    · simp only [missing]
      apply Protocol.reaches_done
      refine ⟨rfl, kept, stillLinked, ?_, fun present => absurd missing present⟩
      rw [stillCharged, ← planned]
      rfl
    · have unlinked := unlinked_of_unplanned missing planned.symm
      have different : service.operatorKey ∉ [service.evmAddressKey (calls call).evmAddress] := by
        intro member
        rw [List.mem_singleton] at member
        rw [← member, stillLinked.1] at unlinked
        cases unlinked
      simp only [bne_iff_ne.mpr missing, if_true]
      rw [ExceptT.run_bind]
      apply Protocol.Reaches.bind
        (proceeds_createSpendingPlanForAddress missing .BASIC (looksUp missing).looked)
      intro outcome created holds
      obtain ⟨onward, accounted, plan, rfl, own, looked⟩ := holds
      have planned := plannedId_of_linked (calls call).requestDetails.ipAddress missing own
      apply (proceeds_addToAmountSpent accounted (active_of_planned accounted planned) service.limitDuration).weaken
      intro outcome final holds
      obtain ⟨onward', recorded, same⟩ := holds
      have stays := plannedId_onward service (calls call).requestDetails.ipAddress onward'
        accounted (fun _ => looked) List.not_mem_nil
      have operator := stillLinked.onward onward kept different
      refine ⟨same, recorded, operator.onward onward' accounted List.not_mem_nil, ?_, ?_⟩
      · rw [onward'.charged, onward.charged, stillCharged, stays, planned]
        rfl
      · intro _
        refine ⟨onward'.stillLooked _ looked, ?_⟩
        rw [stays, planned]
        exact Option.some_ne_none _

private theorem reaches_addExpense (enabled : service.isEnabled = true) (accounts : Accounts calls start state)
    (uncharged : state.charged call = []) :
    (service.expenses calls start).Reaches call
      (fun outcome later => outcome = .ok () ∧ Accounts calls start later ∧
        ∃ id, service.Settled calls call id later)
      (service.addExpense (calls call).cost (calls call).evmAddress (calls call).requestDetails).run state := by
  rw [addExpense, if_pos enabled, ExceptT.run_bind]
  apply Protocol.Reaches.bind (proceeds_getOperatorSpendingPlan accounts)
  intro outcome later holds
  obtain ⟨onward, kept, plan, rfl, linked⟩ := holds
  have active := active_of_planned kept
    (plannedId_of_linked "" service.operatorAddress_ne linked.1)
  simp only
  rw [ExceptT.run_bind]
  apply Protocol.Reaches.bind (proceeds_addToAmountSpent kept active service.limitDuration)
  intro outcome later' holds
  obtain ⟨onward', kept', rfl⟩ := holds
  have linked' := linked.onward onward' kept List.not_mem_nil
  simp only
  rw [run_lift_bind]
  apply Protocol.Reaches.bind (reads_getRemainingBudget kept' linked')
  intro _ later'' holds
  obtain ⟨since, kept'', -⟩ := holds
  have linked'' := linked'.onward since.onward kept' List.not_mem_nil
  have charged : later''.charged call = [plan.id] := by
    rw [since.charged, onward'.charged, onward.charged, uncharged]
    rfl
  apply (reaches_addExpenseToSpendingPlan kept'' linked'' charged).weaken
  intro outcome final holds
  exact ⟨holds.1, holds.2.1, plan.id, holds.2.2⟩

/-- Calls in flight together lose no expense when every operation is undisturbed: in every
interleaving, at every pace, and none of them throws. -/
theorem noExpenseLost_of_undisturbed (service : HbarLimitService) (enabled : service.isEnabled = true)
    (calls : Call → Expense) {start : LimiterState} (wellFormed : start.WellFormed) (delays : List Nat)
    (schedule : List Call) {final : (service.expenses calls start).Config (Except LimiterError Unit)}
    (undisturbed : (service.expenses calls start).Permitted (service.inFlight calls start delays) schedule)
    (reached : run (service.expenses calls start).step (service.inFlight calls start delays) schedule = some final)
    (finished : ∀ call, ∃ outcome, final.programs call = .done outcome) :
    (∀ call, final.programs call = .done (.ok ())) ∧ service.NoExpenseLost calls start final.shared.cache := by
  have begun := accounts_initial calls wellFormed delays
  obtain ⟨accounts, ended⟩ := Protocol.reaches_run undisturbed reached begun
    fun _ => reaches_addExpense enabled begun rfl
  have done : ∀ call, final.programs call = .done (.ok ()) ∧
      ∃ operator, service.Settled calls call operator final.shared := by
    intro call
    obtain ⟨outcome, isDone⟩ := finished call
    obtain ⟨shared, ⟨rfl, recorded, operator, settled⟩, respects⟩ := ended call outcome isDone
    exact ⟨isDone, operator, settled.since respects.toSince recorded⟩
  refine ⟨fun call => (done call).1, ?_⟩
  have amounts := amountOf_of_settled accounts fun call => (done call).2
  constructor
  · intro plan found
    have linked := congrArg (Option.map fun plan => plan.id) found
    rw [LimiterState.map_planByEvmKey, Option.map_some] at linked
    rw [amountSpent_of_planByEvmKey accounts found, amounts plan.id, if_pos linked,
      ownCosts_operator accounts (fun call => (done call).2) linked, Nat.add_zero]
  · intro key plan found different
    exact amountSpent_of_settled accounts (fun call => (done call).2) found different
  · intro key plan found different alone
    rw [amountSpent_of_settled accounts (fun call => (done call).2) found different, ownCosts_unshared found alone]
  · intro call
    obtain ⟨-, operator, settled⟩ := done call
    constructor
    · intro absent
      have linked := congrArg (Option.map fun plan => plan.id) absent
      rw [LimiterState.map_planByEvmKey, settled.operator.1] at linked
      cases linked
    · intro present
      rw [ownPlanId, LimiterState.map_planFor]
      exact (settled.own present).2

/-- A check of an operation that takes no time. -/
def undisturbedCheck (service : HbarLimitService) (calls : Call → Expense) (call : Call) (op : LimiterOp)
    (shared : SharedExpenses Call) : Bool :=
  shared.delays.isEmpty &&
    match op with
    | .setAmountSpent id _ _ =>
        shared.cache.amountOf id == shared.lastRead call && decide (id ∉ shared.charged call)
    | .incrAmountSpent id _ => decide (id ∉ shared.charged call)
    | .setEvmAddress key _ _ => decide (∀ other, other ≠ call → key ∉ shared.looked other)
    | .getEvmAddress key =>
        key != service.operatorKey || (shared.cache.planByEvmKey service.operatorKey).isSome ||
          (shared.cache.planByIpAddress (calls call).requestDetails.ipAddress).isNone
    | _ => true

private theorem undisturbed_of_check {op : LimiterOp} {shared : SharedExpenses Call}
    (passed : service.undisturbedCheck calls call op shared = true) : service.Undisturbed calls call op shared := by
  obtain ⟨quick, passed⟩ := Bool.and_eq_true_iff.mp passed
  have same : shared.waited.cache = shared.cache := by
    unfold SharedExpenses.waited
    rw [List.isEmpty_iff.mp quick]
    rfl
  constructor
  · rw [same]
    exact ⟨fun _ => rfl, fun _ => rfl, fun _ => rfl, fun _ => rfl⟩
  · rintro id amount ttl rfl
    exact beq_iff_eq.mp (Bool.and_eq_true_iff.mp passed).1
  · intro id charged
    cases op with
    | setAmountSpent other amount ttl =>
      cases charged
      exact of_decide_eq_true (Bool.and_eq_true_iff.mp passed).2
    | incrAmountSpent other amount =>
      cases charged
      exact of_decide_eq_true passed
    | _ => cases charged
  · rintro key link ttl rfl
    exact of_decide_eq_true passed
  · rintro rfl
    simp only [bne_self_eq_false, Bool.false_or, Bool.or_eq_true, Option.isSome_iff_ne_none,
      Option.isNone_iff_eq_none] at passed
    exact passed

/-- The operator's plan, not charged yet. -/
def operatorPlanState : LimiterState := (LimiterState.initial 1000 2000).withNewPlan exampleService "0x2" .OPERATOR

theorem operatorPlanState_wellFormed : operatorPlanState.WellFormed :=
  (LimiterState.wellFormed_initial 1000 2000).withNewPlan exampleService "0x2" .OPERATOR

def twoExpenses (call : Bool) : Expense where
  cost := if call then 10 else 20
  evmAddress := ""
  requestDetails := { requestId := "", ipAddress := "" }

/-- The first expenses of two addresses. -/
def addressExpenses (call : Bool) : Expense where
  cost := if call then 10 else 20
  evmAddress := if call then "0xa" else "0xb"
  requestDetails := { requestId := "", ipAddress := "" }

/-- One call runs while the other one is between the plan of the operator and its own. -/
def nestedSchedule : List Bool := List.replicate 8 true ++ List.replicate 21 false ++ List.replicate 11 true

theorem noExpenseLost_nested : ∃ final,
    run (exampleService.expenses addressExpenses operatorPlanState).step
      (exampleService.inFlight addressExpenses operatorPlanState []) nestedSchedule = some final ∧
    exampleService.NoExpenseLost addressExpenses operatorPlanState final.shared.cache ∧
    ["0x2", "0xa", "0xb"].map (fun key =>
      (final.shared.cache.planByEvmKey key).map IDetailedHbarSpendingPlan.amountSpent) =
      [some 30, some 10, some 20] := by
  refine ⟨_, rfl, (noExpenseLost_of_undisturbed exampleService (by decide) addressExpenses
    operatorPlanState_wellFormed [] nestedSchedule ?_ rfl ?_).2, by decide⟩
  · apply Protocol.permitted_of_checks (fun _ _ _ => undisturbed_of_check)
    decide
  · intro call
    cases call <;> exact ⟨_, rfl⟩

/-- Two calls read that nothing was spent, and the second one writes over the first. -/
theorem firstExpenses_lost : ¬ ∀ (service : HbarLimitService) (calls : Bool → Expense) (start : LimiterState)
    (delays : List Nat) (schedule : List Bool)
    (final : (service.expenses calls start).Config (Except LimiterError Unit)),
    service.isEnabled = true → start.WellFormed →
    run (service.expenses calls start).step (service.inFlight calls start delays) schedule = some final →
    (∀ call, final.programs call = .done (.ok ())) →
    service.NoExpenseLost calls start final.shared.cache := by
  intro claim
  have kept := claim exampleService twoExpenses operatorPlanState []
    (List.replicate 6 true ++ List.replicate 11 false ++ List.replicate 5 true) _ (by decide)
    operatorPlanState_wellFormed rfl (by intro call; cases call <;> rfl)
  have amount := kept.operator _ rfl
  revert amount
  decide

end HbarLimitService

end HieroRelay.Hbar
