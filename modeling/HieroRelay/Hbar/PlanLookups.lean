import HieroRelay.Hbar.ExpenseAccounting

/-! What a call of `addExpense` finds when it looks up plans while other calls are in
flight: the plans that it would find at the end. -/

namespace HieroRelay.Hbar

open HieroRelay.Lib HieroRelay.Relay

namespace LimiterState

variable (state : LimiterState)

def activeId (id : PlanId) : Option PlanId :=
  ((state.storedPlan id).filter IHbarSpendingPlan.active).map IHbarSpendingPlan.id

/-- The plan to which the link of an address leads. -/
def linkedId (key : String) : Option PlanId :=
  (state.storedLink key).bind fun link => state.activeId link.planId

def ipLinkedId (ipAddress : String) : Option PlanId :=
  if ipAddress = "" then none else (state.storedIpLink ipAddress).bind fun link => state.activeId link.planId

theorem map_activePlan (id : PlanId) :
    (state.activePlan id).map (fun plan => plan.id) = state.activeId id := by
  simp only [activePlan, activeId, storedPlan, Option.map_map]
  rfl

theorem map_planByEvmKey (key : String) :
    (state.planByEvmKey key).map (fun plan => plan.id) = state.linkedId key := by
  unfold planByEvmKey linkedId storedLink
  cases state.evmAddresses.get state.now key with
  | none => rfl
  | some link => exact state.map_activePlan link.planId

theorem map_planByIpAddress (ipAddress : String) :
    (state.planByIpAddress ipAddress).map (fun plan => plan.id) = state.ipLinkedId ipAddress := by
  unfold planByIpAddress ipLinkedId storedIpLink
  split_ifs
  · rfl
  · cases state.ipAddresses.get state.now ipAddress with
    | none => rfl
    | some link => exact state.map_activePlan link.planId

/-- The plan to which an address leads, or else the IP. -/
def plannedId (service : HbarLimitService) (evmAddress ipAddress : String) : Option PlanId :=
  (if evmAddress = "" then none else state.linkedId (service.evmAddressKey evmAddress)).or (state.ipLinkedId ipAddress)

theorem map_planFor (service : HbarLimitService) (evmAddress : String) (requestDetails : RequestDetails) :
    (service.planFor state evmAddress requestDetails).map (fun plan => plan.id) =
      state.plannedId service evmAddress requestDetails.ipAddress := by
  unfold HbarLimitService.planFor plannedId
  rw [Option.map_or, map_planByIpAddress]
  split_ifs
  · rfl
  · rw [map_planByEvmKey]

variable {before after : LimiterState}

theorem SameEntries.activeId (same : before.SameEntries after) (id : PlanId) :
    after.activeId id = before.activeId id :=
  congrArg (fun plan => (plan.filter IHbarSpendingPlan.active).map IHbarSpendingPlan.id) (same.plans id)

theorem SameEntries.linkedId (same : before.SameEntries after) (key : String) :
    after.linkedId key = before.linkedId key := by
  have links : after.storedLink key = before.storedLink key := same.evmAddresses key
  unfold LimiterState.linkedId
  rw [links, funext same.activeId]

theorem SameEntries.ipLinkedId (same : before.SameEntries after) (ipAddress : String) :
    after.ipLinkedId ipAddress = before.ipLinkedId ipAddress := by
  have links : after.storedIpLink ipAddress = before.storedIpLink ipAddress := same.ipAddresses ipAddress
  unfold LimiterState.ipLinkedId
  rw [links, funext same.activeId]

end LimiterState

namespace SharedExpenses

variable {Call : Type}

variable {start : LimiterState} {call : Call} {before after : SharedExpenses Call}

private theorem since_read [DecidableEq Call] {op : LimiterOp} {shared : SharedExpenses Call} (read : op.IsRead)
    (unexpired : shared.cache.SameEntries shared.waited.cache) :
    Since start call shared (perform call op shared).2 := by
  obtain ⟨cache, creator, charged⟩ := perform_read call shared read
  constructor
  · intro id _
    rw [cache]
    exact unexpired.plans id
  · intro key _
    rw [cache]
    exact unexpired.evmAddresses key
  · intro ipAddress
    rw [cache]
    exact unexpired.ipAddresses ipAddress
  · intro id created
    rwa [creator]
  · intro key member
    exact mem_note_looked member
  · exact congrFun charged call

/-- What a call finds again after it linked some keys and charged some plans. -/
structure Onward (start : LimiterState) (call : Call) (written : List String) (paid : List PlanId)
    (before after : SharedExpenses Call) : Prop where
  plans : ∀ id, id.KnownTo start.generated ∨ before.cache.storedPlan id ≠ none →
    after.cache.storedPlan id = before.cache.storedPlan id
  links : ∀ key ∈ before.looked call, key ∉ written → after.cache.storedLink key = before.cache.storedLink key
  ipLinks : ∀ ipAddress, after.cache.storedIpLink ipAddress = before.cache.storedIpLink ipAddress
  stillLooked : ∀ key ∈ before.looked call, key ∈ after.looked call
  charged : after.charged call = paid ++ before.charged call

theorem Since.onward (since : Since start call before after) : Onward start call [] [] before after where
  plans id fixed := since.plans id (fixed.imp_right Or.inl)
  links key looked _ := since.links key looked
  ipLinks := since.ipLinks
  stillLooked := since.stillLooked
  charged := since.charged

theorem Onward.trans {first second third : SharedExpenses Call} {written written' : List String}
    {paid paid' : List PlanId} (one : Onward start call written paid first second)
    (two : Onward start call written' paid' second third) :
    Onward start call (written ++ written') (paid' ++ paid) first third where
  plans := by
    intro id fixed
    have same := one.plans id fixed
    rw [← same]
    apply two.plans id
    rcases fixed with known | present
    · exact Or.inl known
    · exact Or.inr (by rwa [same])
  links := by
    intro key looked unwritten
    rw [List.mem_append, not_or] at unwritten
    rw [two.links key (one.stillLooked key looked) unwritten.2, one.links key looked unwritten.1]
  ipLinks ipAddress := (two.ipLinks ipAddress).trans (one.ipLinks ipAddress)
  stillLooked key looked := two.stillLooked key (one.stillLooked key looked)
  charged := by rw [two.charged, one.charged, List.append_assoc]

variable {written : List String} {paid : List PlanId}

theorem Since.thenOnward {first second third : SharedExpenses Call} (since : Since start call first second)
    (onward : Onward start call written paid second third) : Onward start call written paid first third := by
  have together := since.onward.trans onward
  rwa [List.nil_append, List.append_nil] at together

theorem Onward.activeId {id : PlanId} (onward : Onward start call written paid before after)
    (fixed : id.KnownTo start.generated ∨ before.cache.storedPlan id ≠ none) :
    after.cache.activeId id = before.cache.activeId id := by
  unfold LimiterState.activeId
  rw [onward.plans id fixed]

variable [Fintype Call] {calls : Call → Expense}

/-- The plan of an address that was looked up stays the same. -/
theorem Onward.linkedId {key : String} (onward : Onward start call written paid before after)
    (accounts : Accounts calls start before) (looked : key ∈ before.looked call) (unwritten : key ∉ written) :
    after.cache.linkedId key = before.cache.linkedId key := by
  unfold LimiterState.linkedId
  rw [onward.links key looked unwritten]
  cases found : before.cache.storedLink key with
  | none => rfl
  | some link => exact onward.activeId (accounts.links key link found)

theorem Onward.ipLinkedId (onward : Onward start call written paid before after)
    (accounts : Accounts calls start before) (ipAddress : String) :
    after.cache.ipLinkedId ipAddress = before.cache.ipLinkedId ipAddress := by
  unfold LimiterState.ipLinkedId
  rw [onward.ipLinks ipAddress]
  split_ifs
  · rfl
  · cases found : before.cache.storedIpLink ipAddress with
    | none => rfl
    | some link => exact onward.activeId (Or.inl (accounts.ipLinks ipAddress link found))

theorem Since.linkedId {key : String} (since : Since start call before after) (accounts : Accounts calls start before)
    (looked : key ∈ before.looked call) : after.cache.linkedId key = before.cache.linkedId key :=
  since.onward.linkedId accounts looked List.not_mem_nil

theorem Since.ipLinkedId (since : Since start call before after) (accounts : Accounts calls start before)
    (ipAddress : String) : after.cache.ipLinkedId ipAddress = before.cache.ipLinkedId ipAddress :=
  since.onward.ipLinkedId accounts ipAddress

theorem Accounts.activeId {id other : PlanId} (accounts : Accounts calls start before)
    (active : before.cache.activeId id = some other) : other = id ∧ before.cache.storedPlan id ≠ none := by
  unfold LimiterState.activeId at active
  obtain ⟨plan, kept, same⟩ := Option.map_eq_some_iff.mp active
  obtain ⟨stored, -⟩ := Option.filter_eq_some_iff.mp kept
  refine ⟨same.symm.trans (accounts.planIds id plan stored), ?_⟩
  rw [stored]
  exact Option.some_ne_none plan

end SharedExpenses

namespace HbarLimitService

open SharedExpenses

section Lookups
variable {Call : Type} {service : HbarLimitService} {calls : Call → Expense} {call : Call}

/-- What is known of the operator's plan after a lookup by its key: it is there, or the IP
has no plan. -/
def OperatorThere (service : HbarLimitService) (calls : Call → Expense) (call : Call) (shared : SharedExpenses Call) :
    Prop :=
  shared.cache.linkedId service.operatorKey ≠ none ∨
    shared.cache.ipLinkedId (calls call).requestDetails.ipAddress = none

theorem Undisturbed.operatorThere {shared : SharedExpenses Call}
    (undisturbed : service.Undisturbed calls call (.getEvmAddress service.operatorKey) shared) :
    service.OperatorThere calls call shared := by
  unfold OperatorThere
  rw [← LimiterState.map_planByEvmKey, ← LimiterState.map_planByIpAddress]
  exact (undisturbed.operator rfl).imp (mt Option.map_eq_none_iff.mp) (congrArg _)

theorem OperatorThere.since [Fintype Call] {start : LimiterState} {before after : SharedExpenses Call}
    (there : service.OperatorThere calls call before)
    (since : Since start call before after) (accounts : Accounts calls start before)
    (looked : service.operatorKey ∈ before.looked call) : service.OperatorThere calls call after := by
  unfold OperatorThere
  rw [since.linkedId accounts looked, since.ipLinkedId accounts]
  exact there

/-- A lookup by the key of an address. -/
structure LooksUp (service : HbarLimitService) (calls : Call → Expense) (call : Call) (key : String)
    (later : SharedExpenses Call) : Prop where
  looked : key ∈ later.looked call
  operator : key = service.operatorKey → service.OperatorThere calls call later

theorem LooksUp.since [Fintype Call] {start : LimiterState} {before after : SharedExpenses Call} {key : String}
    (looksUp : service.LooksUp calls call key before) (since : Since start call before after)
    (accounts : Accounts calls start before) : service.LooksUp calls call key after where
  looked := since.stillLooked key looksUp.looked
  operator same := (looksUp.operator same).since since accounts (same ▸ looksUp.looked)

end Lookups

variable {Call : Type} [DecidableEq Call] [Fintype Call] {service : HbarLimitService} {calls : Call → Expense}
  {start : LimiterState} {call : Call} {Result Next : Type} {state : SharedExpenses Call}

/-- A program of a call that only reads, while the others interfere. -/
def Reads (service : HbarLimitService) (calls : Call → Expense) (start : LimiterState) (call : Call)
    (post : Result → SharedExpenses Call → Prop) (program : Program Result) (state : SharedExpenses Call) : Prop :=
  (service.expenses calls start).Reaches call
    (fun result later => Since start call state later ∧ Accounts calls start later ∧ post result later) program state

theorem reads_done {post : Result → SharedExpenses Call → Prop} {result : Result}
    (accounts : Accounts calls start state) (holds : post result state) :
    service.Reads calls start call post (.done result) state :=
  Protocol.reaches_done ⟨Since.refl start call state, accounts, holds⟩

theorem Reads.bind {middle : Result → SharedExpenses Call → Prop} {post : Next → SharedExpenses Call → Prop}
    {program : Program Result} {next : Result → Program Next}
    (first : service.Reads calls start call middle program state)
    (second : ∀ result later, Since start call state later → Accounts calls start later → middle result later →
      service.Reads calls start call post (next result) later) :
    service.Reads calls start call post (program >>= next) state := by
  apply Protocol.Reaches.bind first
  intro result later holds
  obtain ⟨since, accounts, holds⟩ := holds
  apply (second result later since accounts holds).weaken
  intro result final holds
  exact ⟨since.trans holds.1, holds.2⟩

theorem Reads.weaken {strong weak : Result → SharedExpenses Call → Prop} {program : Program Result}
    (reads : service.Reads calls start call strong program state)
    (weaker : ∀ result later, Since start call state later → strong result later → weak result later) :
    service.Reads calls start call weak program state := by
  apply Protocol.Reaches.weaken reads
  intro result later holds
  exact ⟨holds.1, holds.2.1, weaker result later holds.1 holds.2.2⟩

/-- The answer of an operation, and the state in which it was permitted. -/
def Answered (service : HbarLimitService) (calls : Call → Expense) (start : LimiterState) (call : Call) (op : LimiterOp)
    (state : SharedExpenses Call) (answer : op.Answer) (after : SharedExpenses Call) : Prop :=
  ∃ before, Respects start call state before ∧ Accounts calls start before ∧
    service.Undisturbed calls call op before ∧
    answer = (perform call op before).1 ∧ after = (perform call op before).2

/-- The rule for an operation. -/
theorem reaches_ask {op : LimiterOp}
    (operates : ∀ before, Respects start call state before → Accounts calls start before →
      service.Undisturbed calls call op before → Operates calls call before (perform call op before).2) :
    (service.expenses calls start).Reaches call
      (fun answer after => Accounts calls start after ∧ service.Answered calls start call op state answer after)
      (ask op) state := by
  apply Protocol.reaches_op
  intro before respects accounts undisturbed
  have operates := operates before respects accounts undisturbed
  refine ⟨?_, operates.accounts accounts, operates.accounts accounts, before, respects, accounts, undisturbed, rfl, rfl⟩
  intro other different
  exact operates.respects accounts different

/-- The rule for an operation that reads. -/
theorem reads_ask (op : LimiterOp) (read : op.IsRead) :
    service.Reads calls start call
      (fun answer after => service.Answered calls start call op state answer after) (ask op) state := by
  apply (reaches_ask fun before _ _ undisturbed => operates_read read undisturbed.unexpired).weaken
  intro answer after holds
  obtain ⟨accounts, before, respects, kept, undisturbed, same, performed⟩ := holds
  refine ⟨?_, accounts, before, respects, kept, undisturbed, same, performed⟩
  rw [performed]
  exact respects.toSince.trans (since_read read undisturbed.unexpired)

/-- An operation that reads answers what is there afterwards. -/
theorem Answered.eq {op : LimiterOp} {answer : op.Answer} {after : SharedExpenses Call}
    (answered : service.Answered calls start call op state answer after) (read : op.IsRead) :
    answer = (after.cache.perform op).1 := by
  obtain ⟨before, -, -, -, rfl, rfl⟩ := answered
  cases op <;> first | rfl | exact read.elim

theorem reads_await {post : Except LimiterError Result → SharedExpenses Call → Prop} (op : LimiterOp) (read : op.IsRead)
    {next : op.Answer → Throwing Result}
    (follows : ∀ answer later, Since start call state later → Accounts calls start later →
      service.Answered calls start call op state answer later → service.Reads calls start call post
        (next answer).run later) :
    service.Reads calls start call post (await op >>= next).run state :=
  (reads_ask op read).bind follows

theorem Reads.bindThrowing {middle : Except LimiterError Result → SharedExpenses Call → Prop}
    {post : Except LimiterError Next → SharedExpenses Call → Prop} {program : Throwing Result}
    {next : Result → Throwing Next} (first : service.Reads calls start call middle program.run state)
    (throws : ∀ error later, middle (.error error) later → post (.error error) later)
    (follows : ∀ result later, Since start call state later → Accounts calls start later → middle (.ok result) later →
      service.Reads calls start call post (next result).run later) :
    service.Reads calls start call post (program >>= next).run state := by
  rw [ExceptT.run_bind]
  apply first.bind
  intro outcome later since accounts holds
  cases outcome with
  | ok result => exact follows result later since accounts holds
  | error error => exact reads_done accounts (throws error later holds)

/-- A plan is found as it is at the end. -/
theorem reads_findById (id : PlanId) :
    service.Reads calls start call
      (fun outcome later => outcome = (later.cache.storedPlan id).elim (.error (.planNotFound id)) .ok)
      (HbarSpendingPlanRepository.findById id).run state := by
  apply reads_await (.getPlan id) trivial
  intro answer later _ accounts answered
  have same : answer = later.cache.storedPlan id := answered.eq trivial
  subst same
  cases found : later.cache.storedPlan id with
  | none => exact reads_done accounts (by rw [found]; rfl)
  | some plan => exact reads_done accounts (by rw [found]; rfl)

theorem storedPlan_of_ok {cache : LimiterState} {id : PlanId} {plan : IHbarSpendingPlan}
    (outcome : .ok plan = (cache.storedPlan id).elim (Except.error (LimiterError.planNotFound id)) .ok) :
    cache.storedPlan id = some plan := by
  cases found : cache.storedPlan id with
  | none => rw [found] at outcome; cases outcome
  | some stored => rw [found] at outcome; cases outcome; rfl

theorem storedPlan_of_error {cache : LimiterState} {id : PlanId} {error : LimiterError}
    (outcome : .error error = (cache.storedPlan id).elim (Except.error (LimiterError.planNotFound id)) .ok) :
    cache.storedPlan id = none := by
  cases found : cache.storedPlan id with
  | none => rfl
  | some plan => rw [found] at outcome; cases outcome

/-- A program that throws exactly where the plan is not there or not active. -/
def FindsActive (id : PlanId) (outcome : Except LimiterError Result) (later : SharedExpenses Call) : Prop :=
  outcome.toOption.isSome = (later.cache.activeId id).isSome

theorem reads_checkExistsAndActive (id : PlanId) :
    service.Reads calls start call (FindsActive id)
      (HbarSpendingPlanRepository.checkExistsAndActive id).run state := by
  unfold FindsActive LimiterState.activeId
  apply (reads_findById id).bindThrowing
  · intro error later outcome
    rw [storedPlan_of_error outcome]
    rfl
  · intro plan later _ accounts outcome
    have found := storedPlan_of_ok outcome
    cases active : plan.active with
    | false => exact reads_done accounts (by rw [found, Option.filter_some, active]; rfl)
    | true => exact reads_done accounts (by rw [found, Option.filter_some, active]; rfl)

private theorem reads_getAmountSpent (id : PlanId) :
    service.Reads calls start call (FindsActive id) (HbarSpendingPlanRepository.getAmountSpent id).run state := by
  apply (reads_checkExistsAndActive id).bindThrowing
  · intro error later outcome
    exact outcome
  · intro _ later _ accounts outcome
    apply reads_await (.getAmountSpent id) trivial
    intro amount final since kept _
    apply reads_done kept
    obtain ⟨other, active⟩ := Option.isSome_iff_exists.mp outcome.symm
    unfold FindsActive
    rw [since.onward.activeId (Or.inr (accounts.activeId active).2), active]
    rfl

theorem reads_findByIdWithDetails (id : PlanId) :
    service.Reads calls start call
      (fun outcome later => outcome.toOption.map (fun plan => plan.id) = later.cache.activeId id)
      (HbarSpendingPlanRepository.findByIdWithDetails id).run state := by
  apply (reads_findById id).bindThrowing
  · intro error later outcome
    rw [LimiterState.activeId, storedPlan_of_error outcome]
    rfl
  · intro plan later _ accounts outcome
    have found := storedPlan_of_ok outcome
    apply (reads_getAmountSpent id).bindThrowing
    · intro error final outcome
      exact (Option.isSome_eq_false_iff.mp outcome.symm |> Option.isNone_iff_eq_none.mp).symm
    · intro amount final since kept outcome
      apply reads_done kept
      obtain ⟨other, active⟩ := Option.isSome_iff_exists.mp outcome.symm
      have same := since.plans id (Or.inr (Or.inl (by rw [found]; exact Option.some_ne_none plan)))
      rw [found] at same
      obtain ⟨rfl, -⟩ := kept.activeId active
      rw [active]
      exact congrArg some (kept.planIds _ plan same)

theorem Reads.attempt {post : Except LimiterError Result → SharedExpenses Call → Prop}
    {lookup : Option Result → SharedExpenses Call → Prop} {program : Throwing Result}
    (reads : service.Reads calls start call post program.run state)
    (found : ∀ outcome later, Accounts calls start later → post outcome later → lookup outcome.toOption later) :
    service.Reads calls start call lookup (attempt program) state := by
  apply reads.bind
  intro outcome later _ accounts holds
  exact reads_done accounts (found outcome later accounts holds)

theorem Answered.looksUp {key : String} {answer : Option IEvmAddressHbarSpendingPlan} {after : SharedExpenses Call}
    (answered : service.Answered calls start call (.getEvmAddress key) state answer after) :
    service.LooksUp calls call key after := by
  obtain ⟨before, -, accounts, undisturbed, -, rfl⟩ := answered
  constructor
  · change key ∈ Function.update before.looked call (key :: before.looked call) call
    simp
  · intro same
    subst same
    unfold OperatorThere
    have cache : (perform call (.getEvmAddress service.operatorKey) before).2.cache = before.waited.cache := rfl
    rw [cache, undisturbed.unexpired.linkedId, undisturbed.unexpired.ipLinkedId]
    exact undisturbed.operatorThere

private theorem reads_getSpendingPlanByEvmAddress (evmAddress : String) :
    service.Reads calls start call
      (fun outcome later => outcome.toOption.map (fun plan => plan.id) =
          later.cache.linkedId (service.evmAddressKey evmAddress) ∧
        service.LooksUp calls call (service.evmAddressKey evmAddress) later)
      (service.getSpendingPlanByEvmAddress evmAddress).run state := by
  have found : service.Reads calls start call
      (fun outcome later => outcome.toOption = later.cache.storedLink (service.evmAddressKey evmAddress) ∧
        service.LooksUp calls call (service.evmAddressKey evmAddress) later)
      (EvmAddressHbarSpendingPlanRepository.findByAddress (service.evmAddressKey evmAddress) evmAddress).run state := by
    apply reads_await (.getEvmAddress (service.evmAddressKey evmAddress)) trivial
    intro answer later _ accounts answered
    have same : answer = later.cache.storedLink (service.evmAddressKey evmAddress) := answered.eq trivial
    have looksUp := answered.looksUp
    cases answer with
    | none => exact reads_done accounts ⟨same, looksUp⟩
    | some link => exact reads_done accounts ⟨same, looksUp⟩
  apply found.bindThrowing
  · intro error later outcome
    refine ⟨?_, outcome.2⟩
    unfold LimiterState.linkedId
    rw [← outcome.1]
    rfl
  · intro link later _ accounts outcome
    apply (reads_findByIdWithDetails link.planId).weaken
    intro outcome' final since same
    refine ⟨?_, outcome.2.since since accounts⟩
    unfold LimiterState.linkedId
    rw [since.links _ outcome.2.looked, ← outcome.1]
    exact same

private theorem reads_getSpendingPlanByIPAddress (present : (calls call).requestDetails.ipAddress ≠ "") :
    service.Reads calls start call
      (fun outcome later => outcome.toOption.map (fun plan => plan.id) =
        later.cache.ipLinkedId (calls call).requestDetails.ipAddress)
      (getSpendingPlanByIPAddress (calls call).requestDetails).run state := by
  unfold LimiterState.ipLinkedId
  simp only [if_neg present]
  have found : service.Reads calls start call
      (fun outcome later => outcome.toOption = later.cache.storedIpLink (calls call).requestDetails.ipAddress)
      (IPAddressHbarSpendingPlanRepository.findByAddress (calls call).requestDetails.ipAddress).run state := by
    apply reads_await (.getIpAddress (calls call).requestDetails.ipAddress) trivial
    intro answer later _ accounts answered
    have same : answer = later.cache.storedIpLink (calls call).requestDetails.ipAddress := answered.eq trivial
    cases answer with
    | none => exact reads_done accounts same
    | some link => exact reads_done accounts same
  apply found.bindThrowing
  · intro error later outcome
    rw [← outcome]
    rfl
  · intro link later _ accounts outcome
    apply (reads_findByIdWithDetails link.planId).weaken
    intro outcome' final since same
    rw [since.ipLinks, ← outcome]
    exact same

/-- The plan that a call finds is the one that it would find at the end. -/
theorem reads_getSpendingPlan (accounts : Accounts calls start state) (evmAddress : String) :
    service.Reads calls start call
      (fun plan later => plan.map (fun plan => plan.id) =
          later.cache.plannedId service evmAddress (calls call).requestDetails.ipAddress ∧
        (evmAddress ≠ "" → service.LooksUp calls call (service.evmAddressKey evmAddress) later))
      (service.getSpendingPlan evmAddress (calls call).requestDetails) state := by
  have byAddress : service.Reads calls start call
      (fun plan later => plan.map (fun plan => plan.id) =
          (if evmAddress = "" then none else later.cache.linkedId (service.evmAddressKey evmAddress)) ∧
        (evmAddress ≠ "" → service.LooksUp calls call (service.evmAddressKey evmAddress) later))
      (if evmAddress != "" then attempt (service.getSpendingPlanByEvmAddress evmAddress) else pure none) state := by
    by_cases missing : evmAddress = ""
    · subst missing
      exact reads_done accounts ⟨rfl, fun present => absurd rfl present⟩
    · rw [if_pos (bne_iff_ne.mpr missing)]
      apply (reads_getSpendingPlanByEvmAddress evmAddress).attempt
      intro outcome later _ holds
      rw [if_neg missing]
      exact ⟨holds.1, fun _ => holds.2⟩
  apply byAddress.bind
  intro byAddress later _ kept holds
  cases byAddress with
  | some plan =>
    apply reads_done kept
    refine ⟨?_, holds.2⟩
    rw [LimiterState.plannedId, ← holds.1]
    rfl
  | none =>
    by_cases missing : (calls call).requestDetails.ipAddress = ""
    · rw [missing]
      apply reads_done kept
      refine ⟨?_, holds.2⟩
      rw [LimiterState.plannedId, ← holds.1]
      rfl
    · simp only [bne_iff_ne.mpr missing, if_true]
      have read : service.Reads calls start call
          (fun plan final => plan.map (fun plan => plan.id) =
            final.cache.ipLinkedId (calls call).requestDetails.ipAddress)
          (attempt (getSpendingPlanByIPAddress (calls call).requestDetails)) later :=
        (reads_getSpendingPlanByIPAddress missing).attempt fun _ _ _ found => found
      apply read.weaken
      intro plan final since found
      refine ⟨?_, fun present => (holds.2 present).since since kept⟩
      rw [found, LimiterState.plannedId]
      have unlinked : (if evmAddress = "" then none
          else final.cache.linkedId (service.evmAddressKey evmAddress)) = none := by
        by_cases unknown : evmAddress = ""
        · rw [if_pos unknown]
        · have absent := holds.1
          rw [if_neg unknown] at absent ⊢
          rw [since.linkedId kept (holds.2 unknown).looked]
          exact absent.symm
      rw [unlinked, Option.none_or]

end HbarLimitService

end HieroRelay.Hbar
