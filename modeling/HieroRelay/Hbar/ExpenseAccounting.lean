import HieroRelay.Hbar.ConcurrentExpenses

/-! What the calls of `addExpense` that are in flight rely on, and the account that their
operations keep. -/

namespace HieroRelay.Hbar

open HieroRelay.Lib HieroRelay.Relay

namespace LimiterState

variable (state : LimiterState)

def storedPlan (id : PlanId) : Option IHbarSpendingPlan := state.plans.get state.now id

def storedLink (key : String) : Option IEvmAddressHbarSpendingPlan := state.evmAddresses.get state.now key

def storedIpLink (ipAddress : String) : Option IIPAddressHbarSpendingPlan :=
  state.ipAddresses.get state.now ipAddress

theorem SameEntries.amountOf {before after : LimiterState} (same : before.SameEntries after) (id : PlanId) :
    after.amountOf id = before.amountOf id :=
  congrArg (fun amount => amount.getD 0) (same.amountSpent id)

end LimiterState

/-- The operation changes no entry and generates nothing. -/
def LimiterOp.IsRead : LimiterOp → Prop
  | .getPlan _ | .getAmountSpent _ | .getAmountSpentTtl _ | .getEvmAddress _ | .getIpAddress _ | .dateNow => True
  | _ => False

namespace SharedExpenses

variable {Call : Type}

/-- What a call finds again after it only read: the plans that are there, that were known
from the start or that it created, and the links that it looked up. -/
structure Since (start : LimiterState) (call : Call) (before after : SharedExpenses Call) : Prop where
  plans : ∀ id, id.KnownTo start.generated ∨ before.cache.storedPlan id ≠ none ∨ before.creator id = some call →
    after.cache.storedPlan id = before.cache.storedPlan id
  links : ∀ key ∈ before.looked call, after.cache.storedLink key = before.cache.storedLink key
  ipLinks : ∀ ipAddress, after.cache.storedIpLink ipAddress = before.cache.storedIpLink ipAddress
  creator : ∀ id, before.creator id = some call → after.creator id = some call
  stillLooked : ∀ key ∈ before.looked call, key ∈ after.looked call
  charged : after.charged call = before.charged call

theorem Since.refl (start : LimiterState) (call : Call) (shared : SharedExpenses Call) :
    Since start call shared shared where
  plans _ _ := rfl
  links _ _ := rfl
  ipLinks _ := rfl
  creator _ created := created
  stillLooked _ looked := looked
  charged := rfl

theorem Since.trans {start : LimiterState} {call : Call} {first second third : SharedExpenses Call}
    (one : Since start call first second) (two : Since start call second third) : Since start call first third where
  plans := by
    intro id holds
    have same := one.plans id holds
    rw [← same]
    apply two.plans id
    rcases holds with known | present | created
    · exact Or.inl known
    · exact Or.inr (Or.inl (by rwa [same]))
    · exact Or.inr (Or.inr (one.creator id created))
  links := by
    intro key looked
    rw [two.links key (one.stillLooked key looked), one.links key looked]
  ipLinks ipAddress := (two.ipLinks ipAddress).trans (one.ipLinks ipAddress)
  creator id created := two.creator id (one.creator id created)
  stillLooked key looked := two.stillLooked key (one.stillLooked key looked)
  charged := two.charged.trans one.charged

/-- What a call relies on while others operate. -/
structure Respects (start : LimiterState) (call : Call) (before after : SharedExpenses Call) : Prop
    extends Since start call before after where
  lastRead : after.lastRead call = before.lastRead call
  looked : after.looked call = before.looked call

theorem Respects.refl (start : LimiterState) (call : Call) (shared : SharedExpenses Call) :
    Respects start call shared shared where
  toSince := Since.refl start call shared
  lastRead := rfl
  looked := rfl

theorem Respects.trans {start : LimiterState} {call : Call} {first second third : SharedExpenses Call}
    (one : Respects start call first second) (two : Respects start call second third) :
    Respects start call first third where
  toSince := one.toSince.trans two.toSince
  lastRead := two.lastRead.trans one.lastRead
  looked := two.looked.trans one.looked

/-- The account: every counter says what it said at the start and what was charged since;
links lead to plans that are there or were known from the start. -/
structure Accounts [Fintype Call] (calls : Call → Expense) (start : LimiterState) (shared : SharedExpenses Call) :
    Prop where
  planIds : ∀ id plan, shared.cache.storedPlan id = some plan → plan.id = id
  plans : ∀ id, shared.cache.storedPlan id ≠ none → id.KnownTo shared.cache.generated
  links : ∀ key link, shared.cache.storedLink key = some link →
    link.planId.KnownTo start.generated ∨ shared.cache.storedPlan link.planId ≠ none
  ipLinks : ∀ ipAddress link, shared.cache.storedIpLink ipAddress = some link → link.planId.KnownTo start.generated
  generated : start.generated ≤ shared.cache.generated
  creators : ∀ id call, shared.creator id = some call →
    id.KnownTo shared.cache.generated ∧ ¬ id.KnownTo start.generated
  amounts : ∀ id, shared.cache.amountOf id =
    start.amountOf id + ∑ call, (calls call).cost * (shared.charged call).count id
  distinct : ∀ call, (shared.charged call).Nodup

/-- What an operation of a call does: it writes a plan that the call created and that is
not there yet, links an address that no other call looked up to a plan that is there,
or pays costs of the call into counters. -/
structure Operates (calls : Call → Expense) (call : Call) (before after : SharedExpenses Call) : Prop where
  plans : ∀ id, after.cache.storedPlan id = before.cache.storedPlan id ∨
    before.cache.storedPlan id = none ∧ before.creator id = some call ∧
      ∃ plan, after.cache.storedPlan id = some plan ∧ plan.id = id
  links : ∀ key, after.cache.storedLink key = before.cache.storedLink key ∨
    (∀ other, other ≠ call → key ∉ before.looked other) ∧
      ∃ link, after.cache.storedLink key = some link ∧ before.cache.storedPlan link.planId ≠ none
  ipLinks : ∀ ipAddress, after.cache.storedIpLink ipAddress = before.cache.storedIpLink ipAddress
  generated : before.cache.generated ≤ after.cache.generated
  creator : ∀ id owner, after.creator id = some owner → before.creator id = some owner ∨
    id = .generated before.cache.generated ∧ before.cache.generated < after.cache.generated
  created : ∀ id owner, before.creator id = some owner → after.creator id = some owner
  paid : ∃ paid, after.charged call = paid ++ before.charged call ∧
    ∀ id, after.cache.amountOf id = before.cache.amountOf id + (calls call).cost * paid.count id
  distinct : (before.charged call).Nodup → (after.charged call).Nodup
  lastRead : ∀ other, other ≠ call → after.lastRead other = before.lastRead other
  looked : ∀ other, other ≠ call → after.looked other = before.looked other
  charged : ∀ other, other ≠ call → after.charged other = before.charged other

variable {start : LimiterState} {calls : Call → Expense} {call other : Call} {before after : SharedExpenses Call}

/-- What an operation does respects the other calls. -/
theorem Operates.respects [Fintype Call] (operates : Operates calls call before after)
    (accounts : Accounts calls start before) (different : other ≠ call) : Respects start other before after where
  plans := by
    intro id holds
    rcases operates.plans id with same | ⟨absent, created, -⟩
    · exact same
    · obtain ⟨-, unknown⟩ := accounts.creators id call created
      rcases holds with known | present | owned
      · exact absurd known unknown
      · exact absurd absent present
      · rw [created] at owned
        exact absurd (Option.some.inj owned).symm different
  links := by
    intro key looked
    rcases operates.links key with same | ⟨unlooked, -⟩
    · exact same
    · exact absurd looked (unlooked other different)
  ipLinks := operates.ipLinks
  creator id created := operates.created id other created
  stillLooked key looked := by rwa [operates.looked other different]
  charged := operates.charged other different
  lastRead := operates.lastRead other different
  looked := operates.looked other different

private theorem sum_charged [Fintype Call] [DecidableEq Call] {paid : List PlanId}
    (own : after.charged call = paid ++ before.charged call)
    (others : ∀ other, other ≠ call → after.charged other = before.charged other) (id : PlanId) :
    ∑ each, (calls each).cost * (after.charged each).count id =
      ∑ each, (calls each).cost * (before.charged each).count id + (calls call).cost * paid.count id := by
  have kept : ∑ each ∈ Finset.univ.erase call, (calls each).cost * (after.charged each).count id =
      ∑ each ∈ Finset.univ.erase call, (calls each).cost * (before.charged each).count id := by
    apply Finset.sum_congr rfl
    intro each member
    rw [others each (Finset.ne_of_mem_erase member)]
  rw [← Finset.add_sum_erase _ _ (Finset.mem_univ call), kept, own, List.count_append, Nat.mul_add,
    ← Finset.add_sum_erase Finset.univ (fun each => (calls each).cost * (before.charged each).count id)
      (Finset.mem_univ call)]
  omega

/-- What an operation does keeps the account. -/
theorem Operates.accounts [Fintype Call] [DecidableEq Call] (operates : Operates calls call before after)
    (accounts : Accounts calls start before) : Accounts calls start after where
  planIds := by
    intro id plan found
    rcases operates.plans id with same | ⟨-, -, written, there, own⟩
    · exact accounts.planIds id plan (same ▸ found)
    · obtain rfl := Option.some.inj (there.symm.trans found)
      exact own
  plans := by
    intro id present
    rcases operates.plans id with same | ⟨-, created, -⟩
    · exact (accounts.plans id (same ▸ present)).weaken operates.generated
    · exact (accounts.creators id call created).1.weaken operates.generated
  links := by
    intro key link found
    have stays : before.cache.storedPlan link.planId ≠ none → after.cache.storedPlan link.planId ≠ none := by
      intro present
      rcases operates.plans link.planId with same | ⟨absent, -⟩
      · rwa [same]
      · exact absurd absent present
    rcases operates.links key with same | ⟨-, written, there, present⟩
    · exact (accounts.links key link (same ▸ found)).imp_right stays
    · obtain rfl := Option.some.inj (there.symm.trans found)
      exact Or.inr (stays present)
  ipLinks ipAddress link found := accounts.ipLinks ipAddress link (operates.ipLinks ipAddress ▸ found)
  generated := accounts.generated.trans operates.generated
  creators := by
    intro id owner created
    rcases operates.creator id owner created with earlier | ⟨rfl, grown⟩
    · obtain ⟨known, unknown⟩ := accounts.creators id owner earlier
      exact ⟨known.weaken operates.generated, unknown⟩
    · exact ⟨grown, Nat.not_lt.mpr accounts.generated⟩
  amounts := by
    intro id
    obtain ⟨paid, own, counters⟩ := operates.paid
    rw [counters id, accounts.amounts id, sum_charged own operates.charged id, Nat.add_assoc]
  distinct := by
    intro each
    by_cases same : each = call
    · rw [same]
      exact operates.distinct (accounts.distinct call)
    · rw [operates.charged each same]
      exact accounts.distinct each

/-- A counter is written. -/
theorem amountOf_set {shared : SharedExpenses Call} (unexpired : shared.cache.SameEntries shared.waited.cache)
    (id other : PlanId) (amount ttl : Nat) :
    LimiterState.amountOf { shared.waited.cache with
      amountSpent := shared.waited.cache.amountSpent.set shared.waited.cache.now id amount ttl } other =
        if other = id then amount else shared.cache.amountOf other := by
  have same := unexpired.amountOf other
  unfold LimiterState.amountOf at same ⊢
  rw [TtlStore.get_set]
  split_ifs
  · rfl
  · exact same

end SharedExpenses

namespace HbarLimitService

open SharedExpenses

variable {Call : Type} [DecidableEq Call] [Fintype Call]

/-- The calls in flight. -/
def expenses (service : HbarLimitService) (calls : Call → Expense) (start : LimiterState) :
    Protocol Call LimiterOp LimiterOp.Answer (SharedExpenses Call) where
  perform := SharedExpenses.perform
  permit := service.Undisturbed calls
  invariant := Accounts calls start
  rely := Respects start
  guarantee call before after := ∀ other, other ≠ call → Respects start other before after
  rely_refl := Respects.refl start
  rely_trans _ _ _ _ := Respects.trans
  compatible _ _ _ _ different guaranteed := guaranteed _ different

/-- No call has begun. -/
def inFlight (service : HbarLimitService) (calls : Call → Expense) (start : LimiterState) (delays : List Nat) :
    (service.expenses calls start).Config (Except LimiterError Unit) where
  shared := .initial start delays
  programs call :=
    (service.addExpense (calls call).cost (calls call).evmAddress (calls call).requestDetails).run

end HbarLimitService

namespace SharedExpenses

variable {Call : Type} [DecidableEq Call] {call other : Call} {op : LimiterOp} {shared : SharedExpenses Call}
  {start : LimiterState}

theorem note_lastRead (different : other ≠ call) : (shared.note call op).lastRead other = shared.lastRead other := by
  cases op <;> simp [note, Function.update_of_ne different]

theorem note_looked (different : other ≠ call) : (shared.note call op).looked other = shared.looked other := by
  cases op <;> simp [note, Function.update_of_ne different]

theorem note_charged (different : other ≠ call) : (shared.note call op).charged other = shared.charged other := by
  cases op <;> simp [note, Function.update_of_ne different]

theorem mem_note_looked {key : String}
    (looked : key ∈ shared.looked call) : key ∈ (shared.note call op).looked call := by
  cases op with
  | getEvmAddress asked => simp [note, looked]
  | _ => exact looked

variable {calls : Call → Expense}

/-- The parts of the record that an operation leaves. -/
theorem operates_of_unpaid (plans : ∀ id, (perform call op shared).2.cache.storedPlan id = shared.cache.storedPlan id ∨
      shared.cache.storedPlan id = none ∧ shared.creator id = some call ∧
        ∃ plan, (perform call op shared).2.cache.storedPlan id = some plan ∧ plan.id = id)
    (links : ∀ key, (perform call op shared).2.cache.storedLink key = shared.cache.storedLink key ∨
      (∀ other, other ≠ call → key ∉ shared.looked other) ∧
        ∃ link, (perform call op shared).2.cache.storedLink key = some link ∧
          shared.cache.storedPlan link.planId ≠ none)
    (ipLinks : ∀ ipAddress,
      (perform call op shared).2.cache.storedIpLink ipAddress = shared.cache.storedIpLink ipAddress)
    (generated : (perform call op shared).2.cache.generated = shared.cache.generated)
    (creator : (perform call op shared).2.creator = shared.creator)
    (charged : (perform call op shared).2.charged = shared.charged)
    (amounts : ∀ id, (perform call op shared).2.cache.amountOf id = shared.cache.amountOf id) :
    Operates calls call shared (perform call op shared).2 where
  plans := plans
  links := links
  ipLinks := ipLinks
  generated := Nat.le_of_eq generated.symm
  creator id owner created := Or.inl (creator ▸ created)
  created id owner created := by rwa [creator]
  paid := ⟨[], congrFun charged call, fun id => by rw [amounts id]; simp⟩
  distinct unpaid := by rwa [charged]
  lastRead _ different := note_lastRead different
  looked _ different := note_looked different
  charged _ different := note_charged different

/-- An operation that reads lets time pass, and no more. -/
theorem perform_read (call : Call) {op : LimiterOp} (shared : SharedExpenses Call) (read : op.IsRead) :
    (perform call op shared).2.cache = shared.waited.cache ∧ (perform call op shared).2.creator = shared.creator ∧
      (perform call op shared).2.charged = shared.charged := by
  cases op <;> first | exact ⟨rfl, rfl, rfl⟩ | exact read.elim

theorem operates_read (read : op.IsRead) (unexpired : shared.cache.SameEntries shared.waited.cache) :
    Operates calls call shared (perform call op shared).2 := by
  obtain ⟨cache, creator, charged⟩ := perform_read call shared read
  apply operates_of_unpaid _ _ _ _ creator charged
  · intro id
    rw [cache]
    exact unexpired.amountOf id
  · intro id
    rw [cache]
    exact Or.inl (unexpired.plans id)
  · intro key
    rw [cache]
    exact Or.inl (unexpired.evmAddresses key)
  · intro ipAddress
    rw [cache]
    exact unexpired.ipAddresses ipAddress
  · rw [cache]
    rfl

theorem operates_uuidV4 [Fintype Call] (accounts : Accounts calls start shared)
    (unexpired : shared.cache.SameEntries shared.waited.cache) :
    Operates calls call shared (perform call .uuidV4 shared).2 where
  plans id := Or.inl (unexpired.plans id)
  links key := Or.inl (unexpired.evmAddresses key)
  ipLinks := unexpired.ipAddresses
  generated := Nat.le_succ _
  creator := by
    intro id owner created
    by_cases same : id = .generated shared.cache.generated
    · exact Or.inr ⟨same, Nat.lt_succ_self _⟩
    · change Function.update shared.creator (.generated shared.cache.generated) (some call) id = some owner at created
      rw [Function.update_of_ne same] at created
      exact Or.inl created
  created := by
    intro id owner created
    have different := (accounts.creators id owner created).1.ne_generated
    change Function.update shared.creator (.generated shared.cache.generated) (some call) id = some owner
    rw [Function.update_of_ne different]
    exact created
  paid := ⟨[], rfl, fun id => unexpired.amountOf id⟩
  distinct unpaid := unpaid
  lastRead _ _ := rfl
  looked _ _ := rfl
  charged _ _ := rfl

theorem storedPlan_setPlan (unexpired : shared.cache.SameEntries shared.waited.cache) (id other : PlanId)
    (plan : IHbarSpendingPlan) (ttl : Nat) :
    (perform call (.setPlan id plan ttl) shared).2.cache.storedPlan other =
      if other = id then some plan else shared.cache.storedPlan other := by
  have same := unexpired.plans other
  have written := TtlStore.get_set shared.cache.plans shared.waited.cache.now ttl id other plan
  change shared.cache.plans.get shared.waited.cache.now other = shared.cache.plans.get shared.cache.now other at same
  rw [same] at written
  exact written

theorem storedLink_setEvmAddress (unexpired : shared.cache.SameEntries shared.waited.cache) (key other : String)
    (link : IEvmAddressHbarSpendingPlan) (ttl : Nat) :
    (perform call (.setEvmAddress key link ttl) shared).2.cache.storedLink other =
      if other = key then some link else shared.cache.storedLink other := by
  have same := unexpired.evmAddresses other
  have written := TtlStore.get_set shared.cache.evmAddresses shared.waited.cache.now ttl key other link
  change shared.cache.evmAddresses.get shared.waited.cache.now other =
    shared.cache.evmAddresses.get shared.cache.now other at same
  rw [same] at written
  exact written

theorem operates_setPlan (unexpired : shared.cache.SameEntries shared.waited.cache) {id : PlanId}
    (absent : shared.cache.storedPlan id = none) (created : shared.creator id = some call)
    {plan : IHbarSpendingPlan} (own : plan.id = id) (ttl : Nat) :
    Operates calls call shared (perform call (.setPlan id plan ttl) shared).2 := by
  refine operates_of_unpaid ?_ ?_ unexpired.ipAddresses rfl rfl rfl unexpired.amountOf
  · intro other
    rw [storedPlan_setPlan unexpired]
    by_cases same : other = id
    · subst same
      rw [if_pos rfl]
      exact Or.inr ⟨absent, created, plan, rfl, own⟩
    · rw [if_neg same]
      exact Or.inl rfl
  · intro key
    exact Or.inl (unexpired.evmAddresses key)

theorem operates_setEvmAddress (unexpired : shared.cache.SameEntries shared.waited.cache) {key : String}
    (unlooked : ∀ other, other ≠ call → key ∉ shared.looked other) {link : IEvmAddressHbarSpendingPlan}
    (present : shared.cache.storedPlan link.planId ≠ none) (ttl : Nat) :
    Operates calls call shared (perform call (.setEvmAddress key link ttl) shared).2 := by
  refine operates_of_unpaid ?_ ?_ unexpired.ipAddresses rfl rfl rfl unexpired.amountOf
  · intro id
    exact Or.inl (unexpired.plans id)
  · intro other
    rw [storedLink_setEvmAddress unexpired]
    by_cases same : other = key
    · subst same
      rw [if_pos rfl]
      exact Or.inr ⟨unlooked, link, rfl, present⟩
    · rw [if_neg same]
      exact Or.inl rfl

/-- An operation that only changes a counter pays when the counter grows by the cost. -/
theorem operates_of_paid (unexpired : shared.cache.SameEntries shared.waited.cache) {id : PlanId}
    (written : ∃ amountSpent, (perform call op shared).2.cache = { shared.waited.cache with amountSpent })
    (creator : (perform call op shared).2.creator = shared.creator) (once : id ∉ shared.charged call)
    (charged : (perform call op shared).2.charged call = id :: shared.charged call)
    (grown : ∀ other, (perform call op shared).2.cache.amountOf other =
      if other = id then shared.cache.amountOf id + (calls call).cost else shared.cache.amountOf other) :
    Operates calls call shared (perform call op shared).2 := by
  obtain ⟨amountSpent, cache⟩ := written
  constructor
  · intro id
    rw [cache]
    exact Or.inl (unexpired.plans id)
  · intro key
    rw [cache]
    exact Or.inl (unexpired.evmAddresses key)
  · intro ipAddress
    rw [cache]
    exact unexpired.ipAddresses ipAddress
  · rw [cache]
    exact Nat.le_refl _
  · intro id owner created
    exact Or.inl (creator ▸ created)
  · intro id owner created
    rwa [creator]
  · refine ⟨[id], charged, ?_⟩
    intro other
    rw [grown other]
    by_cases same : other = id
    · simp [same]
    · have different : id ≠ other := fun equal => same equal.symm
      simp [same, different]
  · intro distinct
    rw [charged]
    exact List.nodup_cons.mpr ⟨once, distinct⟩
  · exact fun _ different => note_lastRead different
  · exact fun _ different => note_looked different
  · exact fun _ different => note_charged different

theorem operates_setAmountSpent (unexpired : shared.cache.SameEntries shared.waited.cache) {id : PlanId} {amount : Nat}
    (right : amount = shared.cache.amountOf id + (calls call).cost) (once : id ∉ shared.charged call) (ttl : Nat) :
    Operates calls call shared (perform call (.setAmountSpent id amount ttl) shared).2 := by
  apply operates_of_paid unexpired ⟨_, rfl⟩ rfl once
  · exact Function.update_self call (id :: shared.charged call) shared.charged
  · intro other
    rw [← right]
    exact amountOf_set unexpired id other amount ttl

theorem operates_incrAmountSpent (unexpired : shared.cache.SameEntries shared.waited.cache) {id : PlanId}
    (once : id ∉ shared.charged call) :
    Operates calls call shared (perform call (.incrAmountSpent id (calls call).cost) shared).2 := by
  apply operates_of_paid unexpired ⟨_, rfl⟩ rfl once
  · exact Function.update_self call (id :: shared.charged call) shared.charged
  · intro other
    rw [← unexpired.amountOf id]
    exact amountOf_set unexpired id other _ _

end SharedExpenses

end HieroRelay.Hbar
