import HieroRelay.Hbar.AddressLinks

/-! The cache after the configured plans were populated: their links and the plans, and
when populating again changes nothing. -/

namespace HieroRelay.Hbar

open HieroRelay.Lib HbarSpendingPlanConfigService

variable {evmAddressKey : String → String} {configs : List SpendingPlanConfig} {state : LimiterState}

/-- The prior content of the links is what the repositories wrote. -/
structure LinksWritten (evmAddressKey : String → String) (state : LimiterState) : Prop where
  evmAddresses : (evmAddressRepository evmAddressKey).Written state.now state.evmAddresses
  ipAddresses : ipAddressRepository.Written state.now state.ipAddresses

section Associations

theorem updatePlanAssociations_eq (evmAddressKey : String → String) (configs : List SpendingPlanConfig)
    (state : LimiterState) :
    updatePlanAssociations evmAddressKey configs state = { state with
      evmAddresses := (evmAddressRepository evmAddressKey).associateAll state.now SpendingPlanConfig.evmAddresses configs
        state.evmAddresses
      ipAddresses := ipAddressRepository.associateAll state.now SpendingPlanConfig.ipAddresses configs
        state.ipAddresses } := by
  induction configs generalizing state with
  | nil => rfl
  | cons planConfig rest ih => exact ih (updatePlanAssociation evmAddressKey planConfig state)

end Associations

section Deletion

/-- What is left of the cache when the plans were deleted. -/
def deletePlans (evmAddressKey : String → String) (ids : List PlanId) (state : LimiterState) : LimiterState :=
  { state with
    plans := ids.foldl TtlStore.delete state.plans
    evmAddresses := (evmAddressRepository evmAddressKey).deleteAllByPlanIds state.now ids state.evmAddresses
    ipAddresses := ipAddressRepository.deleteAllByPlanIds state.now ids state.ipAddresses }

private theorem deleteObsoletePlans_eq (evmAddressKey : String → String)
    (existingPlans : List IDetailedHbarSpendingPlan)
    (configs : List SpendingPlanConfig) (state : LimiterState) :
    deleteObsoletePlans evmAddressKey existingPlans configs state =
      ((plansToDelete existingPlans configs).length,
        deletePlans evmAddressKey ((plansToDelete existingPlans configs).map fun plan => plan.id) state) := by
  refine congrArg (Prod.mk _) ?_
  generalize plansToDelete existingPlans configs = obsolete
  induction obsolete generalizing state with
  | nil => rfl
  | cons plan rest ih => exact ih (deleteObsoletePlan evmAddressKey plan.id state)

end Deletion

section Addition

/-- The plan that is stored for a configuration. -/
def configuredPlan (now : Nat) (spc : SpendingPlanConfig) : IHbarSpendingPlan where
  id := spc.planId
  subscriptionTier := spc.subscriptionTier
  createdAt := now
  active := true

def createPlans (new : List SpendingPlanConfig) (state : LimiterState) : LimiterState :=
  { state with
    plans := new.foldl (fun extended spc => extended.set state.now spc.planId (configuredPlan state.now spc) unlimitedTtl)
      state.plans }

private theorem addNewPlans_eq (configs : List SpendingPlanConfig) (existingPlans : List IDetailedHbarSpendingPlan)
    (state : LimiterState) :
    addNewPlans configs existingPlans state =
      ((plansToAdd configs existingPlans).length, createPlans (plansToAdd configs existingPlans) state) := by
  refine congrArg (Prod.mk _) ?_
  generalize plansToAdd configs existingPlans = new
  induction new generalizing state with
  | nil => rfl
  | cons spc rest ih => exact ih (HbarSpendingPlanRepository.createWithId spc.subscriptionTier spc.planId state)

end Addition

/-- The plans that are found before anything changes. -/
def existingPlans (state : LimiterState) : List IDetailedHbarSpendingPlan :=
  HbarSpendingPlanRepository.findAllActiveBySubscriptionTier [.EXTENDED, .PRIVILEGED] state

/-- The plans that a configuration makes obsolete. -/
def obsoleteIds (configs : List SpendingPlanConfig) (state : LimiterState) : List PlanId :=
  (plansToDelete (existingPlans state) configs).map fun plan => plan.id

/-- The cache when the plans were deleted and added, before the links are brought in line. -/
def reconciled (evmAddressKey : String → String) (configs : List SpendingPlanConfig)
    (state : LimiterState) : LimiterState :=
  createPlans (plansToAdd configs (existingPlans state)) (deletePlans evmAddressKey (obsoleteIds configs state) state)

theorem populatePreconfiguredSpendingPlans_eq (evmAddressKey : String → String) (state : LimiterState)
    (nonempty : configs ≠ [])
    (valid : ∀ planConfig ∈ configs, isValidSpendingPlanConfig planConfig = true) :
    populatePreconfiguredSpendingPlans evmAddressKey configs state =
      (.ok ((plansToDelete (existingPlans state) configs).length + (plansToAdd configs (existingPlans state)).length),
        updatePlanAssociations evmAddressKey configs (reconciled evmAddressKey configs state)) := by
  have checked : validateSpendingPlanConfig configs = .ok () := by
    have none : configs.find? (fun plan => !isValidSpendingPlanConfig plan) = none := by
      rw [List.find?_eq_none]
      intro planConfig listed
      simp [valid planConfig listed]
    rw [validateSpendingPlanConfig, none]
  rw [populatePreconfiguredSpendingPlans, if_neg (by simpa using nonempty), checked]
  simp only [deleteObsoletePlans_eq, addNewPlans_eq]
  rfl

theorem nodup_planIds (distinct : (configs.map fun planConfig => planConfig.id).Nodup) :
    (configs.map SpendingPlanConfig.planId).Nodup := by
  have injective : Function.Injective PlanId.configured := fun _ _ => PlanId.configured.inj
  have mapped := distinct.map injective
  rwa [List.map_map] at mapped

/-- After plans were deleted no link has one of them. -/
theorem LinkRepository.not_mem_of_get_deleteAllByPlanIds {repository : LinkRepository Link} {now : Nat}
    {planIds : List PlanId} {links : Links Link} (key : String) (stored : Link)
    (found : (repository.deleteAllByPlanIds now planIds links).get now key = some stored) :
    repository.planId stored ∉ planIds := by
  rw [LinkRepository.get_deleteAllByPlanIds, Option.filter_eq_some_iff] at found
  exact of_decide_eq_true found.2

def lowerCase (text : String) : String := String.ofList (text.toList.map Char.toLower)

def exampleConfig (id : String) (subscriptionTier : SubscriptionTier)
    (evmAddresses : List String) : SpendingPlanConfig where
  id
  name := id
  evmAddresses := some evmAddresses
  ipAddresses := none
  subscriptionTier

theorem linksWritten_initial (evmAddressKey : String → String) (now reset : Nat) :
    LinksWritten evmAddressKey (.initial now reset) where
  evmAddresses key stored found := by cases found
  ipAddresses key stored found := by cases found

/-- For any prior content that the repositories wrote, the links are those of the
configuration, both of EVM addresses and of IP addresses. -/
theorem populatePreconfiguredSpendingPlans_match (evmAddressKey : String → String) (configs : List SpendingPlanConfig)
    (state : LimiterState) (nonempty : configs ≠ [])
    (valid : ∀ planConfig ∈ configs, isValidSpendingPlanConfig planConfig = true)
    (distinct : (configs.map fun planConfig => planConfig.id).Nodup) (written : LinksWritten evmAddressKey state) :
    ∃ changed after, populatePreconfiguredSpendingPlans evmAddressKey configs state = (.ok changed, after) ∧
      (evmAddressRepository evmAddressKey).Match state.now SpendingPlanConfig.evmAddresses configs
        (obsoleteIds configs state) after.evmAddresses ∧
      ipAddressRepository.Match state.now SpendingPlanConfig.ipAddresses configs (obsoleteIds configs state)
        after.ipAddresses := by
  refine ⟨_, _, populatePreconfiguredSpendingPlans_eq evmAddressKey state nonempty valid, ?_, ?_⟩
  · rw [updatePlanAssociations_eq]
    exact (written.evmAddresses.deleteAllByPlanIds _).match_associateAll (nodup_planIds distinct)
      LinkRepository.not_mem_of_get_deleteAllByPlanIds
  · rw [updatePlanAssociations_eq]
    exact (written.ipAddresses.deleteAllByPlanIds _).match_associateAll (nodup_planIds distinct)
      LinkRepository.not_mem_of_get_deleteAllByPlanIds

/-- An address that two plans list, in two spellings. -/
theorem populatePreconfiguredSpendingPlans_match_moved : ∃ changed after,
    populatePreconfiguredSpendingPlans lowerCase
      [exampleConfig "p1" .EXTENDED ["0xA1"], exampleConfig "p2" .PRIVILEGED ["0xa1"]] (.initial 0 0) =
        (.ok changed, after) ∧
    (evmAddressRepository lowerCase).Match 0 SpendingPlanConfig.evmAddresses
      [exampleConfig "p1" .EXTENDED ["0xA1"], exampleConfig "p2" .PRIVILEGED ["0xa1"]] [] after.evmAddresses := by
  obtain ⟨changed, after, ran, matched, _⟩ := populatePreconfiguredSpendingPlans_match lowerCase
    [exampleConfig "p1" .EXTENDED ["0xA1"], exampleConfig "p2" .PRIVILEGED ["0xa1"]] (.initial 0 0)
    (List.cons_ne_nil _ _) (by decide) (by decide) (linksWritten_initial lowerCase 0 0)
  exact ⟨changed, after, ran, matched⟩

section Plans

/-- The plans that the service finds. -/
def Found (plan : IHbarSpendingPlan) : Prop :=
  plan.subscriptionTier ∈ [SubscriptionTier.EXTENDED, SubscriptionTier.PRIVILEGED] ∧ plan.active = true

/-- Every plan is under its identifier, as `create` writes it. -/
def PlansWritten (state : LimiterState) : Prop :=
  ∀ id plan, state.plans.get state.now id = some plan → plan.id = id

theorem mem_existingPlans_iff (written : PlansWritten state) {id : PlanId} :
    (∃ plan ∈ existingPlans state, plan.id = id) ↔ ∃ plan, state.plans.get state.now id = some plan ∧ Found plan := by
  rw [existingPlans, HbarSpendingPlanRepository.findAllActiveBySubscriptionTier]
  constructor
  · rintro ⟨_, listed, rfl⟩
    obtain ⟨plan, kept, rfl⟩ := List.mem_map.mp listed
    obtain ⟨stored, found⟩ := List.mem_filter.mp kept
    obtain ⟨key, _, present⟩ := List.mem_filterMap.mp stored
    rw [Bool.and_eq_true, List.contains_iff_mem] at found
    exact ⟨plan, written key plan present ▸ present, found⟩
  · rintro ⟨plan, present, found⟩
    refine ⟨_, List.mem_map.mpr ⟨plan, List.mem_filter.mpr ⟨List.mem_filterMap.mpr
      ⟨id, TtlStore.mem_keys_of_get present, present⟩, ?_⟩, rfl⟩, written id plan present⟩
    rw [Bool.and_eq_true, List.contains_iff_mem]
    exact found

theorem mem_plansToAdd_iff (written : PlansWritten state) {planConfig : SpendingPlanConfig} :
    planConfig ∈ plansToAdd configs (existingPlans state) ↔
      planConfig ∈ configs ∧ ¬ ∃ plan, state.plans.get state.now planConfig.planId = some plan ∧ Found plan := by
  rw [plansToAdd, List.mem_filter, ← mem_existingPlans_iff written]
  simp

theorem mem_obsoleteIds_iff (written : PlansWritten state) {id : PlanId} :
    id ∈ obsoleteIds configs state ↔
      (∃ plan, state.plans.get state.now id = some plan ∧ Found plan) ∧ id ∉ configs.map SpendingPlanConfig.planId := by
  rw [obsoleteIds, List.mem_map, ← mem_existingPlans_iff written]
  constructor
  · rintro ⟨plan, obsolete, rfl⟩
    obtain ⟨exists_, unlisted⟩ := List.mem_filter.mp obsolete
    refine ⟨⟨plan, exists_, rfl⟩, fun listed => ?_⟩
    obtain ⟨planConfig, config, same⟩ := List.mem_map.mp listed
    simp only [Bool.not_eq_true', List.any_eq_false, decide_eq_true_eq] at unlisted
    exact unlisted planConfig config same
  · rintro ⟨⟨plan, exists_, rfl⟩, unlisted⟩
    refine ⟨plan, List.mem_filter.mpr ⟨exists_, ?_⟩, rfl⟩
    simp only [Bool.not_eq_true', List.any_eq_false, decide_eq_true_eq]
    intro planConfig config same
    exact unlisted (List.mem_map.mpr ⟨planConfig, config, same⟩)

theorem get_createPlans (new : List SpendingPlanConfig) (state : LimiterState) (id : PlanId) :
    (createPlans new state).plans.get state.now id =
      ((new.filter fun spc => spc.planId = id).getLast?.map (configuredPlan state.now)).or (state.plans.get state.now id) :=
  TtlStore.get_foldl_set state.now unlimitedTtl SpendingPlanConfig.planId (configuredPlan state.now) new state.plans id

/-- A configuration that is listed once is the only one with its identifier. -/
theorem filter_planId_eq {new : List SpendingPlanConfig} (distinct : (new.map SpendingPlanConfig.planId).Nodup)
    {spc : SpendingPlanConfig} (listed : spc ∈ new) : (new.filter fun other => other.planId = spc.planId) = [spc] := by
  have alone := List.inj_on_of_nodup_map distinct
  have same : (new.filter fun other => other.planId = spc.planId) = new.filter (· = spc) := by
    apply List.filter_congr
    intro other member
    exact decide_eq_decide.mpr ⟨fun equal => alone member listed equal, fun equal => congrArg _ equal⟩
  rw [same, List.filter_eq, List.count_eq_one_of_mem distinct.of_map listed]
  rfl

section Reconciled
variable (written : PlansWritten state)
include written

/-- A configured plan is the one that was found, or a new one. -/
theorem get_reconciled_configured {planConfig : SpendingPlanConfig} (config : planConfig ∈ configs)
    (distinct : (configs.map SpendingPlanConfig.planId).Nodup) :
    (∀ plan, state.plans.get state.now planConfig.planId = some plan → Found plan →
        (reconciled evmAddressKey configs state).plans.get state.now planConfig.planId = some plan) ∧
      ((¬ ∃ plan, state.plans.get state.now planConfig.planId = some plan ∧ Found plan) →
        (reconciled evmAddressKey configs state).plans.get state.now planConfig.planId =
          some (configuredPlan state.now planConfig)) := by
  have value := get_createPlans (plansToAdd configs (existingPlans state))
    (deletePlans evmAddressKey (obsoleteIds configs state) state) planConfig.planId
  constructor
  · intro plan present found
    have none : ((plansToAdd configs (existingPlans state)).filter fun spc => spc.planId = planConfig.planId) = [] := by
      apply List.filter_eq_nil_iff.mpr
      intro spc new same
      refine ((mem_plansToAdd_iff written).mp new).2 ⟨plan, ?_, found⟩
      rwa [of_decide_eq_true same]
    have kept : planConfig.planId ∉ obsoleteIds configs state := fun obsolete =>
      ((mem_obsoleteIds_iff written).mp obsolete).2 (List.mem_map.mpr ⟨planConfig, config, rfl⟩)
    rw [none] at value
    refine value.trans ?_
    exact (TtlStore.get_foldl_delete state.now _ state.plans _).trans ((if_neg kept).trans present)
  · intro missing
    have new := (mem_plansToAdd_iff written).mpr ⟨config, missing⟩
    have sublist : ((plansToAdd configs (existingPlans state)).map SpendingPlanConfig.planId).Nodup :=
      distinct.sublist (List.filter_sublist.map _)
    rw [filter_planId_eq sublist new] at value
    exact value

/-- Of the other plans those that were found are gone. -/
theorem get_reconciled_unlisted {id : PlanId} (unlisted : id ∉ configs.map SpendingPlanConfig.planId) :
    (reconciled evmAddressKey configs state).plans.get state.now id =
      if id ∈ obsoleteIds configs state then none else state.plans.get state.now id := by
  have value := get_createPlans (plansToAdd configs (existingPlans state))
    (deletePlans evmAddressKey (obsoleteIds configs state) state) id
  have none : ((plansToAdd configs (existingPlans state)).filter fun spc => spc.planId = id) = [] := by
    apply List.filter_eq_nil_iff.mpr
    intro spc new same
    exact unlisted (List.mem_map.mpr ⟨spc, ((mem_plansToAdd_iff written).mp new).1, of_decide_eq_true same⟩)
  rw [none] at value
  exact value.trans (TtlStore.get_foldl_delete state.now _ state.plans _)

end Reconciled

end Plans

section Reconciliation

/-- The configured plans are there, active and in their tiers, and no other plan of a
configuration is. -/
structure PlansMatch (configs : List SpendingPlanConfig) (state : LimiterState) : Prop where
  configured : ∀ planConfig ∈ configs, ∃ plan, state.plans.get state.now planConfig.planId = some plan ∧
    plan.active = true ∧ plan.subscriptionTier = planConfig.subscriptionTier
  obsolete : ∀ id, .configured id ∉ configs.map SpendingPlanConfig.planId →
    state.plans.get state.now (.configured id) = none

/-- The same values under the same keys. -/
structure SameContent (first second : LimiterState) : Prop where
  plans : ∀ id, second.plans.get second.now id = first.plans.get first.now id
  amountSpent : ∀ id, second.amountSpent.get second.now id = first.amountSpent.get first.now id
  evmAddresses : ∀ key, second.evmAddresses.get second.now key = first.evmAddresses.get first.now key
  ipAddresses : ∀ key, second.ipAddresses.get second.now key = first.ipAddresses.get first.now key

/-- Populating matches the plans to the configuration, and doing it again changes nothing. -/
def Reconciles (evmAddressKey : String → String) (configs : List SpendingPlanConfig) (state : LimiterState) : Prop :=
  ∃ changed after, populatePreconfiguredSpendingPlans evmAddressKey configs state = (.ok changed, after) ∧
    PlansMatch configs after ∧
    ∃ again, populatePreconfiguredSpendingPlans evmAddressKey configs after = (.ok 0, again) ∧ SameContent after again

/-- What the configuration and the plans before must be like. -/
structure Reconcilable (evmAddressKey : String → String) (configs : List SpendingPlanConfig)
    (state : LimiterState) : Prop where
  tiers : ∀ planConfig ∈ configs, planConfig.subscriptionTier ∈ [SubscriptionTier.EXTENDED, SubscriptionTier.PRIVILEGED]
  retained : ∀ planConfig ∈ configs, ∀ plan, state.plans.get state.now planConfig.planId = some plan → Found plan →
    plan.subscriptionTier = planConfig.subscriptionTier
  obsolete : ∀ id, .configured id ∉ configs.map SpendingPlanConfig.planId →
    ∀ plan, state.plans.get state.now (.configured id) = some plan → Found plan
  spelled : (evmAddressRepository evmAddressKey).Spelled SpendingPlanConfig.evmAddresses configs

/-- The cache after populating. -/
def populated (evmAddressKey : String → String) (configs : List SpendingPlanConfig)
    (state : LimiterState) : LimiterState :=
  updatePlanAssociations evmAddressKey configs (reconciled evmAddressKey configs state)

theorem populated_eq (evmAddressKey : String → String) (configs : List SpendingPlanConfig) (state : LimiterState) :
    populated evmAddressKey configs state = { reconciled evmAddressKey configs state with
      evmAddresses := (evmAddressRepository evmAddressKey).associateAll state.now SpendingPlanConfig.evmAddresses configs
        (reconciled evmAddressKey configs state).evmAddresses
      ipAddresses := ipAddressRepository.associateAll state.now SpendingPlanConfig.ipAddresses configs
        (reconciled evmAddressKey configs state).ipAddresses } :=
  updatePlanAssociations_eq evmAddressKey configs (reconciled evmAddressKey configs state)

theorem populated_now : (populated evmAddressKey configs state).now = state.now := by
  rw [populated_eq]
  rfl

theorem populated_plans : (populated evmAddressKey configs state).plans =
    (reconciled evmAddressKey configs state).plans := by
  rw [populated_eq]

theorem plansWritten_populated (written : PlansWritten state) :
    PlansWritten (populated evmAddressKey configs state) := by
  intro id plan present
  rw [populated_now, populated_plans] at present
  have value := get_createPlans (plansToAdd configs (existingPlans state))
    (deletePlans evmAddressKey (obsoleteIds configs state) state) id
  rcases Option.or_eq_some_iff.mp (value.symm.trans present) with new | ⟨_, old⟩
  · obtain ⟨spc, last, rfl⟩ := Option.map_eq_some_iff.mp new
    exact of_decide_eq_true (List.mem_filter.mp (List.mem_of_getLast? last)).2
  · have kept := (TtlStore.get_foldl_delete state.now _ state.plans id).symm.trans old
    split at kept
    · cases kept
    · exact written id plan kept

private theorem linksWritten_populated (written : LinksWritten evmAddressKey state) :
    LinksWritten evmAddressKey (populated evmAddressKey configs state) := by
  rw [populated_eq]
  exact {
    evmAddresses := (written.evmAddresses.deleteAllByPlanIds _).associateAll _ configs
    ipAddresses := (written.ipAddresses.deleteAllByPlanIds _).associateAll _ configs }

/-- Where nothing is obsolete or new the cache stays as it is before the links. -/
theorem reconciled_eq_self (deleted : plansToDelete (existingPlans state) configs = [])
    (added : plansToAdd configs (existingPlans state) = []) : reconciled evmAddressKey configs state = state := by
  rw [reconciled, obsoleteIds, deleted, added]
  rfl

/-- IP addresses are their own keys. -/
theorem spelled_ipAddresses (configs : List SpendingPlanConfig) :
    ipAddressRepository.Spelled SpendingPlanConfig.ipAddresses configs :=
  fun _ _ _ _ _ _ same => .inl same

section Both
variable (plansWritten : PlansWritten state)
include plansWritten

/-- The plans match exactly if those that are kept have the configured tier, and no other
plan of a configuration is overlooked. -/
theorem plansMatch_populated_iff (distinct : (configs.map SpendingPlanConfig.planId).Nodup) :
    PlansMatch configs (populated evmAddressKey configs state) ↔
      (∀ planConfig ∈ configs, ∀ plan, state.plans.get state.now planConfig.planId = some plan → Found plan →
        plan.subscriptionTier = planConfig.subscriptionTier) ∧
      ∀ id, .configured id ∉ configs.map SpendingPlanConfig.planId →
        ∀ plan, state.plans.get state.now (.configured id) = some plan → Found plan := by
  constructor
  · intro matched
    constructor
    · intro planConfig config plan present found
      obtain ⟨stored, after, _, tier⟩ := matched.configured planConfig config
      rw [populated_now, populated_plans, (get_reconciled_configured plansWritten config distinct).1 plan present
        found] at after
      cases after
      exact tier
    · intro id unlisted plan present
      have gone := matched.obsolete id unlisted
      rw [populated_now, populated_plans, get_reconciled_unlisted plansWritten unlisted] at gone
      by_cases obsolete : .configured id ∈ obsoleteIds configs state
      · obtain ⟨stored, same, found⟩ := ((mem_obsoleteIds_iff plansWritten).mp obsolete).1
        rw [present] at same
        cases same
        exact found
      · rw [if_neg obsolete, present] at gone
        cases gone
  · rintro ⟨retained, overlooked⟩
    constructor
    · intro planConfig config
      rw [populated_now, populated_plans]
      by_cases existing : ∃ plan, state.plans.get state.now planConfig.planId = some plan ∧ Found plan
      · obtain ⟨plan, present, found⟩ := existing
        exact ⟨plan, (get_reconciled_configured plansWritten config distinct).1 plan present found, found.2,
          retained planConfig config plan present found⟩
      · exact ⟨_, (get_reconciled_configured plansWritten config distinct).2 existing, rfl, rfl⟩
    · intro id unlisted
      rw [populated_now, populated_plans, get_reconciled_unlisted plansWritten unlisted]
      split
      · rfl
      · next kept =>
          cases present : state.plans.get state.now (.configured id) with
          | none => rfl
          | some plan =>
              exact absurd ((mem_obsoleteIds_iff plansWritten).mpr
                ⟨⟨plan, present, overlooked id unlisted plan present⟩, unlisted⟩) kept

/-- After populating nothing is obsolete. -/
theorem plansToDelete_populated : plansToDelete (existingPlans (populated evmAddressKey configs state)) configs = [] := by
  have none : obsoleteIds configs (populated evmAddressKey configs state) = [] := by
    apply List.eq_nil_iff_forall_not_mem.mpr
    intro id obsolete
    obtain ⟨⟨plan, present, found⟩, unlisted⟩ := (mem_obsoleteIds_iff (plansWritten_populated plansWritten)).mp obsolete
    rw [populated_now, populated_plans, get_reconciled_unlisted plansWritten unlisted] at present
    split at present
    · cases present
    · next kept => exact kept ((mem_obsoleteIds_iff plansWritten).mpr ⟨⟨plan, present, found⟩, unlisted⟩)
  exact List.map_eq_nil_iff.mp none

/-- With matching plans nothing is new exactly if the configured tiers are those that the
service finds. -/
theorem plansToAdd_populated_iff (matched : PlansMatch configs (populated evmAddressKey configs state)) :
    plansToAdd configs (existingPlans (populated evmAddressKey configs state)) = [] ↔
      ∀ planConfig ∈ configs, planConfig.subscriptionTier ∈ [SubscriptionTier.EXTENDED, SubscriptionTier.PRIVILEGED] := by
  have written : PlansWritten (populated evmAddressKey configs state) := plansWritten_populated plansWritten
  rw [List.eq_nil_iff_forall_not_mem]
  simp only [mem_plansToAdd_iff written, not_and, not_not]
  constructor
  · intro all planConfig config
    obtain ⟨plan, present, found⟩ := all planConfig config
    obtain ⟨stored, same, _, tier⟩ := matched.configured planConfig config
    rw [present] at same
    cases same
    exact tier ▸ found.1
  · intro tiers planConfig config
    obtain ⟨plan, present, active, tier⟩ := matched.configured planConfig config
    exact ⟨plan, present, tier ▸ tiers planConfig config, active⟩

end Both

/-- Where nothing is new, populating again changes no value exactly if the keys are spelled
in one way. -/
theorem sameContent_populated_iff (plansWritten : PlansWritten state) (linksWritten : LinksWritten evmAddressKey state)
    (distinct : (configs.map SpendingPlanConfig.planId).Nodup)
    (added : plansToAdd configs (existingPlans (populated evmAddressKey configs state)) = []) :
    SameContent (populated evmAddressKey configs state) (populated evmAddressKey configs
      (populated evmAddressKey configs state)) ↔
      (evmAddressRepository evmAddressKey).Spelled SpendingPlanConfig.evmAddresses configs := by
  have evm := (linksWritten.evmAddresses.deleteAllByPlanIds (obsoleteIds configs state)).associateAll_again_iff
    SpendingPlanConfig.evmAddresses distinct
  have ip := (linksWritten.ipAddresses.deleteAllByPlanIds (obsoleteIds configs state)).associateAll_again_iff
    SpendingPlanConfig.ipAddresses distinct
  have self : reconciled evmAddressKey configs (populated evmAddressKey configs state) =
    populated evmAddressKey configs state :=
    reconciled_eq_self (plansToDelete_populated plansWritten) added
  have again := populated_eq evmAddressKey configs (populated evmAddressKey configs state)
  rw [self] at again
  rw [again]
  constructor
  · intro same
    refine evm.mp fun key => ?_
    have equal := same.evmAddresses key
    rw [populated_now, populated_eq] at equal
    exact equal
  · intro spelled
    refine ⟨fun _ => rfl, fun _ => rfl, fun key => ?_, fun key => ?_⟩
    · have equal := evm.mpr spelled key
      rw [populated_now, populated_eq]
      exact equal
    · have equal := ip.mpr (spelled_ipAddresses configs) key
      rw [populated_now, populated_eq]
      exact equal

/-- Populating reconciles the plans with the configuration, and again changes nothing,
exactly if the configuration and the plans before are like this. -/
theorem populatePreconfiguredSpendingPlans_reconciles_iff (evmAddressKey : String → String)
    (configs : List SpendingPlanConfig) (state : LimiterState) (nonempty : configs ≠ [])
    (valid : ∀ planConfig ∈ configs, isValidSpendingPlanConfig planConfig = true)
    (distinct : (configs.map fun planConfig => planConfig.id).Nodup) (plansWritten : PlansWritten state)
    (linksWritten : LinksWritten evmAddressKey state) :
    Reconciles evmAddressKey configs state ↔ Reconcilable evmAddressKey configs state := by
  have distinctIds := nodup_planIds distinct
  have first := populatePreconfiguredSpendingPlans_eq evmAddressKey state nonempty valid
  have second := populatePreconfiguredSpendingPlans_eq evmAddressKey (populated evmAddressKey configs state) nonempty valid
  rw [plansToDelete_populated plansWritten, List.length_nil, Nat.zero_add] at second
  constructor
  · rintro ⟨changed, after, ran, matched, again, ranAgain, same⟩
    rw [first] at ran
    cases ran
    obtain ⟨retained, overlooked⟩ := (plansMatch_populated_iff plansWritten distinctIds).mp matched
    obtain ⟨count, rfl⟩ := Prod.mk.inj (second.symm.trans ranAgain)
    have added := List.length_eq_zero_iff.mp (Except.ok.inj count)
    exact {
      tiers := (plansToAdd_populated_iff plansWritten matched).mp added
      retained
      obsolete := overlooked
      spelled := (sameContent_populated_iff plansWritten linksWritten distinctIds added).mp same }
  · intro holds
    have matched : PlansMatch configs (populated evmAddressKey configs state) :=
      (plansMatch_populated_iff plansWritten distinctIds).mpr ⟨holds.retained, holds.obsolete⟩
    have added := (plansToAdd_populated_iff plansWritten matched).mpr holds.tiers
    rw [added] at second
    exact ⟨_, _, first, matched, _, second,
      (sameContent_populated_iff plansWritten linksWritten distinctIds added).mpr holds.spelled⟩

/-- A list without plans or with one that is not valid leaves the cache as it is. -/
theorem populatePreconfiguredSpendingPlans_state (evmAddressKey : String → String) (configs : List SpendingPlanConfig)
    (state : LimiterState) :
    (populatePreconfiguredSpendingPlans evmAddressKey configs state).2 = state ∨
      (populatePreconfiguredSpendingPlans evmAddressKey configs state).2 = populated evmAddressKey configs state := by
  by_cases empty : configs.length = 0
  · rw [populatePreconfiguredSpendingPlans, if_pos empty]
    exact .inl rfl
  · by_cases valid : ∀ planConfig ∈ configs, isValidSpendingPlanConfig planConfig = true
    · have nonempty : configs ≠ [] := fun none => empty (by rw [none]; rfl)
      rw [populatePreconfiguredSpendingPlans_eq evmAddressKey state nonempty valid]
      exact .inr rfl
    · left
      rw [populatePreconfiguredSpendingPlans, if_neg empty, validateSpendingPlanConfig]
      cases invalid : configs.find? fun plan => !isValidSpendingPlanConfig plan with
      | some plan => rfl
      | none =>
          rw [List.find?_eq_none] at invalid
          refine absurd (fun planConfig listed => ?_) valid
          simpa using invalid planConfig listed

/-- What earlier runs left, with any configurations. -/
theorem written_after_runs (evmAddressKey : String → String) (earlier : List (List SpendingPlanConfig))
    (plansWritten : PlansWritten state) (linksWritten : LinksWritten evmAddressKey state) :
    PlansWritten (earlier.foldl (fun state configs =>
        (populatePreconfiguredSpendingPlans evmAddressKey configs state).2) state) ∧
      LinksWritten evmAddressKey (earlier.foldl (fun state configs =>
        (populatePreconfiguredSpendingPlans evmAddressKey configs state).2) state) := by
  induction earlier generalizing state with
  | nil => exact ⟨plansWritten, linksWritten⟩
  | cons configs rest ih =>
      have step : PlansWritten (populatePreconfiguredSpendingPlans evmAddressKey configs state).2 ∧
          LinksWritten evmAddressKey (populatePreconfiguredSpendingPlans evmAddressKey configs state).2 := by
        rcases populatePreconfiguredSpendingPlans_state evmAddressKey configs state with same | same
        · rw [same]
          exact ⟨plansWritten, linksWritten⟩
        · rw [same]
          exact ⟨plansWritten_populated plansWritten, linksWritten_populated linksWritten⟩
      exact ih step.1 step.2

def earlierConfigs : List SpendingPlanConfig :=
  [exampleConfig "p1" .EXTENDED ["0xA1"], exampleConfig "p2" .PRIVILEGED ["0xB2"]]

/-- The first plan stays, the second one is replaced. -/
def laterConfigs : List SpendingPlanConfig :=
  [exampleConfig "p1" .EXTENDED ["0xA1"], exampleConfig "p3" .PRIVILEGED ["0xC3", "0xB2"]]

/-- What the service leaves of the earlier configuration. -/
def earlierState : LimiterState := (populatePreconfiguredSpendingPlans lowerCase earlierConfigs (.initial 0 0)).2

theorem plansMatch_earlier : PlansMatch earlierConfigs earlierState := by
  have populates : earlierState = populated lowerCase earlierConfigs (.initial 0 0) :=
    congrArg Prod.snd (populatePreconfiguredSpendingPlans_eq lowerCase (.initial 0 0) (List.cons_ne_nil _ _) (by decide))
  have plansWritten : PlansWritten (.initial 0 0) := by
    intro id plan present
    cases present
  rw [populates, plansMatch_populated_iff plansWritten (by decide)]
  constructor
  · intro planConfig config plan present
    cases present
  · intro id unlisted plan present
    cases present

theorem populatePreconfiguredSpendingPlans_reconciles_later :
    (populatePreconfiguredSpendingPlans lowerCase laterConfigs earlierState).1 = .ok 2 ∧
      Reconciles lowerCase laterConfigs earlierState := by
  have plansWritten : PlansWritten (.initial 0 0) := by
    intro id plan present
    cases present
  obtain ⟨plansLeft, linksLeft⟩ :=
    written_after_runs lowerCase [earlierConfigs] plansWritten (linksWritten_initial lowerCase 0 0)
  refine ⟨rfl, (populatePreconfiguredSpendingPlans_reconciles_iff lowerCase laterConfigs earlierState
    (List.cons_ne_nil _ _) (by decide) (by decide) plansLeft linksLeft).mpr ⟨by decide, ?_, ?_, ?_⟩⟩
  · intro planConfig config plan present found
    simp only [laterConfigs, List.mem_cons, List.not_mem_nil, or_false] at config
    rcases config with rfl | rfl
    · cases present
      rfl
    · cases present
  · intro id unlisted plan present
    by_cases listed : PlanId.configured id ∈ earlierConfigs.map SpendingPlanConfig.planId
    · obtain ⟨planConfig, config, same⟩ := List.mem_map.mp listed
      obtain ⟨stored, held, active, tier⟩ := plansMatch_earlier.configured planConfig config
      rw [same, present] at held
      obtain rfl := Option.some.inj held
      have tiers : ∀ planConfig ∈ earlierConfigs,
          planConfig.subscriptionTier ∈ [SubscriptionTier.EXTENDED, SubscriptionTier.PRIVILEGED] := by decide
      exact ⟨tier ▸ tiers planConfig config, active⟩
    · rw [plansMatch_earlier.obsolete id listed] at present
      cases present
  · intro planConfig config first inFirst second inSecond same
    have spelled : ∀ planConfig ∈ laterConfigs, ∀ first ∈ planConfig.evmAddresses.getD [],
        ∀ second ∈ planConfig.evmAddresses.getD [],
        (evmAddressRepository lowerCase).getKey first = (evmAddressRepository lowerCase).getKey second →
          first = second := by decide
    exact .inl (spelled planConfig config first inFirst second inSecond same)

/-- A plan whose tier is configured anew keeps the old one. -/
theorem populatePreconfiguredSpendingPlans_reconciles_newTier_fails :
    ¬ Reconciles lowerCase [exampleConfig "p1" .PRIVILEGED ["0xa1"]]
      (populatePreconfiguredSpendingPlans lowerCase [exampleConfig "p1" .EXTENDED ["0xa1"]] (.initial 0 0)).2 := by
  rintro ⟨changed, after, ran, matched, _⟩
  cases ran
  obtain ⟨plan, present, _, tier⟩ := matched.configured _ List.mem_cons_self
  cases present
  cases tier

end Reconciliation

end HieroRelay.Hbar
