import HieroRelay.Hbar.LimiterCache

/-! The spending plans that are configured: the links between addresses and plans, and the
service that brings the cache in line with a list of configurations. The clock does not
move in between. -/

namespace HieroRelay.Hbar

open HieroRelay.Lib

structure SpendingPlanConfig where
  id : String
  name : String
  evmAddresses : Option (List String)
  ipAddresses : Option (List String)
  subscriptionTier : SubscriptionTier
  deriving Repr, DecidableEq

def SpendingPlanConfig.planId (planConfig : SpendingPlanConfig) : PlanId := .configured planConfig.id

/-- The types of the fields are checked as well. -/
def isValidSpendingPlanConfig (plan : SpendingPlanConfig) : Bool :=
  plan.evmAddresses.any (fun addresses => addresses.length > 0) || plan.ipAddresses.any fun addresses => addresses.length > 0

/-- A repository of links, of EVM addresses or of IP addresses: a link keeps the address as
it was written, under its key. -/
structure LinkRepository (Link : Type) where
  address : Link → String
  planId : Link → PlanId
  link : String → PlanId → Link
  getKey : String → String
  address_link : ∀ text id, address (link text id) = text
  planId_link : ∀ text id, planId (link text id) = id
  link_eta : ∀ stored, link (address stored) (planId stored) = stored

abbrev Links (Link : Type) := TtlStore String Link

/-- `this.TTL` is unlimited. -/
def unlimitedTtl : Nat := 0

namespace LinkRepository

variable {Link : Type} (repository : LinkRepository Link) (now : Nat)

def existsByAddress (address : String) (links : Links Link) : Bool := (links.get now (repository.getKey address)).isSome

def findAllByPlanId (planId : PlanId) (links : Links Link) : List Link :=
  (links.keys.filterMap (links.get now)).filter fun addressPlan => repository.planId addressPlan = planId

def save (address : String) (planId : PlanId) (links : Links Link) : Links Link :=
  links.set now (repository.getKey address) (repository.link address planId) unlimitedTtl

def delete (address : String) (links : Links Link) : Links Link := links.delete (repository.getKey address)

def deleteAllByPlanId (planId : PlanId) (links : Links Link) : Links Link :=
  links.keys.foldl (fun remaining key =>
    if (remaining.get now key).any fun addressPlan => repository.planId addressPlan = planId then remaining.delete key
    else remaining) links

/-- An address that is linked to another plan loses its link. -/
def deleteObsoleteAssociations (planId : PlanId) (addresses : Option (List String)) (links : Links Link) : Links Link :=
  (addresses.getD []).foldl (fun remaining address =>
    if (remaining.get now (repository.getKey address)).any fun addressPlan => repository.planId addressPlan ≠ planId then
      repository.delete address remaining
    else remaining) links

/-- Addresses are compared as they are written. -/
def updateAssociations (planId : PlanId) (addresses : Option (List String)) (links : Links Link) : Links Link :=
  let currentAddresses := (repository.findAllByPlanId now planId links).map repository.address
  let addressesToDelete := currentAddresses.filter fun address => !addresses.any fun listed => listed.contains address
  let remaining := addressesToDelete.foldl (fun remaining address => repository.delete address remaining) links
  let addressesToAdd := (addresses.map fun listed => listed.filter fun address => !currentAddresses.contains address).getD []
  addressesToAdd.foldl (fun extended address => repository.save now address planId extended) remaining

end LinkRepository

/-- `evmAddress.trim().toLowerCase()` is the key of an EVM address. -/
def evmAddressRepository (evmAddressKey : String → String) : LinkRepository IEvmAddressHbarSpendingPlan where
  address := IEvmAddressHbarSpendingPlan.evmAddress
  planId := IEvmAddressHbarSpendingPlan.planId
  link evmAddress planId := { evmAddress, planId }
  getKey := evmAddressKey
  address_link _ _ := rfl
  planId_link _ _ := rfl
  link_eta _ := rfl

def ipAddressRepository : LinkRepository IIPAddressHbarSpendingPlan where
  address := IIPAddressHbarSpendingPlan.ipAddress
  planId := IIPAddressHbarSpendingPlan.planId
  link ipAddress planId := { ipAddress, planId }
  getKey := id
  address_link _ _ := rfl
  planId_link _ _ := rfl
  link_eta _ := rfl

namespace HbarSpendingPlanRepository

def findAllActiveBySubscriptionTier (tiers : List SubscriptionTier)
    (state : LimiterState) : List IDetailedHbarSpendingPlan :=
  ((state.plans.keys.filterMap (state.plans.get state.now)).filter fun plan =>
    tiers.contains plan.subscriptionTier && plan.active).map fun plan =>
      { plan with amountSpent := (state.amountSpent.get state.now plan.id).getD 0 }

/-- `create` under an identifier that is given. -/
def createWithId (subscriptionTier : SubscriptionTier) (id : PlanId) (state : LimiterState) : LimiterState :=
  let plan : IHbarSpendingPlan := { id, subscriptionTier, createdAt := state.now, active := true }
  { state with plans := state.plans.set state.now id plan unlimitedTtl }

def delete (id : PlanId) (state : LimiterState) : LimiterState := { state with plans := state.plans.delete id }

end HbarSpendingPlanRepository

namespace HbarSpendingPlanConfigService

inductive ConfigError where
  | invalidSpendingPlanConfig (plan : SpendingPlanConfig)
  deriving Repr, DecidableEq

variable (evmAddressKey : String → String)

def plansToDelete (existingPlans : List IDetailedHbarSpendingPlan) (spendingPlanConfigs : List SpendingPlanConfig) :
    List IDetailedHbarSpendingPlan :=
  existingPlans.filter fun plan => !spendingPlanConfigs.any fun spc => spc.planId = plan.id

def deleteObsoletePlan (id : PlanId) (state : LimiterState) : LimiterState :=
  let deleted := HbarSpendingPlanRepository.delete id state
  { deleted with
    evmAddresses := (evmAddressRepository evmAddressKey).deleteAllByPlanId state.now id deleted.evmAddresses
    ipAddresses := ipAddressRepository.deleteAllByPlanId state.now id deleted.ipAddresses }

def deleteObsoletePlans (existingPlans : List IDetailedHbarSpendingPlan) (spendingPlanConfigs : List SpendingPlanConfig)
    (state : LimiterState) : Nat × LimiterState :=
  let obsolete := plansToDelete existingPlans spendingPlanConfigs
  (obsolete.length, obsolete.foldl (fun remaining plan => deleteObsoletePlan evmAddressKey plan.id remaining) state)

def plansToAdd (spendingPlanConfigs : List SpendingPlanConfig) (existingPlans : List IDetailedHbarSpendingPlan) :
    List SpendingPlanConfig :=
  spendingPlanConfigs.filter fun spc => !existingPlans.any fun plan => plan.id = spc.planId

def addNewPlans (spendingPlanConfigs : List SpendingPlanConfig) (existingPlans : List IDetailedHbarSpendingPlan)
    (state : LimiterState) : Nat × LimiterState :=
  let new := plansToAdd spendingPlanConfigs existingPlans
  (new.length, new.foldl (fun extended spc =>
    HbarSpendingPlanRepository.createWithId spc.subscriptionTier spc.planId extended) state)

def deleteObsoleteEvmAddressAssociations (planConfig : SpendingPlanConfig) (state : LimiterState) : LimiterState :=
  { state with
    evmAddresses := (evmAddressRepository evmAddressKey).deleteObsoleteAssociations state.now planConfig.planId
      planConfig.evmAddresses state.evmAddresses }

def deleteObsoleteIpAddressAssociations (planConfig : SpendingPlanConfig) (state : LimiterState) : LimiterState :=
  { state with
    ipAddresses := ipAddressRepository.deleteObsoleteAssociations state.now planConfig.planId
      planConfig.ipAddresses state.ipAddresses }

def updateEvmAddressAssociations (planConfig : SpendingPlanConfig) (state : LimiterState) : LimiterState :=
  { state with
    evmAddresses := (evmAddressRepository evmAddressKey).updateAssociations state.now planConfig.planId
      planConfig.evmAddresses state.evmAddresses }

def updateIpAddressAssociations (planConfig : SpendingPlanConfig) (state : LimiterState) : LimiterState :=
  { state with
    ipAddresses := ipAddressRepository.updateAssociations state.now planConfig.planId
      planConfig.ipAddresses state.ipAddresses }

def updatePlanAssociation (planConfig : SpendingPlanConfig) (state : LimiterState) : LimiterState :=
  updateIpAddressAssociations planConfig (updateEvmAddressAssociations evmAddressKey planConfig
    (deleteObsoleteIpAddressAssociations planConfig (deleteObsoleteEvmAddressAssociations evmAddressKey planConfig state)))

def updatePlanAssociations (spendingPlanConfigs : List SpendingPlanConfig) (state : LimiterState) : LimiterState :=
  spendingPlanConfigs.foldl (fun updated planConfig => updatePlanAssociation evmAddressKey planConfig updated) state

def validateSpendingPlanConfig (spendingPlans : List SpendingPlanConfig) : Except ConfigError Unit :=
  match spendingPlans.find? fun plan => !isValidSpendingPlanConfig plan with
  | some plan => .error (.invalidSpendingPlanConfig plan)
  | none => .ok ()

/-- The number of plans that were added or deleted, with the cache after it. -/
def populatePreconfiguredSpendingPlans (spendingPlanConfigs : List SpendingPlanConfig) (state : LimiterState) :
    Except ConfigError Nat × LimiterState :=
  if spendingPlanConfigs.length = 0 then (.ok 0, state)
  else
    match validateSpendingPlanConfig spendingPlanConfigs with
    | .error error => (.error error, state)
    | .ok () =>
        let existingPlans := HbarSpendingPlanRepository.findAllActiveBySubscriptionTier [.EXTENDED, .PRIVILEGED] state
        let (plansDeleted, remaining) := deleteObsoletePlans evmAddressKey existingPlans spendingPlanConfigs state
        let (plansAdded, extended) := addNewPlans spendingPlanConfigs existingPlans remaining
        (.ok (plansDeleted + plansAdded), updatePlanAssociations evmAddressKey spendingPlanConfigs extended)

end HbarSpendingPlanConfigService

end HieroRelay.Hbar
