import HieroRelay.Hbar.SpendingPlanConfig

/-! The links after the configured plans were populated: key by key, for EVM addresses and
for IP addresses alike. -/

namespace HieroRelay.Hbar

open HieroRelay.Lib

namespace LinkRepository

variable {Link : Type} (repository : LinkRepository Link) (now : Nat)

/-- Every link is under the key of its address, as `save` writes it. -/
def Written (links : Links Link) : Prop :=
  ∀ key stored, links.get now key = some stored → repository.getKey (repository.address stored) = key

variable {repository now} {links : Links Link} {planId : PlanId} {key : String}

theorem Written.save (written : repository.Written now links) (address : String) (planId : PlanId) :
    repository.Written now (repository.save now address planId links) := by
  intro key stored found
  rw [LinkRepository.save, TtlStore.get_set] at found
  split at found
  · next same =>
      cases found
      rw [repository.address_link, same]
  · exact written key stored found

theorem Written.deleteKey (written : repository.Written now links) (removed : String) :
    repository.Written now (TtlStore.delete links removed) := by
  intro key stored found
  rw [TtlStore.get_delete] at found
  split at found
  · cases found
  · exact written key stored found

/-- The addresses whose links were deleted, by their keys. -/
theorem get_foldl_delete (addresses : List String) :
    (addresses.foldl (fun remaining address => repository.delete address remaining) links).get now key =
      if key ∈ addresses.map repository.getKey then none else links.get now key := by
  have folded := TtlStore.get_foldl_delete now (addresses.map repository.getKey) links key
  rwa [List.foldl_map] at folded

/-- The last address with a key is the one that is kept under it. -/
theorem get_foldl_save (addresses : List String) :
    (addresses.foldl (fun extended address => repository.save now address planId extended) links).get now key =
      ((addresses.filter fun address => repository.getKey address = key).getLast?.map fun address =>
        repository.link address planId).or (links.get now key) :=
  TtlStore.get_foldl_set now unlimitedTtl repository.getKey (fun address => repository.link address planId)
    addresses links key

theorem Written.foldl_delete (written : repository.Written now links) (addresses : List String) :
    repository.Written now (addresses.foldl (fun remaining address => repository.delete address remaining) links) := by
  induction addresses generalizing links with
  | nil => exact written
  | cons address rest ih => exact ih (written.deleteKey (repository.getKey address))

theorem Written.foldl_save (written : repository.Written now links) (planId : PlanId) (addresses : List String) :
    repository.Written now (addresses.foldl (fun extended address => repository.save now address planId extended)
      links) := by
  induction addresses generalizing links with
  | nil => exact written
  | cons address rest ih => exact ih (written.save address planId)

theorem mem_findAllByPlanId {stored : Link} :
    stored ∈ repository.findAllByPlanId now planId links ↔
      ∃ key, links.get now key = some stored ∧ repository.planId stored = planId := by
  rw [findAllByPlanId, List.mem_filter, List.mem_filterMap]
  constructor
  · rintro ⟨⟨key, _, found⟩, own⟩
    exact ⟨key, found, by simpa using own⟩
  · rintro ⟨key, found, own⟩
    exact ⟨⟨key, TtlStore.mem_keys_of_get found, found⟩, by simpa using own⟩

/-- An address is current exactly if the link under its key has it, for the plan. -/
theorem Written.mem_current_iff (written : repository.Written now links) {address : String} :
    address ∈ (repository.findAllByPlanId now planId links).map repository.address ↔
      links.get now (repository.getKey address) = some (repository.link address planId) := by
  rw [List.mem_map]
  constructor
  · rintro ⟨stored, found, rfl⟩
    obtain ⟨key, present, rfl⟩ := mem_findAllByPlanId.mp found
    rw [written key stored present, repository.link_eta]
    exact present
  · intro found
    exact ⟨_, mem_findAllByPlanId.mpr ⟨_, found, repository.planId_link ..⟩, repository.address_link ..⟩

/-- The links of other plans under the keys of the addresses are gone. -/
theorem get_deleteObsoleteAssociations (addresses : Option (List String)) :
    (repository.deleteObsoleteAssociations now planId addresses links).get now key =
      if key ∈ (addresses.getD []).map repository.getKey then
        (links.get now key).filter fun stored => repository.planId stored = planId
      else links.get now key := by
  have folded := TtlStore.get_foldl_deleteIf now (fun stored => decide (repository.planId stored ≠ planId))
    ((addresses.getD []).map repository.getKey) links key
  rw [List.foldl_map] at folded
  exact folded.trans (by simp)

theorem Written.deleteObsoleteAssociations (written : repository.Written now links) (planId : PlanId)
    (addresses : Option (List String)) :
    repository.Written now (repository.deleteObsoleteAssociations now planId addresses links) := by
  intro key stored found
  rw [get_deleteObsoleteAssociations] at found
  split at found
  · exact written key stored (Option.filter_eq_some_iff.mp found).1
  · exact written key stored found

theorem get_deleteAllByPlanId :
    (repository.deleteAllByPlanId now planId links).get now key =
      (links.get now key).filter fun stored => repository.planId stored ≠ planId := by
  have folded := TtlStore.get_foldl_deleteIf now (fun stored => decide (repository.planId stored = planId)) links.keys
    links key
  rw [deleteAllByPlanId, folded]
  split
  · simp
  · next absent =>
      cases found : links.get now key with
      | none => rfl
      | some stored => exact absurd (TtlStore.mem_keys_of_get found) absent

theorem Written.deleteAllByPlanId (written : repository.Written now links) (planId : PlanId) :
    repository.Written now (repository.deleteAllByPlanId now planId links) := by
  intro key stored found
  rw [get_deleteAllByPlanId, Option.filter_eq_some_iff] at found
  exact written key stored found.1

def deleteAllByPlanIds (repository : LinkRepository Link) (now : Nat) (planIds : List PlanId)
    (links : Links Link) : Links Link :=
  planIds.foldl (fun remaining planId => repository.deleteAllByPlanId now planId remaining) links

theorem Written.deleteAllByPlanIds (written : repository.Written now links) (planIds : List PlanId) :
    repository.Written now (repository.deleteAllByPlanIds now planIds links) := by
  induction planIds generalizing links with
  | nil => exact written
  | cons planId rest ih => exact ih (written.deleteAllByPlanId planId)

theorem get_deleteAllByPlanIds (planIds : List PlanId) :
    (repository.deleteAllByPlanIds now planIds links).get now key =
      (links.get now key).filter fun stored => repository.planId stored ∉ planIds := by
  induction planIds generalizing links with
  | nil => cases found : links.get now key <;> simp [LinkRepository.deleteAllByPlanIds, found, Option.filter]
  | cons planId rest ih =>
      refine ih.trans ?_
      rw [get_deleteAllByPlanId, Option.filter_filter]
      refine congrArg (Option.filter · (links.get now key)) (funext fun stored => ?_)
      simp

/-- The spellings of a key in a list of addresses. -/
def spellings (repository : LinkRepository Link) (addresses : Option (List String)) (key : String) : List String :=
  (addresses.getD []).filter fun address => repository.getKey address = key

theorem mem_spellings {addresses : Option (List String)} {address : String} :
    address ∈ repository.spellings addresses key ↔ address ∈ addresses.getD [] ∧ repository.getKey address = key := by
  rw [spellings, List.mem_filter, decide_eq_true_iff]

theorem updateAssociations_eq (addresses : Option (List String)) :
    repository.updateAssociations now planId addresses links =
      ((addresses.getD []).filter fun address =>
        !((repository.findAllByPlanId now planId links).map repository.address).contains address).foldl
          (fun extended address => repository.save now address planId extended)
          ((((repository.findAllByPlanId now planId links).map repository.address).filter fun address =>
            !(addresses.getD []).contains address).foldl (fun remaining address =>
              repository.delete address remaining) links) := by
  cases addresses <;> rfl

theorem Written.updateAssociations (written : repository.Written now links) (planId : PlanId)
    (addresses : Option (List String)) :
    repository.Written now (repository.updateAssociations now planId addresses links) := by
  rw [updateAssociations_eq]
  exact (written.foldl_delete _).foldl_save planId _

/-- The link under a key is deleted if it is of the plan, and its address is not listed. -/
theorem Written.mem_deleted_iff (written : repository.Written now links) (planId : PlanId) (key : String)
    (addresses : Option (List String)) :
    key ∈ (((repository.findAllByPlanId now planId links).map repository.address).filter fun address =>
        !(addresses.getD []).contains address).map repository.getKey ↔
      ∃ address, links.get now key = some (repository.link address planId) ∧ address ∉ addresses.getD [] := by
  rw [List.mem_map]
  constructor
  · rintro ⟨address, deleted, rfl⟩
    obtain ⟨current, unlisted⟩ := List.mem_filter.mp deleted
    exact ⟨address, written.mem_current_iff.mp current, by simpa using unlisted⟩
  · rintro ⟨address, found, unlisted⟩
    have own : repository.getKey address = key := by
      have kept := written key _ found
      rwa [repository.address_link] at kept
    refine ⟨address, List.mem_filter.mpr ⟨written.mem_current_iff.mpr ?_, by simpa using unlisted⟩, own⟩
    rw [own]
    exact found

/-- A key that no listed address holds gets the last spelling, and loses a link to the plan. -/
theorem Written.get_updateAssociations_fresh (written : repository.Written now links) {addresses : Option (List String)}
    (fresh : ∀ address ∈ addresses.getD [], links.get now key ≠ some (repository.link address planId)) :
    (repository.updateAssociations now planId addresses links).get now key =
      ((repository.spellings addresses key).getLast?.map fun address => repository.link address planId).or
        ((links.get now key).filter fun stored => repository.planId stored ≠ planId) := by
  rw [updateAssociations_eq, get_foldl_save, get_foldl_delete, List.filter_filter]
  congr 1
  · have all : ((addresses.getD []).filter fun address => decide (repository.getKey address = key) &&
        !((repository.findAllByPlanId now planId links).map repository.address).contains address) =
        repository.spellings addresses key := by
      apply List.filter_congr
      intro address listed
      by_cases own : repository.getKey address = key
      · have absent : address ∉ (repository.findAllByPlanId now planId links).map repository.address := by
          rw [written.mem_current_iff, own]
          exact fresh address listed
        simp only [own, decide_true, Bool.true_and, Bool.not_eq_true', List.contains_eq_mem, decide_eq_false_iff_not]
        exact absent
      · simp [own]
    rw [all]
  · have deleted := written.mem_deleted_iff planId key addresses
    cases found : links.get now key with
    | none => exact ite_self none
    | some stored =>
        by_cases own : repository.planId stored = planId
        · have same : stored = repository.link (repository.address stored) planId := by rw [← own, repository.link_eta]
          have unlisted : repository.address stored ∉ addresses.getD [] := fun listed =>
            fresh _ listed (found.trans (congrArg some same))
          rw [if_pos (deleted.mpr ⟨_, found.trans (congrArg some same), unlisted⟩)]
          simp [Option.filter, own]
        · rw [if_neg]
          · simp [Option.filter, own]
          · intro listed
            obtain ⟨address, same, _⟩ := deleted.mp listed
            rw [found] at same
            exact own (by rw [Option.some.inj same, repository.planId_link])

/-- A key that a listed address holds gets the last of the other spellings, if there are any. -/
theorem Written.get_updateAssociations_current (written : repository.Written now links)
    {addresses : Option (List String)} {address : String} (listed : address ∈ addresses.getD [])
    (found : links.get now key = some (repository.link address planId)) :
    (repository.updateAssociations now planId addresses links).get now key =
      (((repository.spellings addresses key).filter (· ≠ address)).getLast?.map fun other =>
        repository.link other planId).or (some (repository.link address planId)) := by
  have inj : ∀ other, repository.link other planId = repository.link address planId ↔ other = address := by
    intro other
    constructor
    · intro same
      have texts := congrArg repository.address same
      rwa [repository.address_link, repository.address_link] at texts
    · rintro rfl
      rfl
  rw [updateAssociations_eq, get_foldl_save, get_foldl_delete, spellings, List.filter_filter, List.filter_filter]
  congr 1
  · have others : ((addresses.getD []).filter fun other => decide (repository.getKey other = key) &&
        !((repository.findAllByPlanId now planId links).map repository.address).contains other) =
        (addresses.getD []).filter fun other => decide (other ≠ address) && decide (repository.getKey other = key) := by
      apply List.filter_congr
      intro other _
      by_cases own : repository.getKey other = key
      · have current : other ∈ (repository.findAllByPlanId now planId links).map repository.address ↔ other = address := by
          rw [written.mem_current_iff, own, found, Option.some.injEq, eq_comm, inj]
        simp only [own, decide_true, Bool.true_and, Bool.and_true, List.contains_eq_mem, ← decide_not, ne_eq, current]
      · simp [own]
    rw [others]
  · rw [if_neg, found]
    rw [written.mem_deleted_iff, found]
    rintro ⟨other, same, unlisted⟩
    rw [Option.some.injEq, eq_comm, inj] at same
    exact unlisted (same ▸ listed)

/-- What a configured plan does to the links: links of other plans to its addresses are
deleted, then its own links are brought in line. -/
def associate (repository : LinkRepository Link) (now : Nat) (planId : PlanId) (addresses : Option (List String))
    (links : Links Link) : Links Link :=
  repository.updateAssociations now planId addresses (repository.deleteObsoleteAssociations now planId addresses links)

section Associate
variable {addresses : Option (List String)}

theorem Written.associate (written : repository.Written now links) (planId : PlanId)
    (addresses : Option (List String)) :
    repository.Written now (repository.associate now planId addresses links) :=
  (written.deleteObsoleteAssociations planId addresses).updateAssociations planId addresses

private theorem spellings_eq_nil (unlisted : key ∉ (addresses.getD []).map repository.getKey) :
    repository.spellings addresses key = [] := by
  apply List.filter_eq_nil_iff.mpr
  intro address listed own
  exact unlisted (List.mem_map.mpr ⟨address, listed, of_decide_eq_true own⟩)

/-- A key that is not listed only loses a link to the plan. -/
theorem Written.get_associate_unlisted (written : repository.Written now links)
    (unlisted : key ∉ (addresses.getD []).map repository.getKey) :
    (repository.associate now planId addresses links).get now key =
      (links.get now key).filter fun stored => repository.planId stored ≠ planId := by
  have before := written.deleteObsoleteAssociations planId addresses
  have same : (repository.deleteObsoleteAssociations now planId addresses links).get now key = links.get now key := by
    rw [get_deleteObsoleteAssociations, if_neg unlisted]
  rw [LinkRepository.associate, before.get_updateAssociations_fresh, spellings_eq_nil unlisted, same]
  · rfl
  · intro address listed found
    have own := before key _ found
    rw [repository.address_link] at own
    exact unlisted (List.mem_map.mpr ⟨address, listed, own⟩)

/-- A listed key without a link that the plan lists gets the last spelling. -/
theorem Written.get_associate_fresh (written : repository.Written now links)
    (listed : key ∈ (addresses.getD []).map repository.getKey)
    (fresh : ∀ address ∈ addresses.getD [], links.get now key ≠ some (repository.link address planId)) :
    (repository.associate now planId addresses links).get now key =
      (repository.spellings addresses key).getLast?.map fun address => repository.link address planId := by
  have before := written.deleteObsoleteAssociations planId addresses
  have kept : (repository.deleteObsoleteAssociations now planId addresses links).get now key =
      (links.get now key).filter fun stored => repository.planId stored = planId := by
    rw [get_deleteObsoleteAssociations, if_pos listed]
  have lost : ((links.get now key).filter fun stored => repository.planId stored = planId).filter
      (fun stored => repository.planId stored ≠ planId) = none := by
    rw [Option.filter_filter]
    cases links.get now key with
    | none => rfl
    | some stored => simp [Option.filter]
  rw [LinkRepository.associate, before.get_updateAssociations_fresh, kept, lost, Option.or_none]
  intro address inside found
  rw [kept, Option.filter_eq_some_iff] at found
  exact fresh address inside found.1

/-- A link that the plan lists stays, or gets the last of the other spellings. -/
theorem Written.get_associate_current (written : repository.Written now links) {address : String}
    (inside : address ∈ addresses.getD []) (found : links.get now key = some (repository.link address planId)) :
    (repository.associate now planId addresses links).get now key =
      (((repository.spellings addresses key).filter (· ≠ address)).getLast?.map fun other =>
        repository.link other planId).or (some (repository.link address planId)) := by
  have before := written.deleteObsoleteAssociations planId addresses
  apply before.get_updateAssociations_current inside
  have own := written key _ found
  rw [repository.address_link] at own
  rw [get_deleteObsoleteAssociations, if_pos (List.mem_map.mpr ⟨address, inside, own⟩), found]
  simp [Option.filter, repository.planId_link]

/-- A listed key is linked to the plan, under one of its spellings. -/
theorem Written.get_associate_listed (written : repository.Written now links) (planId : PlanId)
    (listed : key ∈ (addresses.getD []).map repository.getKey) :
    ∃ address ∈ repository.spellings addresses key,
      (repository.associate now planId addresses links).get now key = some (repository.link address planId) := by
  by_cases current : ∃ address ∈ addresses.getD [], links.get now key = some (repository.link address planId)
  · obtain ⟨address, inside, found⟩ := current
    have own := written key _ found
    rw [repository.address_link] at own
    rw [written.get_associate_current inside found]
    cases last : ((repository.spellings addresses key).filter (· ≠ address)).getLast? with
    | none => exact ⟨address, mem_spellings.mpr ⟨inside, own⟩, rfl⟩
    | some other => exact ⟨other, (List.mem_filter.mp (List.mem_of_getLast? last)).1, rfl⟩
  · rw [written.get_associate_fresh listed fun address inside found => current ⟨address, inside, found⟩]
    cases last : (repository.spellings addresses key).getLast? with
    | none =>
        obtain ⟨address, inside, own⟩ := List.mem_map.mp listed
        rw [List.getLast?_eq_none_iff] at last
        have empty := mem_spellings.mpr ⟨inside, own⟩
        rw [last] at empty
        cases empty
    | some address => exact ⟨address, List.mem_of_getLast? last, rfl⟩

end Associate

/-- The plan lists an address with the key. -/
def Lists (repository : LinkRepository Link) (addresses : Option (List String)) (key : String) : Prop :=
  key ∈ (addresses.getD []).map repository.getKey

section Configured
variable (repository now) (addressesOf : SpendingPlanConfig → Option (List String))

def associateAll (configs : List SpendingPlanConfig) (links : Links Link) : Links Link :=
  configs.foldl (fun updated planConfig =>
    repository.associate now planConfig.planId (addressesOf planConfig) updated) links

variable {repository now addressesOf} {configs : List SpendingPlanConfig}

theorem Written.associateAll (written : repository.Written now links)
    (addressesOf : SpendingPlanConfig → Option (List String)) (configs : List SpendingPlanConfig) :
    repository.Written now (repository.associateAll now addressesOf configs links) := by
  induction configs generalizing links with
  | nil => exact written
  | cons planConfig rest ih => exact ih (written.associate planConfig.planId (addressesOf planConfig))

theorem associateAll_append (before later : List SpendingPlanConfig) :
    repository.associateAll now addressesOf (before ++ later) links =
      repository.associateAll now addressesOf later (repository.associateAll now addressesOf before links) :=
  List.foldl_append

/-- A key that no plan lists only loses a link to a configured plan. -/
theorem Written.get_associateAll_unlisted (written : repository.Written now links)
    (unlisted : ∀ planConfig ∈ configs, ¬ repository.Lists (addressesOf planConfig) key) :
    (repository.associateAll now addressesOf configs links).get now key =
      (links.get now key).filter fun stored => ∀ planConfig ∈ configs, repository.planId stored ≠ planConfig.planId := by
  induction configs generalizing links with
  | nil =>
      cases found : links.get now key <;> simp [LinkRepository.associateAll, found, Option.filter]
  | cons planConfig rest ih =>
      obtain ⟨first, others⟩ := List.forall_mem_cons.mp unlisted
      have step := ih (written.associate planConfig.planId (addressesOf planConfig)) others
      rw [written.get_associate_unlisted first, Option.filter_filter] at step
      refine step.trans (congrArg (Option.filter · (links.get now key)) (funext fun stored => ?_))
      simp

/-- Plans that do not list a key leave the link to another plan as it is. -/
theorem Written.get_associateAll_kept (written : repository.Written now links)
    (unlisted : ∀ planConfig ∈ configs, ¬ repository.Lists (addressesOf planConfig) key) {address : String}
    (found : links.get now key = some (repository.link address planId))
    (distinct : ∀ other ∈ configs, planId ≠ other.planId) :
    (repository.associateAll now addressesOf configs links).get now key = some (repository.link address planId) := by
  have kept : ∀ other ∈ configs, repository.planId (repository.link address planId) ≠ other.planId := by
    rw [repository.planId_link]
    exact distinct
  rw [written.get_associateAll_unlisted unlisted, found]
  simpa [Option.filter] using kept

/-- A listed key is linked to the last plan that lists it, under one of its spellings. -/
theorem Written.get_associateAll_listed (written : repository.Written now links)
    (before : List SpendingPlanConfig) {later : List SpendingPlanConfig} {planConfig : SpendingPlanConfig}
    (distinct : ∀ other ∈ later, planConfig.planId ≠ other.planId)
    (listed : repository.Lists (addressesOf planConfig) key)
    (last : ∀ other ∈ later, ¬ repository.Lists (addressesOf other) key) :
    ∃ address ∈ repository.spellings (addressesOf planConfig) key,
      (repository.associate now planConfig.planId (addressesOf planConfig)
        (repository.associateAll now addressesOf before links)).get now key =
          some (repository.link address planConfig.planId) ∧
      (repository.associateAll now addressesOf (before ++ planConfig :: later) links).get now key =
        some (repository.link address planConfig.planId) := by
  have earlier := written.associateAll addressesOf before
  obtain ⟨address, spelled, found⟩ := earlier.get_associate_listed planConfig.planId listed
  refine ⟨address, spelled, found, ?_⟩
  rw [associateAll_append]
  exact (earlier.associate planConfig.planId (addressesOf planConfig)).get_associateAll_kept last found distinct

end Configured

/-- The plans before and after one in a list have other identifiers. -/
theorem planId_ne_of_nodup {before later : List SpendingPlanConfig} {planConfig : SpendingPlanConfig}
    (distinct : ((before ++ planConfig :: later).map SpendingPlanConfig.planId).Nodup) :
    (∀ other ∈ before, planConfig.planId ≠ other.planId) ∧ ∀ other ∈ later, planConfig.planId ≠ other.planId := by
  rw [List.map_append, List.map_cons, List.nodup_append] at distinct
  obtain ⟨_, unique, apart⟩ := distinct
  constructor
  · intro other member same
    exact apart other.planId (List.mem_map.mpr ⟨other, member, rfl⟩) planConfig.planId List.mem_cons_self same.symm
  · intro other member same
    exact (List.nodup_cons.mp unique).1 (List.mem_map.mpr ⟨other, member, same.symm⟩)

/-- The links are those of the configuration. Each listed address has the last plan that
lists it; no other address has a configured plan, or a plan that was deleted. -/
structure Match (repository : LinkRepository Link) (now : Nat) (addressesOf : SpendingPlanConfig → Option (List String))
    (configs : List SpendingPlanConfig) (deleted : List PlanId) (links : Links Link) : Prop where
  listed : ∀ before planConfig later, configs = before ++ planConfig :: later →
    ∀ address ∈ (addressesOf planConfig).getD [],
      (∀ other ∈ later, ¬ repository.Lists (addressesOf other) (repository.getKey address)) →
        ∃ stored, links.get now (repository.getKey address) = some stored ∧ repository.planId stored = planConfig.planId
  unlisted : ∀ key stored, links.get now key = some stored →
    (∀ planConfig ∈ configs, ¬ repository.Lists (addressesOf planConfig) key) →
      (∀ planConfig ∈ configs, repository.planId stored ≠ planConfig.planId) ∧ repository.planId stored ∉ deleted

theorem Written.match_associateAll (written : repository.Written now links)
    {addressesOf : SpendingPlanConfig → Option (List String)} {configs : List SpendingPlanConfig}
    {deleted : List PlanId} (distinct : (configs.map SpendingPlanConfig.planId).Nodup)
    (gone : ∀ key stored, links.get now key = some stored → repository.planId stored ∉ deleted) :
    repository.Match now addressesOf configs deleted (repository.associateAll now addressesOf configs links) := by
  constructor
  · rintro before planConfig later rfl address inside last
    have apart := fun other member => (planId_ne_of_nodup distinct).2 other member
    obtain ⟨spelling, _, _, found⟩ := written.get_associateAll_listed before apart
      (List.mem_map.mpr ⟨address, inside, rfl⟩) last
    exact ⟨_, found, repository.planId_link ..⟩
  · intro key stored found unlisted
    rw [written.get_associateAll_unlisted unlisted, Option.filter_eq_some_iff] at found
    exact ⟨of_decide_eq_true found.2, gone key stored found.1⟩

section Again
variable (addressesOf : SpendingPlanConfig → Option (List String)) {configs : List SpendingPlanConfig}

/-- A key that only one plan lists has one spelling there. -/
def Spelled (repository : LinkRepository Link) (addressesOf : SpendingPlanConfig → Option (List String))
    (configs : List SpendingPlanConfig) : Prop :=
  ∀ planConfig ∈ configs, ∀ first ∈ (addressesOf planConfig).getD [], ∀ second ∈ (addressesOf planConfig).getD [],
    repository.getKey first = repository.getKey second → first = second ∨
      ∃ other ∈ configs, other.planId ≠ planConfig.planId ∧ repository.Lists (addressesOf other) (repository.getKey first)

theorem exists_last_of_exists {holds : Element → Prop} {elements : List Element}
    (known : ∃ element ∈ elements, holds element) :
    ∃ before element later, elements = before ++ element :: later ∧ holds element ∧ ∀ other ∈ later, ¬ holds other := by
  induction elements with
  | nil => simp at known
  | cons element rest ih =>
      by_cases further : ∃ other ∈ rest, holds other
      · obtain ⟨before, last, later, rfl, own, none⟩ := ih further
        exact ⟨element :: before, last, later, rfl, own, none⟩
      · obtain ⟨found, member, own⟩ := known
        rcases List.mem_cons.mp member with rfl | inRest
        · exact ⟨[], found, rest, rfl, own, fun other inside holds => further ⟨other, inside, holds⟩⟩
        · exact absurd ⟨found, inRest, own⟩ further

/-- With one spelling for such a key, its link does not depend on the links before. -/
theorem Spelled.get_eq {addressesOf : SpendingPlanConfig → Option (List String)}
    (spelled : repository.Spelled addressesOf configs)
    (distinct : (configs.map SpendingPlanConfig.planId).Nodup) {first second : Links Link}
    (writtenFirst : repository.Written now first) (writtenSecond : repository.Written now second)
    (listed : ∃ planConfig ∈ configs, repository.Lists (addressesOf planConfig) key) :
    (repository.associateAll now addressesOf configs first).get now key =
      (repository.associateAll now addressesOf configs second).get now key := by
  obtain ⟨before, planConfig, later, rfl, lists, last⟩ := exists_last_of_exists listed
  obtain ⟨apartBefore, apart⟩ := planId_ne_of_nodup distinct
  obtain ⟨address, inside, step, found⟩ := writtenFirst.get_associateAll_listed before apart lists last
  obtain ⟨addressToo, insideToo, stepToo, foundToo⟩ := writtenSecond.get_associateAll_listed before apart lists last
  rw [found, foundToo]
  by_cases earlier : ∃ other ∈ before, repository.Lists (addressesOf other) key
  · have fresh : ∀ {links : Links Link}, repository.Written now links → ∀ address ∈ (addressesOf planConfig).getD [],
        (repository.associateAll now addressesOf before links).get now key ≠
          some (repository.link address planConfig.planId) := by
      intro links written address _ same
      obtain ⟨start, other, rest, rfl, own, none⟩ := exists_last_of_exists earlier
      have others : ∀ more ∈ rest, other.planId ≠ more.planId := by
        rw [List.append_assoc, List.cons_append] at distinct
        intro more member
        exact (planId_ne_of_nodup distinct).2 more (List.mem_append_left _ member)
      obtain ⟨spelling, _, _, linked⟩ := written.get_associateAll_listed start others own none
      rw [linked] at same
      have plans := congrArg repository.planId (Option.some.inj same)
      rw [repository.planId_link, repository.planId_link] at plans
      exact apartBefore other (List.mem_append_right _ List.mem_cons_self) plans.symm
    rw [(writtenFirst.associateAll addressesOf before).get_associate_fresh lists (fresh writtenFirst)] at step
    rw [(writtenSecond.associateAll addressesOf before).get_associate_fresh lists (fresh writtenSecond)] at stepToo
    exact step.symm.trans stepToo
  · obtain ⟨member, own⟩ := mem_spellings.mp inside
    obtain ⟨memberToo, ownToo⟩ := mem_spellings.mp insideToo
    have config : planConfig ∈ before ++ planConfig :: later := List.mem_append_right _ List.mem_cons_self
    rcases spelled planConfig config address member addressToo memberToo (own.trans ownToo.symm) with same |
      ⟨other, known, different, also⟩
    · rw [same]
    · rw [own] at also
      rcases List.mem_append.mp known with inBefore | inLater
      · exact absurd ⟨other, inBefore, also⟩ earlier
      · rcases List.mem_cons.mp inLater with rfl | inLater
        · exact absurd rfl different
        · exact absurd also (last other inLater)

/-- Doing it again changes no link exactly if every key that only one plan lists has one
spelling. -/
theorem Written.associateAll_again_iff (written : repository.Written now links)
    (distinct : (configs.map SpendingPlanConfig.planId).Nodup) :
    (∀ key, (repository.associateAll now addressesOf configs (repository.associateAll now addressesOf configs
      links)).get now key =
      (repository.associateAll now addressesOf configs links).get now key) ↔ repository.Spelled addressesOf configs := by
  have after := written.associateAll addressesOf configs
  constructor
  · intro again planConfig config first inFirst second inSecond same
    by_contra neither
    obtain ⟨different, only⟩ := not_or.mp neither
    obtain ⟨before, later, rfl⟩ := List.append_of_mem config
    obtain ⟨apartBefore, apart⟩ := planId_ne_of_nodup distinct
    have noneBefore : ∀ other ∈ before, ¬ repository.Lists (addressesOf other) (repository.getKey first) :=
      fun other member lists =>
      only ⟨other, List.mem_append_left _ member, (apartBefore other member).symm, lists⟩
    have noneLater : ∀ other ∈ later, ¬ repository.Lists (addressesOf other) (repository.getKey first) :=
      fun other member lists =>
      only ⟨other, List.mem_append_right _ (List.mem_cons_of_mem _ member), (apart other member).symm, lists⟩
    have lists : repository.Lists (addressesOf planConfig) (repository.getKey first) :=
      List.mem_map.mpr ⟨first, inFirst, rfl⟩
    obtain ⟨address, inside, _, found⟩ := written.get_associateAll_listed before apart lists noneLater
    have kept := after.get_associateAll_kept noneBefore found apartBefore
    obtain ⟨other, other_ne, step⟩ : ∃ other, other ≠ address ∧
        (repository.associate now planConfig.planId (addressesOf planConfig) (repository.associateAll now addressesOf before
          (repository.associateAll now addressesOf (before ++ planConfig :: later) links))).get now
            (repository.getKey first) =
          some (repository.link other planConfig.planId) := by
      rw [(after.associateAll addressesOf before).get_associate_current (mem_spellings.mp inside).1 kept]
      cases last : ((repository.spellings (addressesOf planConfig) (repository.getKey first)).filter
        (· ≠ address)).getLast? with
      | some other =>
          exact ⟨other, of_decide_eq_true (List.mem_filter.mp (List.mem_of_getLast? last)).2, rfl⟩
      | none =>
          rw [List.getLast?_eq_none_iff, List.filter_eq_nil_iff] at last
          have eqFirst : first = address := by simpa using last first (mem_spellings.mpr ⟨inFirst, rfl⟩)
          have eqSecond : second = address := by simpa using last second (mem_spellings.mpr ⟨inSecond, same.symm⟩)
          exact absurd (eqFirst.trans eqSecond.symm) different
    have changed := ((after.associateAll addressesOf before).associate planConfig.planId
      (addressesOf planConfig)).get_associateAll_kept noneLater step apart
    have stable := again (repository.getKey first)
    rw [found, associateAll_append] at stable
    have texts := congrArg repository.address (Option.some.inj (changed.symm.trans stable))
    rw [repository.address_link, repository.address_link] at texts
    exact other_ne texts
  · intro spelled key
    by_cases listed : ∃ planConfig ∈ configs, repository.Lists (addressesOf planConfig) key
    · exact spelled.get_eq distinct after written listed
    · have unlisted : ∀ planConfig ∈ configs, ¬ repository.Lists (addressesOf planConfig) key :=
        fun planConfig config lists =>
        listed ⟨planConfig, config, lists⟩
      rw [after.get_associateAll_unlisted unlisted, written.get_associateAll_unlisted unlisted, Option.filter_filter]
      simp

end Again

end LinkRepository

end HieroRelay.Hbar
