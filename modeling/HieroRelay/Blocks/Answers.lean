import HieroRelay.Blocks.TransactionService
import HieroRelay.Lib.Outcome

/-! Calls over one set of records: the mirror node gives the same query the same answer,
however often and by whichever endpoint it is asked. -/

namespace HieroRelay.Blocks

open HieroRelay.Lib
open HieroRelay.Filters (AddressParam BlockParam HexNumber Log numberTo0x toHash32)

abbrev MirrorNode := (op : MirrorOp) → op.Answer

/-- The outcome of a call. -/
def respond (node : MirrorNode) (call : Throwing Result) : Except RelayError Result := call.run.answeredBy node

section Calls
variable (node : MirrorNode)

@[simp] theorem respond_pure (result : Result) : respond node (pure result) = .ok result := rfl

@[simp] theorem respond_throw (error : RelayError) : respond node (throw error : Throwing Result) = .error error := rfl

@[simp] theorem respond_await (op : MirrorOp) : respond node (await op) = .ok (node op) := rfl

@[simp] theorem respond_bind (call : Throwing Result) (next : Result → Throwing Next) :
    respond node (call >>= next) = respond node call >>= fun result => respond node (next result) := by
  simp only [respond, ExceptT.run_bind, Prog.answeredBy_bind]
  cases call.run.answeredBy node with
  | ok result => rfl
  | error error => rfl

@[simp] theorem respond_answered (answer : Option Result) :
    respond node (answered answer) = match answer with
      | some result => .ok result
      | none => .error .mirrorNode := by
  cases answer <;> rfl

@[simp] theorem respond_mapM (elements : List Element) (call : Element → Throwing Result) :
    respond node (elements.mapM call) = elements.mapM fun element => respond node (call element) := by
  induction elements with
  | nil => rfl
  | cons element rest ih => simp only [List.mapM_cons, respond_bind, respond_pure, ih]; rfl

@[simp] theorem respond_ite (condition : Prop) [Decidable condition] (first second : Throwing Result) :
    respond node (if condition then first else second) =
      if condition then respond node first else respond node second := by
  split <;> rfl

end Calls

section Polling
variable (node : MirrorNode)

/-- With the same answer each time the polling ends at once, or fails. -/
theorem respond_pollWhileImmature (fetch : Throwing Records) (immature : Records → Bool) (records : Records)
    (same : respond node fetch = .ok records) (roundsLeft : Nat) :
    respond node (MirrorNodeClient.pollWhileImmature fetch immature roundsLeft records) =
      if roundsLeft ≠ 0 ∧ immature records = true then .error .DEPENDENT_SERVICE_IMMATURE_RECORDS else .ok records := by
  induction roundsLeft with
  | zero => rfl
  | succ roundsLeft ih =>
      rw [MirrorNodeClient.pollWhileImmature]
      by_cases unready : immature records = true
      · have failing : roundsLeft + 1 ≠ 0 ∧ immature records = true := ⟨Nat.succ_ne_zero roundsLeft, unready⟩
        rw [if_pos unready, if_pos failing]
        by_cases last : roundsLeft = 0
        · rw [if_pos last]
          rfl
        · rw [if_neg last, respond_bind, same]
          exact ih.trans (if_pos ⟨last, unready⟩)
      · rw [if_neg unready, if_neg fun both => unready both.2]
        rfl

private theorem respond_retrying (retryCount : Nat) (fetch : Throwing Records) (immature : Records → Bool) :
    respond node (MirrorNodeClient.retrying retryCount fetch immature) =
      respond node fetch >>= fun records =>
        if retryCount ≠ 0 ∧ immature records = true then .error .DEPENDENT_SERVICE_IMMATURE_RECORDS else .ok records := by
  rw [MirrorNodeClient.retrying, respond_bind]
  cases same : respond node fetch with
  | ok records => exact respond_pollWhileImmature node fetch immature records same retryCount
  | error error => rfl

theorem retrying_eq_ok_iff {retryCount : Nat} {fetch : Throwing Records} {immature : Records → Bool}
    {records : Records} :
    respond node (MirrorNodeClient.retrying retryCount fetch immature) = .ok records ↔
      respond node fetch = .ok records ∧ (retryCount = 0 ∨ immature records = false) := by
  rw [respond_retrying, bind_eq_ok_iff]
  constructor
  · rintro ⟨fetched, first, returned⟩
    split at returned
    · cases returned
    · next settled =>
        cases returned
        refine ⟨first, ?_⟩
        by_cases off : retryCount = 0
        · exact .inl off
        · exact .inr (Bool.eq_false_iff.mpr fun unready => settled ⟨off, unready⟩)
  · rintro ⟨first, settled⟩
    refine ⟨records, first, if_neg ?_⟩
    rintro ⟨on, unready⟩
    rcases settled with off | ready
    · exact on off
    · rw [ready] at unready
      cases unready

end Polling

section Records
variable (node : MirrorNode)

theorem requiredNumberTo0x_eq_ok_iff {input : Option Nat} {number : HexNumber} :
    respond node (requiredNumberTo0x input) = .ok number ↔ input = some number.value := by
  cases input with
  | none => exact ⟨nofun, nofun⟩
  | some value =>
      change (Except.ok (numberTo0x value) : Except RelayError HexNumber) = _ ↔ _
      rw [Except.ok.injEq, Option.some.injEq]
      constructor
      · rintro rfl
        rfl
      · rintro rfl
        rfl

/-- The log of a record whose numbers are all there. -/
theorem logOf_eq_ok_iff {record : ContractLog} {log : Log} :
    respond node (CommonService.logOf record) = .ok log ↔
      record.blockNumber = some log.blockNumber.value ∧ record.index = some log.logIndex.value ∧
        record.transactionIndex = some log.transactionIndex.value ∧ log.address = record.address ∧
        log.blockHash = toHash32 record.blockHash ∧ log.data = record.data ∧ log.removed = false ∧
        log.topics = record.topics ∧ log.transactionHash = toHash32 record.transactionHash := by
  simp only [CommonService.logOf, respond_bind, bind_eq_ok_iff, requiredNumberTo0x_eq_ok_iff, respond_pure]
  constructor
  · rintro ⟨blockNumber, number, logIndex, index, transactionIndex, position, built⟩
    cases built
    exact ⟨number, index, position, rfl, rfl, rfl, rfl, rfl, rfl⟩
  · rintro ⟨number, index, position, address, blockHash, data, removed, topics, transactionHash⟩
    refine ⟨_, number, _, index, _, position, ?_⟩
    cases log
    simp_all

end Records

section Addresses
variable (node : MirrorNode)

/-- The query for one kind of entity, where it is searched for. -/
theorem search_returns (searched : Prop) [Decidable searched] (query : Throwing (Option Entity))
    (returns : ∃ entity, respond node query = .ok entity) :
    ∃ entity, respond node (if searched then query else pure none) = .ok entity := by
  by_cases holds : searched
  · rw [if_pos holds]
    exact returns
  · rw [if_neg holds]
    exact ⟨none, rfl⟩

private theorem resolveEntityType_returns (address : String) (searchableTypes : List EntityType) :
    ∃ entity, respond node (MirrorNodeClient.resolveEntityType address searchableTypes) = .ok entity := by
  obtain ⟨contract, searched⟩ := search_returns node (EntityType.CONTRACT ∈ searchableTypes) _
    ⟨_, respond_await node (.getContract address)⟩
  obtain ⟨account, accountSearched⟩ := search_returns node (EntityType.ACCOUNT ∈ searchableTypes) _
    ⟨_, respond_await node (.getAccount address)⟩
  obtain ⟨token, tokenSearched⟩ := search_returns node (EntityType.TOKEN ∈ searchableTypes) _
    ⟨_, respond_await node (.getTokenById (MirrorNodeClient.toEntityId address))⟩
  rw [MirrorNodeClient.resolveEntityType, respond_bind, searched]
  cases contract with
  | some entity => exact ⟨_, rfl⟩
  | none =>
      refine ⟨(account.map (EntityType.ACCOUNT, ·)).or (token.map (EntityType.TOKEN, ·)), ?_⟩
      change respond node (_ >>= _) = _
      rw [respond_bind, accountSearched]
      change respond node (_ >>= _) = _
      rw [respond_bind, tokenSearched]
      rfl

/-- Resolving an address never fails. -/
theorem resolveEvmAddress_returns (address : Option String) (searchableTypes : List EntityType) :
    ∃ resolved, respond node (CommonService.resolveEvmAddress address searchableTypes) = .ok resolved := by
  unfold CommonService.resolveEvmAddress
  split
  · exact ⟨none, rfl⟩
  · exact ⟨some "", rfl⟩
  · next address _ =>
      obtain ⟨entity, found⟩ := resolveEntityType_returns node address searchableTypes
      rw [respond_bind, found]
      rcases entity with _ | ⟨_ | _ | _, _ | evmAddress⟩ <;> exact ⟨_, rfl⟩

/-- The address that the relay shows for an address. -/
def resolved (address : Option String) (searchableTypes : List EntityType) : Option String :=
  match respond node (CommonService.resolveEvmAddress address searchableTypes) with
  | .ok resolved => resolved
  | .error _ => address

@[simp] theorem respond_resolveEvmAddress (address : Option String) (searchableTypes : List EntityType) :
    respond node (CommonService.resolveEvmAddress address searchableTypes) =
      .ok (resolved node address searchableTypes) := by
  obtain ⟨found, returned⟩ := resolveEvmAddress_returns node address searchableTypes
  rw [resolved, returned]

end Addresses

end HieroRelay.Blocks
