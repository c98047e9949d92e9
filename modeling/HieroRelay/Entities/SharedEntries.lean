import HieroRelay.Blocks.Answers
import HieroRelay.Entities.MirrorNodeClient

/-! The cache is shared by calls with different searchable types. The answers of a run are
those of uncached calls when every entry that is found would also be found by the call. -/

namespace HieroRelay.Entities

open HieroRelay.Lib
open HieroRelay.Js (Json ownField truthy)
open HieroRelay.Blocks (EntityType respond respond_await respond_bind respond_ite)

namespace MirrorData

variable (data : MirrorData)

/-- The entity of a type that the call would be answered with. -/
def entityOf (call : ResolveCall) : EntityType → Option Json
  | .CONTRACT =>
      let contract := MirrorNodeClient.orNull (data (MirrorNodeClient.contractPath call.entityIdentifier call.timestamp))
      if truthy (some contract) then some contract else none
  | .ACCOUNT => data.fulfils (some (MirrorNodeClient.accountPath call.entityIdentifier call.timestamp))
  | .TOKEN =>
      data.fulfils (some (MirrorNodeClient.tokenPath (Blocks.MirrorNodeClient.toEntityId call.entityIdentifier)))

/-- What an uncached call answers: an entity of a type that is searched for, and a contract
where there is one. -/
structure Answers (call : ResolveCall) (response : ResolvedEntity) : Prop where
  searched : response.type ∈ call.searchableTypes
  entity : data.entityOf call response.type = some response.entity
  contractFirst : .CONTRACT ∈ call.searchableTypes → (data.entityOf call .CONTRACT).isSome = true →
    response.type = .CONTRACT

variable {data} {call : ResolveCall} {response : ResolvedEntity} {promises : List (Option String)} {first index : Nat}
  {value : Json}

private theorem any_of_fulfils (fulfilled : promises[index]?.bind data.fulfils = some value) :
    data.any promises index = some (value, index) := by
  simp [any, fulfilled]

theorem fulfils_of_any (won : data.any promises first = some (value, index)) :
    promises[index]?.bind data.fulfils = some value := by
  rw [any, Option.or_eq_some_iff] at won
  rcases won with own | ⟨_, other⟩
  · obtain ⟨held, fulfilled, same⟩ := Option.map_eq_some_iff.mp own
    obtain ⟨rfl, rfl⟩ := Prod.mk.inj same
    exact fulfilled
  · obtain ⟨position, _, own⟩ := List.exists_of_findSome?_eq_some other
    obtain ⟨held, fulfilled, same⟩ := Option.map_eq_some_iff.mp own
    obtain ⟨rfl, rfl⟩ := Prod.mk.inj same
    exact fulfilled

/-- The promises of the race are those for the types that are searched for. -/
theorem fulfils_racing_iff :
    (MirrorNodeClient.racing call)[index]?.bind data.fulfils = some value ↔
      index < 2 ∧ MirrorNodeClient.typeAt index ∈ call.searchableTypes ∧
        data.entityOf call (MirrorNodeClient.typeAt index) = some value := by
  match index with
  | 0 =>
      by_cases searched : EntityType.ACCOUNT ∈ call.searchableTypes
      · simp [MirrorNodeClient.racing, MirrorNodeClient.typeAt, entityOf, searched]
      · simp [MirrorNodeClient.racing, MirrorNodeClient.typeAt, fulfils, searched]
  | 1 =>
      by_cases searched : EntityType.TOKEN ∈ call.searchableTypes
      · simp [MirrorNodeClient.racing, MirrorNodeClient.typeAt, entityOf, searched]
      · simp [MirrorNodeClient.racing, MirrorNodeClient.typeAt, fulfils, searched]
  | index + 2 => simp [MirrorNodeClient.racing]

theorem answeredBy_resolveAccountOrToken :
    (MirrorNodeClient.resolveAccountOrToken call).answeredBy (data.uncached first) =
      (data.any (MirrorNodeClient.racing call) first).map fun (value, index) =>
        { type := MirrorNodeClient.typeAt index, entity := value } := by
  simp only [MirrorNodeClient.resolveAccountOrToken, await, Prog.op, Prog.call_bind, Prog.done_bind,
    Prog.answeredBy_call, uncached]
  cases data.any (MirrorNodeClient.racing call) first <;> rfl

theorem answeredBy_resolveEntityType :
    (MirrorNodeClient.resolveEntityType call).answeredBy (data.uncached first) =
      if .CONTRACT ∈ call.searchableTypes ∧ (data.entityOf call .CONTRACT).isSome = true then
        (data.entityOf call .CONTRACT).map fun contract => { type := .CONTRACT, entity := contract }
      else (MirrorNodeClient.resolveAccountOrToken call).answeredBy (data.uncached first) := by
  by_cases searched : EntityType.CONTRACT ∈ call.searchableTypes
  · by_cases found : truthy (some (MirrorNodeClient.orNull
        (data (MirrorNodeClient.contractPath call.entityIdentifier call.timestamp)))) = true
    · simp [MirrorNodeClient.resolveEntityType, MirrorNodeClient.cacheResponse, await, Prog.op, uncached, entityOf,
        searched, found]
    · simp [MirrorNodeClient.resolveEntityType, await, Prog.op, uncached, entityOf, searched, found]
  · simp [MirrorNodeClient.resolveEntityType, await, Prog.op, uncached, searched]

/-- Whichever promise settles first, one of those that fulfil wins. -/
theorem isSome_any (fulfilled : promises[index]?.bind data.fulfils = some value) (first : Nat) :
    (data.any promises first).isSome = true := by
  obtain ⟨promise, held, -⟩ := Option.bind_eq_some_iff.mp fulfilled
  have within : index ∈ List.range promises.length := List.mem_range.mpr (List.getElem?_eq_some_iff.mp held).1
  rw [any, Option.isSome_or, Bool.or_eq_true, List.findSome?_isSome_iff]
  exact .inr ⟨index, within, by simp [fulfilled]⟩

/-- A call that can find an entity finds one whichever promise settles first. -/
theorem isSome_of_could (could : data.Could call (some response)) (first : Nat) :
    ((MirrorNodeClient.resolveEntityType call).answeredBy (data.uncached first)).isSome = true := by
  obtain ⟨other, given⟩ := could
  rw [answeredBy_resolveEntityType] at given ⊢
  split_ifs at given ⊢
  · rw [given]
    rfl
  · rw [answeredBy_resolveAccountOrToken] at given ⊢
    obtain ⟨⟨entity, index⟩, won, -⟩ := Option.map_eq_some_iff.mp given
    rw [Option.isSome_map]
    exact isSome_any (fulfils_of_any won) first

/-- An uncached call can answer an entity exactly where it is one of its answers. -/
theorem could_some_iff : data.Could call (some response) ↔ data.Answers call response := by
  constructor
  · rintro ⟨first, given⟩
    rw [answeredBy_resolveEntityType] at given
    split_ifs at given with contract
    · obtain ⟨entity, held, rfl⟩ := Option.map_eq_some_iff.mp given
      exact { searched := contract.1, entity := held, contractFirst := fun _ _ => rfl }
    · rw [answeredBy_resolveAccountOrToken] at given
      obtain ⟨⟨entity, index⟩, won, rfl⟩ := Option.map_eq_some_iff.mp given
      obtain ⟨_, searched, held⟩ := fulfils_racing_iff.mp (fulfils_of_any won)
      exact { searched, entity := held, contractFirst := fun wanted there => absurd ⟨wanted, there⟩ contract }
  · intro answers
    obtain ⟨type, entity⟩ := response
    by_cases contract : EntityType.CONTRACT ∈ call.searchableTypes ∧ (data.entityOf call .CONTRACT).isSome = true
    · obtain rfl : type = .CONTRACT := answers.contractFirst contract.1 contract.2
      exact ⟨0, by rw [answeredBy_resolveEntityType, if_pos contract, answers.entity]; rfl⟩
    · have won : ∀ index < 2, MirrorNodeClient.typeAt index = type → data.Could call (some { type, entity }) := by
        rintro index within rfl
        have fulfilled := fulfils_racing_iff.mpr ⟨within, answers.searched, answers.entity⟩
        refine ⟨index, ?_⟩
        rw [answeredBy_resolveEntityType, if_neg contract, answeredBy_resolveAccountOrToken, any_of_fulfils fulfilled]
        rfl
      cases type with
      | CONTRACT => exact absurd ⟨answers.searched, by simp [answers.entity]⟩ contract
      | ACCOUNT => exact won 0 (by decide) rfl
      | TOKEN => exact won 1 (by decide) rfl

/-! The services for blocks resolve entities without a cache, and let the account win. -/

/-- An entity of a type that is searched for. -/
def searchedEntity (data : MirrorData) (call : ResolveCall) (type : EntityType) : Option Json :=
  if type ∈ call.searchableTypes then data.entityOf call type else none

private theorem any_racing_account : data.any (MirrorNodeClient.racing call) 0 =
    ((data.searchedEntity call .ACCOUNT).map (·, 0)).or ((data.searchedEntity call .TOKEN).map (·, 1)) := by
  have settled : ∀ index < 2, (MirrorNodeClient.racing call)[index]?.bind data.fulfils =
      data.searchedEntity call (MirrorNodeClient.typeAt index) := by
    intro index within
    apply Option.ext
    intro value
    rw [fulfils_racing_iff, searchedEntity]
    split_ifs with searched <;> simp [within, searched]
  have account := settled 0 (by decide)
  have token := settled 1 (by decide)
  have positions : List.range (MirrorNodeClient.racing call).length = [0, 1] := rfl
  unfold any
  dsimp only
  rw [positions, List.findSome?_cons, List.findSome?_cons, account, token]
  dsimp only [MirrorNodeClient.typeAt]
  cases data.searchedEntity call .ACCOUNT with
  | some entity => rfl
  | none => cases data.searchedEntity call .TOKEN <;> rfl

private theorem uncached_account : (MirrorNodeClient.resolveEntityType call).answeredBy (data.uncached 0) =
    ((data.searchedEntity call .CONTRACT).map (ResolvedEntity.mk .CONTRACT)).or
      (((data.searchedEntity call .ACCOUNT).map (ResolvedEntity.mk .ACCOUNT)).or
        ((data.searchedEntity call .TOKEN).map (ResolvedEntity.mk .TOKEN))) := by
  rw [answeredBy_resolveEntityType, answeredBy_resolveAccountOrToken, any_racing_account]
  split_ifs with found
  · obtain ⟨entity, there⟩ := Option.isSome_iff_exists.mp found.2
    have contract : data.searchedEntity call .CONTRACT = some entity := (if_pos found.1).trans there
    rw [contract, there]
    rfl
  · have missing : data.searchedEntity call .CONTRACT = none := by
      unfold searchedEntity
      split_ifs with searched
      · exact Option.not_isSome_iff_eq_none.mp fun there => found ⟨searched, there⟩
      · rfl
    rw [missing]
    cases data.searchedEntity call .ACCOUNT with
    | some entity => rfl
    | none => cases data.searchedEntity call .TOKEN <;> rfl

/-- What the services for blocks read of an entity. -/
def viewOf (value : Json) : Blocks.Entity where
  evmAddress := match ownField value "evm_address" with
    | some (.str evmAddress) => some evmAddress
    | _ => none

/-- Their mirror node has the entities of the call. -/
structure Shows (data : MirrorData) (call : ResolveCall) (node : Blocks.MirrorNode) : Prop where
  contract : node (.getContract call.entityIdentifier) = (data.entityOf call .CONTRACT).map viewOf
  account : node (.getAccount call.entityIdentifier) = (data.entityOf call .ACCOUNT).map viewOf
  token : node (.getTokenById (Blocks.MirrorNodeClient.toEntityId call.entityIdentifier)) =
    (data.entityOf call .TOKEN).map viewOf

/-- They resolve the entity to what an uncached call can answer. -/
theorem could_blocks_resolveEntityType {node : Blocks.MirrorNode} (shows_ : Shows data call node) :
    ∃ response, data.Could call response ∧
      respond node (Blocks.MirrorNodeClient.resolveEntityType call.entityIdentifier call.searchableTypes) =
        .ok (response.map fun response => (response.type, viewOf response.entity)) := by
  have contract : respond node (if .CONTRACT ∈ call.searchableTypes then
      Blocks.await (.getContract call.entityIdentifier) else pure none) = .ok ((data.searchedEntity call .CONTRACT).map viewOf) := by
    rw [respond_ite, respond_await, shows_.contract, searchedEntity]
    split_ifs <;> rfl
  have account : respond node (if .ACCOUNT ∈ call.searchableTypes then Blocks.await (.getAccount call.entityIdentifier)
      else pure none) = .ok ((data.searchedEntity call .ACCOUNT).map viewOf) := by
    rw [respond_ite, respond_await, shows_.account, searchedEntity]
    split_ifs <;> rfl
  have token : respond node (if .TOKEN ∈ call.searchableTypes then
      Blocks.await (.getTokenById (Blocks.MirrorNodeClient.toEntityId call.entityIdentifier))
      else pure none) = .ok ((data.searchedEntity call .TOKEN).map viewOf) := by
    rw [respond_ite, respond_await, shows_.token, searchedEntity]
    split_ifs <;> rfl
  refine ⟨_, ⟨0, rfl⟩, ?_⟩
  rw [uncached_account, Blocks.MirrorNodeClient.resolveEntityType, respond_bind, contract]
  cases data.searchedEntity call .CONTRACT with
  | some entity => rfl
  | none =>
    rw [Option.map_none, Js.ok_bind]
    dsimp only
    rw [respond_bind, account, Js.ok_bind, respond_bind, token, Js.ok_bind]
    cases data.searchedEntity call .ACCOUNT with
    | some entity => rfl
    | none => cases data.searchedEntity call .TOKEN <;> rfl

end MirrorData

/-- The entry would be found by the call: its type is searched for, no contract is passed
over, and the mirror node has the same entity of that type for both calls. -/
structure Admits (data : MirrorData) (call : ResolveCall) (entry : CacheEntry) : Prop where
  searched : entry.response.type ∈ call.searchableTypes
  contractFirst : .CONTRACT ∈ call.searchableTypes → (data.entityOf call .CONTRACT).isSome = true →
    entry.response.type = .CONTRACT
  sameEntity : data.entityOf call entry.response.type = data.entityOf entry.call entry.response.type

def CacheSound (data : MirrorData) (cache : EntityCache) : Prop :=
  ∀ label entry, cache label = some entry → data.Could entry.call (some entry.response)

/-- For an entry of an uncached call, the condition is exact. -/
theorem could_iff_admits {data : MirrorData} {call : ResolveCall} {entry : CacheEntry}
    (sound : data.Could entry.call (some entry.response)) :
    data.Could call (some entry.response) ↔ Admits data call entry := by
  have held := (MirrorData.could_some_iff.mp sound).entity
  rw [MirrorData.could_some_iff]
  constructor
  · intro answers
    exact {
      searched := answers.searched
      contractFirst := answers.contractFirst
      sameEntity := answers.entity.trans held.symm }
  · intro admits
    exact { searched := admits.searched, entity := admits.sameEntity.trans held, contractFirst := admits.contractFirst }

/-- A call among others, as the only party with operations; the others may put any sound
entries into the cache. -/
def resolution (data : MirrorData) (call : ResolveCall) : Protocol Unit ResolveOp ResolveOp.Answer ResolveView where
  perform _ op view := (Resolver.answer data view op, Resolver.record call view op)
  permit _ op view := match op with
    | .getAsync label => ∀ entry, view.cache label = some entry → Admits data call entry
    | _ => True
  invariant view := CacheSound data view.cache
  rely _ _ _ := True
  guarantee _ _ _ := True
  rely_refl _ _ := trivial
  rely_trans _ _ _ _ _ _ := trivial
  compatible _ _ _ _ different := absurd rfl different

/-- Whatever the others do, the program ends with an answer of the call without the cache. -/
def Resolves (data : MirrorData) (call : ResolveCall) (program : Resolving (Option ResolvedEntity))
    (view : ResolveView) : Prop :=
  (resolution data call).Keeps () (fun response _ => data.Could call response) program view

variable {data : MirrorData} {call : ResolveCall} {response : Option ResolvedEntity} {view : ResolveView}

theorem resolves_done (could : data.Could call response) : Resolves data call (.done response) view :=
  fun _ _ => could

theorem CacheSound.set {cache : EntityCache} (sound : CacheSound data cache) {label : String} {entry : CacheEntry}
    (could : data.Could entry.call (some entry.response)) :
    CacheSound data (Function.update cache label (some entry)) := by
  intro other held found
  by_cases same : other = label
  · subst same
    rw [Function.update_self] at found
    obtain rfl := Option.some.inj found
    exact could
  · rw [Function.update_of_ne same] at found
    exact sound other held found

/-- The rule for one operation and what follows its answer. -/
theorem resolves_await {op : ResolveOp} {next : op.Answer → Resolving (Option ResolvedEntity)}
    (kept : ∀ later : ResolveView, CacheSound data later.cache → CacheSound data (Resolver.record call later op).cache)
    (follows : ∀ later, CacheSound data later.cache → (resolution data call).permit () op later →
      Resolves data call (next (Resolver.answer data later op)) (Resolver.record call later op)) :
    Resolves data call (await op >>= next) view := by
  intro later _ sound permitted
  exact ⟨trivial, kept later sound, follows later sound permitted⟩

theorem resolves_cacheResponse {label : String} {response : ResolvedEntity}
    (could : data.Could call (some response)) :
    Resolves data call (MirrorNodeClient.cacheResponse label response) view := by
  apply resolves_await
  · intro later sound
    exact sound.set could
  · intro later _ _
    exact resolves_done could

theorem resolves_resolveAccountOrToken
    (could : ∀ first, data.Could call
      ((MirrorNodeClient.resolveAccountOrToken call).answeredBy (data.uncached first))) :
    Resolves data call (MirrorNodeClient.resolveAccountOrToken call) view := by
  apply resolves_await
  · exact fun _ sound => sound
  intro later _ _
  have answered := could later.first
  rw [MirrorData.answeredBy_resolveAccountOrToken] at answered
  dsimp only [Resolver.answer]
  cases won : data.any (MirrorNodeClient.racing call) later.first with
  | none =>
      rw [won] at answered
      exact resolves_done answered
  | some winner =>
      rw [won] at answered
      exact resolves_cacheResponse answered

private theorem resolves_resolveEntityType : Resolves data call (MirrorNodeClient.resolveEntityType call) view := by
  have evaluated (first : Nat) : (MirrorNodeClient.resolveEntityType call).answeredBy (data.uncached first) = _ :=
    MirrorData.answeredBy_resolveEntityType
  apply resolves_await
  · exact fun _ sound => sound
  intro later sound permitted
  dsimp only [Resolver.answer]
  cases found : later.cache (MirrorNodeClient.cachedLabel call.entityIdentifier call.timestamp) with
  | some entry => exact resolves_done ((could_iff_admits (sound _ entry found)).mpr (permitted entry found))
  | none =>
      dsimp only [Option.map_none]
      split_ifs with searched
      · apply resolves_await
        · exact fun _ sound => sound
        intro after _ _
        dsimp only [Resolver.answer]
        split_ifs with contract
        · apply resolves_cacheResponse
          refine ⟨0, (evaluated 0).trans ?_⟩
          simp [MirrorData.entityOf, searched, contract]
        · apply resolves_resolveAccountOrToken
          intro first
          refine ⟨first, (evaluated first).trans ?_⟩
          simp [MirrorData.entityOf, contract]
      · apply resolves_resolveAccountOrToken
        intro first
        exact ⟨first, (evaluated first).trans (if_neg fun both => searched both.1)⟩

namespace Resolver

/-- The condition on a step: an entry that a call finds would also be found by the call. -/
def Admitted (data : MirrorData) (resolver : Resolver) : ResolveLabel → Prop
  | .operate position _ => ∀ call label next entry,
      resolver.requests[position]? = some { call, program := .call (.getAsync label) next } →
      resolver.cache label = some entry → Admits data call entry
  | _ => True

/-- What holds in every run under the condition. -/
structure Consistent (data : MirrorData) (resolver : Resolver) : Prop where
  cached : CacheSound data resolver.cache
  requests : ∀ request ∈ resolver.requests, ∀ view, Resolves data request.call request.program view
  answers : ∀ answer ∈ resolver.answers, data.Could answer.call answer.response

variable {resolver before after : Resolver} {label : ResolveLabel} {request : ResolveRequest} {position first : Nat}

theorem consistent_initial : Consistent data initial where
  cached := nofun
  requests := nofun
  answers := nofun

theorem CacheSound.expire {cache : EntityCache} (sound : CacheSound data cache) (label : String) :
    CacheSound data (Function.update cache label none) := by
  intro other entry found
  by_cases same : other = label
  · simp [same] at found
  · rw [Function.update_of_ne same] at found
    exact sound other entry found

/-- A request goes on with what follows its operation. -/
theorem Consistent.operate {call : ResolveCall} {op : ResolveOp} {next : op.Answer → Resolving (Option ResolvedEntity)}
    (consistent : before.Consistent data)
    (found : before.requests[position]? = some { call, program := .call op next })
    (admitted : before.Admitted data (.operate position first)) :
    Consistent data { before with
      cache := (record call { cache := before.cache, first } op).cache
      requests := before.requests.set position
        { call, program := next (answer data { cache := before.cache, first } op) } } := by
  have permitted : (resolution data call).permit () op { cache := before.cache, first } := by
    cases op with
    | getAsync label => exact fun entry => admitted call label next entry found
    | set label response => trivial
    | get path => trivial
    | any promises => trivial
  have own := consistent.requests _ (List.mem_of_getElem? found) { cache := before.cache, first }
  obtain ⟨_, sound, kept⟩ := own { cache := before.cache, first } trivial consistent.cached permitted
  refine { consistent with cached := sound, requests := ?_ }
  intro request member view
  rcases List.mem_or_eq_of_mem_set member with old | rfl
  · exact consistent.requests request old view
  · exact kept.interfere trivial

theorem Consistent.answered {call : ResolveCall} {response : Option ResolvedEntity}
    (consistent : before.Consistent data)
    (found : before.requests[position]? = some { call, program := .done response }) :
    Consistent data { before with
      requests := before.requests.eraseIdx position
      answers := before.answers ++ [{ call, response }] } := by
  have own := consistent.requests _ (List.mem_of_getElem? found) { cache := before.cache, first := 0 }
  refine { consistent with requests := ?_, answers := ?_ }
  · intro request member
    exact consistent.requests request (List.mem_of_mem_eraseIdx member)
  · intro answer member
    rcases List.mem_append.mp member with old | new
    · exact consistent.answers answer old
    · obtain rfl := List.mem_singleton.mp new
      exact own { cache := before.cache, first := 0 } trivial

theorem Consistent.step (consistent : before.Consistent data) (admitted : before.Admitted data label)
    (taken : serve data before label = some after) : after.Consistent data := by
  cases label with
  | call call =>
    obtain rfl := Option.some.inj taken
    refine { consistent with requests := ?_ }
    intro request member view
    rcases List.mem_append.mp member with old | new
    · exact consistent.requests request old view
    · obtain rfl := List.mem_singleton.mp new
      exact resolves_resolveEntityType
  | operate position first =>
    simp only [serve] at taken
    split at taken
    · rename_i found
      obtain rfl := Option.some.inj taken
      exact consistent.operate found admitted
    · cases taken
  | answer position =>
    simp only [serve] at taken
    split at taken
    · rename_i found
      obtain rfl := Option.some.inj taken
      exact consistent.answered found
    · cases taken
  | expire label =>
    obtain rfl := Option.some.inj taken
    exact { consistent with cached := CacheSound.expire consistent.cached label }

theorem Consistent.respects (consistent : resolver.Consistent data) : resolver.Respects data := by
  intro answer member
  have could := consistent.answers answer member
  refine ⟨?_, could⟩
  intro response given
  rw [given] at could
  exact (MirrorData.could_some_iff.mp could).searched

/-- As long as every entry that is found would also be found by the call that finds it, all
answers have a type that was searched for and are those of uncached calls. -/
theorem respects_of_admitted (data : MirrorData) (labels : List ResolveLabel) (final : Resolver)
    (admitted : Meets (serve data) (Admitted data) initial labels)
    (reached : run (serve data) initial labels = some final) : final.Respects data := by
  have consistent : final.Consistent data :=
    run_invariant_of_meets (fun _ _ _ held holds taken => held.step holds taken) consistent_initial admitted reached
  exact consistent.respects

def contractAddress : String := "0x00000000000000000000000000000000000004d2"

/-- A contract, which the mirror node lists as an account too. -/
def oneContract : MirrorData := fun path =>
  if path = "accounts/0x00000000000000000000000000000000000004d2?transactions=false" then
    some (.obj [("account", .str "0.0.1234"), ("evm_address", .str contractAddress)])
  else if path = "contracts/0x00000000000000000000000000000000000004d2" then
    some (.obj [("contract_id", .str "0.0.1234"), ("runtime_bytecode", .str "0x6080")])
  else none

/-- Two lookups of the code, the second from the cache. -/
def codeTwice : List ResolveLabel :=
  [.call (ContractService.getCodeLookup contractAddress), .operate 0 0, .operate 0 0, .operate 0 0, .answer 0,
    .call (ContractService.getCodeLookup contractAddress), .operate 0 0, .answer 0]

/-- The sender of a transaction is looked up, and then the code at its address. -/
def senderThenCode : List ResolveLabel :=
  [.call (CommonService.senderLookup contractAddress), .operate 0 0, .operate 0 0, .operate 0 0, .answer 0,
    .call (ContractService.getCodeLookup contractAddress), .operate 0 0, .answer 0]

theorem respects_codeTwice :
    ∃ final, run (serve oneContract) initial codeTwice = some final ∧ final.Respects oneContract := by
  refine ⟨_, rfl, respects_of_admitted oneContract codeTwice _ ?_ rfl⟩
  refine meets_cons trivial rfl (meets_cons ?_ rfl (meets_cons ?_ rfl (meets_cons ?_ rfl
    (meets_cons trivial rfl (meets_cons trivial rfl (meets_cons ?_ rfl (meets_cons trivial rfl trivial)))))))
  · rintro _ _ _ _ ⟨⟩ ⟨⟩
  · rintro _ _ _ _ ⟨⟩
  · rintro _ _ _ _ ⟨⟩
  · rintro _ _ _ _ ⟨⟩ ⟨⟩
    exact { searched := by decide, contractFirst := fun _ _ => rfl, sameEntity := rfl }

theorem getCode_receives_account : ¬ ∀ (data : MirrorData) (labels : List ResolveLabel) (final : Resolver),
    run (serve data) initial labels = some final → final.Respects data := by
  intro claim
  have respects := claim oneContract senderThenCode _ rfl
  have answered := (respects { call := ContractService.getCodeLookup contractAddress, response := some {
    type := .ACCOUNT
    entity := .obj [("account", .str "0.0.1234"), ("evm_address", .str contractAddress)] } } ?_).1 _ rfl
  · revert answered
    decide
  · exact .tail _ (.head _)

end Resolver

end HieroRelay.Entities
