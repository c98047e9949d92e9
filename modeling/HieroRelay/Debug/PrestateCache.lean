import HieroRelay.Debug.DebugImpl
import HieroRelay.Entities.SharedEntries

/-! The cache of the prestates over runs of calls whose requests may fail: when every result
that is cached, and every one that is served, has all entities that the mirror node has. -/

namespace HieroRelay.Debug

open HieroRelay.Lib
open HieroRelay.Js (Json ownField)
open HieroRelay.Blocks (EntityType)
open HieroRelay.Entities (MirrorData ResolveOp ResolvedEntity)
open DebugImpl

/-- What the mirror node has: the entities, and the actions of each transaction. -/
structure TraceData where
  mirror : MirrorData
  actions : String → List ContractAction

/-- How the requests of a call are answered; any of them may fail. -/
structure Answers (data : TraceData) where
  answer : (op : DebugOp) → op.Answer
  actions : ∀ transactionHash actions, answer (.getContractsResultsActions transactionHash) = some (some actions) →
    actions = data.actions transactionHash

structure TraceRequest where
  transactionHash : String
  onlyTopCall : Bool
  deriving Repr, DecidableEq

def TraceRequest.key (request : TraceRequest) : String := prestateKey request.transactionHash request.onlyTopCall

def TraceRequest.actions (data : TraceData) (request : TraceRequest) : List ContractAction :=
  filteredActions request.onlyTopCall (data.actions request.transactionHash)

/-- A call with what is left of its program. -/
structure PendingTrace where
  request : TraceRequest
  program : Requests (Except DebugError EntityTraceStateMap)

/-- The cache and the calls that share it. -/
structure Tracer where
  cache : String → Option EntityTraceStateMap
  pending : List PendingTrace
  served : List (TraceRequest × EntityTraceStateMap)

/-- A call reads the cache once, and does the rest at its end. -/
inductive TraceLabel (data : TraceData) where
  | call (request : TraceRequest)
  | readCache (position : Nat)
  | finish (position : Nat) (answers : Answers data)
  | expire (cacheKey : String)

/-- The cache answers for itself. -/
def perform (answer : (op : DebugOp) → op.Answer) :
    (op : DebugOp) → (String → Option EntityTraceStateMap) → op.Answer × (String → Option EntityTraceStateMap)
  | .getCachedPrestate cacheKey, cache => (cache cacheKey, cache)
  | .setCachedPrestate cacheKey result, cache => ((), Function.update cache cacheKey (some result))
  | op, cache => (answer op, cache)

variable {data : TraceData}

namespace Tracer

def initial : Tracer where
  cache := fun _ => none
  pending := []
  served := []

/-- A call that has read the cache ends with the given answers; one that failed serves nothing. -/
def finish (tracer : Tracer) (position : Nat) (pending : PendingTrace) (answers : Answers data) : Tracer :=
  let ended := pending.program.eval (perform answers.answer) tracer.cache
  { cache := ended.2
    pending := tracer.pending.eraseIdx position
    served := tracer.served ++ (ended.1.toOption.map (pending.request, ·)).toList }

def serve (tracer : Tracer) : TraceLabel data → Option Tracer
  | .call request =>
      let program := (prestateTracer request.transactionHash request.onlyTopCall).run
      some { tracer with pending := tracer.pending ++ [{ request, program }] }
  | .readCache position =>
      match tracer.pending[position]? with
      | some { request, program := .call (.getCachedPrestate cacheKey) next } =>
          some { tracer with
            pending := tracer.pending.set position { request, program := next (tracer.cache cacheKey) } }
      | _ => none
  | .finish position answers =>
      match tracer.pending[position]? with
      | none | some { program := .call (.getCachedPrestate _) _, .. } => none
      | some pending => some (tracer.finish position pending answers)
  | .expire cacheKey => some { tracer with cache := Function.update tracer.cache cacheKey none }

end Tracer

/-- The mirror node has an account or a contract with the EVM address for an entity that the
actions mention. -/
def Involved (data : TraceData) (request : TraceRequest) (evmAddress : String) : Prop :=
  ∃ entity ∈ (request.actions data).flatMap mentions, ∃ response,
    data.mirror.Could entity.lookup (some response) ∧ response.type ≠ .TOKEN ∧
      evmAddressOf response.entity = some evmAddress

/-- The result has an entry for all of them. -/
def HasAll (data : TraceData) (request : TraceRequest) (result : EntityTraceStateMap) : Prop :=
  ∀ evmAddress, Involved data request evmAddress → (result.get evmAddress).isSome = true

/-- Whatever is cached or was served has an entry for all entities. -/
structure Tracer.Complete (data : TraceData) (tracer : Tracer) : Prop where
  cached : ∀ request result, tracer.cache request.key = some result → HasAll data request result
  served : ∀ trace ∈ tracer.served, HasAll data trace.1 trace.2

/-- The entity as the answers resolve it. -/
def resolution (answers : Answers data) (entity : AccountEntity) : Option ResolvedEntity :=
  (resolveEntityType entity.lookup).answeredBy answers.answer

/-- No request that the entity takes fails: the balance and the state are asked for a contract. -/
def Read (answers : Answers data) (entity : AccountEntity) (evmAddress : String) : Prop :=
  ∃ response, resolution answers entity = some response ∧ evmAddressOf response.entity = some evmAddress ∧
    match response.type with
    | .TOKEN => False
    | .ACCOUNT => True
    | .CONTRACT =>
        let contractId := ownField response.entity "contract_id"
        (answers.answer (.getBalanceAtTimestamp entity.address contractId entity.timestamp)).join.isSome = true ∧
          (answers.answer (.getContractState entity.address contractId entity.timestamp)).isSome = true

def AllRead (answers : Answers data) (request : TraceRequest) : Prop :=
  ∀ evmAddress, Involved data request evmAddress →
    ∃ entity ∈ accountEntities (request.actions data), Read answers entity evmAddress

/-- A call that asks for the actions, and gets them, reads all entities. -/
def ReadsAll (tracer : Tracer) : TraceLabel data → Prop
  | .finish position answers =>
      ∀ request next, tracer.pending[position]? =
          some { request, program := .call (.getContractsResultsActions request.transactionHash) next } →
        (answers.answer (.getContractsResultsActions request.transactionHash)).join.isSome = true →
          AllRead answers request
  | _ => True

/-- The step leads to a state that is complete. -/
def StaysComplete (tracer : Tracer) (label : TraceLabel data) : Prop :=
  ∀ after, tracer.serve label = some after → after.Complete data

/-! What a call does after it has read the cache. -/

variable {answers : Answers data} {entity : AccountEntity} {evmAddress : String} {request : TraceRequest}
  {cache : String → Option EntityTraceStateMap}

/-- An operation that the cache has no part in. -/
def Requested (answer : (op : DebugOp) → op.Answer) (op : DebugOp) : Prop :=
  ∀ cache, perform answer op cache = (answer op, cache)

private theorem asks_readEntity (answer : (op : DebugOp) → op.Answer) (entity : AccountEntity) :
    (readEntity entity).run.Asks (Requested answer) := by
  unfold readEntity
  rw [ExceptT.run_bind_lift]
  apply Prog.Asks.bind
  · exact Prog.Asks.translate _ fun op => ⟨fun _ => rfl, fun _ => trivial⟩
  · intro found
    cases found with
    | none => trivial
    | some response =>
      obtain ⟨type, found⟩ := response
      cases evm : evmAddressOf found with
      | none => simp [evm]
      | some evmAddress =>
        cases type with
        | TOKEN | ACCOUNT => simp [evm]
        | CONTRACT =>
          simp only [evm]
          refine asks_bindExcept ⟨fun _ => rfl, fun balances => ⟨fun _ => rfl, fun items => ?_⟩⟩ fun _ => trivial
          rcases balances with _ | _ | balances <;> cases items <;> trivial

private theorem asks_processEntity (answer : (op : DebugOp) → op.Answer) (entity : AccountEntity) :
    (processEntity entity).Asks (Requested answer) := by
  apply (asks_readEntity answer entity).bind
  intro outcome
  cases outcome <;> trivial

private theorem answeredBy_processEntity :
    (processEntity entity).answeredBy answers.answer =
      ((readEntity entity).run.answeredBy answers.answer).toOption.join := by
  rw [processEntity, Prog.answeredBy_bind]
  cases (readEntity entity).run.answeredBy answers.answer <;> rfl

/-- A contract is read exactly if its balance and its state are answered. -/
theorem answeredBy_readContract (answers : Answers data) (entity : AccountEntity) (found : Json) :
    (∃ state, (readContract entity found).run.answeredBy answers.answer = .ok state) ↔
      let contractId := ownField found "contract_id"
      (answers.answer (.getBalanceAtTimestamp entity.address contractId entity.timestamp)).join.isSome = true ∧
        (answers.answer (.getContractState entity.address contractId entity.timestamp)).isSome = true := by
  rw [readContract, await, await, ExceptT.run_bind_lift, Prog.answeredBy_bind, ExceptT.run_bind_lift,
    Prog.answeredBy_bind]
  simp only [Prog.op, Prog.answeredBy_call, Prog.answeredBy_done]
  rcases answers.answer (.getBalanceAtTimestamp entity.address (ownField found "contract_id") entity.timestamp) with
    _ | _ | balances
  · simp [answered]
  · simp [answered]
  · cases answers.answer (.getContractState entity.address (ownField found "contract_id") entity.timestamp) with
    | none => simp [answered]
    | some items => simp [answered]

/-- An entity that is read has an entry. -/
theorem read_iff :
    Read answers entity evmAddress ↔
      ∃ state, (processEntity entity).answeredBy answers.answer = some (evmAddress, state) := by
  have resolved : (resolveEntityType entity.lookup).answeredBy answers.answer = resolution answers entity := rfl
  rw [answeredBy_processEntity, readEntity, ExceptT.run_bind_lift, Prog.answeredBy_bind, resolved, Read]
  cases resolution answers entity with
  | none => simp [Except.toOption]
  | some response =>
    obtain ⟨type, found⟩ := response
    cases evm : evmAddressOf found with
    | none => simp [evm, Except.toOption]
    | some held =>
      cases type with
      | TOKEN => simp [evm, Except.toOption]
      | ACCOUNT => simp [evm, Except.toOption]
      | CONTRACT =>
        have reads := answeredBy_readContract answers entity found
        simp only [evm, ExceptT.run_bind, Prog.answeredBy_bind]
        cases ended : (readContract entity found).run.answeredBy answers.answer with
        | error error =>
          rw [ended] at reads
          simp [Except.toOption, evm, ← reads]
        | ok state =>
          rw [ended] at reads
          simp [Except.toOption, evm, ← reads]

/-- In whatever order the calls settle, there is an entry for each of them that ended with one. -/
theorem isSome_get_collect {entries : List (Option (String × EntityTraceState))} {order : List Nat}
    (all : order.Perm (List.range entries.length)) :
    ((collect entries order).get evmAddress).isSome = true ↔ ∃ state, some (evmAddress, state) ∈ entries := by
  rw [collect, Table.isSome_get_foldl_assign Prod.fst Prod.snd]
  constructor
  · intro found
    rcases found with absent | ⟨⟨_, state⟩, member, rfl⟩
    · simp at absent
    · obtain ⟨position, -, held⟩ := List.mem_filterMap.mp member
      exact ⟨state, List.mem_of_getElem? (Option.join_eq_some_iff.mp held)⟩
  · intro found
    obtain ⟨state, member⟩ := found
    obtain ⟨position, held⟩ := List.mem_iff_getElem?.mp member
    have within : position ∈ order := by
      rw [all.mem_iff, List.mem_range]
      exact (List.getElem?_eq_some_iff.mp held).1
    exact .inr ⟨(evmAddress, state), List.mem_filterMap.mpr ⟨position, within, by rw [held]; rfl⟩, rfl⟩

/-- What a call with these answers collects. -/
def prestate (answers : Answers data) (request : TraceRequest) : EntityTraceStateMap :=
  let entities := accountEntities (request.actions data)
  collect (entities.map fun entity => (processEntity entity).answeredBy answers.answer)
    (answers.answer (.settling entities.length)).val

/-- The result has all entities exactly if all of them are read. -/
theorem hasAll_prestate_iff : HasAll data request (prestate answers request) ↔ AllRead answers request := by
  have perm := (answers.answer (.settling (accountEntities (request.actions data)).length)).property
  apply forall₂_congr
  intro evmAddress involved
  rw [prestate, isSome_get_collect (by rwa [List.length_map])]
  simp only [List.mem_map, read_iff]
  constructor
  · rintro ⟨state, entity, member, entry⟩
    exact ⟨entity, member, state, entry⟩
  · rintro ⟨entity, member, state, entry⟩
    exact ⟨state, entity, member, entry⟩

/-- Where the actions mention nothing, there is nothing to read. -/
theorem not_involved_of_empty (empty : (accountEntities (request.actions data)).length = 0) :
    ¬ Involved data request evmAddress := by
  rintro ⟨entity, mentioned, -⟩
  have key : ((addressMap (request.actions data)).get entity.address).isSome = true :=
    (Table.isSome_get_foldl_assign AccountEntity.address id _ _ _).mpr (.inr ⟨entity, mentioned, rfl⟩)
  rw [← Table.mem_keys_iff, List.mem_map] at key
  obtain ⟨entry, member, -⟩ := key
  rw [accountEntities, List.length_map, List.length_eq_zero_iff] at empty
  rw [empty] at member
  exact List.not_mem_nil member

private theorem eval_mapM_processEntity (answer : (op : DebugOp) → op.Answer) (entities : List AccountEntity)
    (cache : String → Option EntityTraceStateMap) :
    (entities.mapM processEntity).eval (perform answer) cache =
      (entities.map fun entity => (processEntity entity).answeredBy answer, cache) := by
  have asks : (entities.mapM processEntity).Asks (Requested answer) :=
    Prog.Asks.mapM fun entity _ => asks_processEntity answer entity
  rw [asks.eval cache, Prog.answeredBy_mapM]

private theorem eval_fetchPrestate_failed (answers : Answers data) (request : TraceRequest)
    (failed : (answers.answer (.getContractsResultsActions request.transactionHash)).join.isSome = false)
    (cache : String → Option EntityTraceStateMap) :
    ∃ error, (fetchPrestate request.transactionHash request.onlyTopCall).run.eval (perform answers.answer) cache =
      (.error error, cache) := by
  cases given : answers.answer (.getContractsResultsActions request.transactionHash) with
  | none =>
    refine ⟨.mirrorNode, ?_⟩
    rw [fetchPrestate, await, ExceptT.run_bind_lift, Prog.eval_bind, Prog.eval_op]
    simp [perform, given, answered]
  | some response =>
    rw [given] at failed
    cases response with
    | none =>
      refine ⟨.rpc (RESOURCE_NOT_FOUND
        s!"Failed to retrieve contract results for transaction {request.transactionHash}"), ?_⟩
      rw [fetchPrestate, await, ExceptT.run_bind_lift, Prog.eval_bind, Prog.eval_op]
      simp [perform, given, answered]
    | some actions => cases failed

/-- A call with the actions has a result, and caches it unless there are no entities. -/
theorem eval_fetchPrestate (answers : Answers data) (request : TraceRequest)
    (given : (answers.answer (.getContractsResultsActions request.transactionHash)).join.isSome = true)
    (cache : String → Option EntityTraceStateMap) :
    (fetchPrestate request.transactionHash request.onlyTopCall).run.eval (perform answers.answer) cache =
      if (accountEntities (request.actions data)).length = 0 then (.ok .empty, cache)
      else (.ok (prestate answers request), Function.update cache request.key (some (prestate answers request))) := by
  obtain ⟨actions, response⟩ := Option.isSome_iff_exists.mp given
  rw [Option.join_eq_some_iff] at response
  obtain rfl := answers.actions request.transactionHash actions response
  rw [fetchPrestate, await, ExceptT.run_bind_lift, Prog.eval_bind, Prog.eval_op]
  simp only [perform, response, answered, pure_bind]
  change Prog.eval _ (ExceptT.run (if (accountEntities (request.actions data)).length = 0 then _ else _)) _ = _
  by_cases empty : (accountEntities (request.actions data)).length = 0
  · rw [if_pos empty, if_pos empty]
    rfl
  · rw [if_neg empty, if_neg empty, ExceptT.run_bind_lift, Prog.eval_bind, eval_mapM_processEntity]
    rfl

theorem key_eq (transactionHash : String) (onlyTopCall : Bool) :
    TraceRequest.key ⟨transactionHash, onlyTopCall⟩ =
      "prestateTracer_" ++ transactionHash ++ "_" ++ toString onlyTopCall := rfl

/-- The keys of different calls are different. -/
theorem key_injective : Function.Injective TraceRequest.key := by
  rintro ⟨transactionHash, onlyTopCall⟩ ⟨other, top⟩ same
  rw [key_eq, key_eq] at same
  generalize "prestateTracer_" = start at same
  have texts := congrArg (List.reverse ∘ String.toList) same
  simp only [Function.comp, String.toList_append, List.reverse_append] at texts
  cases onlyTopCall <;> cases top <;> simp [toString] at texts
  · exact congrArg (TraceRequest.mk · false) (String.toList_inj.mp texts)
  · exact congrArg (TraceRequest.mk · true) (String.toList_inj.mp texts)

/-! The invariant of runs. -/

/-- A call that was not served yet: it reads the cache, or fetches, or found a result. -/
inductive InProgress (data : TraceData) : PendingTrace → Prop where
  | reads (request : TraceRequest) :
      InProgress data { request, program := (prestateTracer request.transactionHash request.onlyTopCall).run }
  | fetches (request : TraceRequest) :
      InProgress data { request, program := (fetchPrestate request.transactionHash request.onlyTopCall).run }
  | found (request : TraceRequest) (result : EntityTraceStateMap) (complete : HasAll data request result) :
      InProgress data { request, program := .done (.ok result) }

structure Consistent (data : TraceData) (tracer : Tracer) : Prop where
  complete : tracer.Complete data
  pending : ∀ pending ∈ tracer.pending, InProgress data pending

variable {tracer before after : Tracer} {position : Nat} {result : EntityTraceStateMap} {label : TraceLabel data}

theorem consistent_initial : Consistent data .initial where
  complete := { cached := nofun, served := List.forall_mem_nil _ }
  pending := List.forall_mem_nil _

private theorem serve_finish_reads (program : tracer.pending[position]? =
      some { request, program := (prestateTracer request.transactionHash request.onlyTopCall).run }) :
    tracer.serve (.finish position answers) = none := by
  simp only [Tracer.serve, program]
  rfl

theorem serve_finish_fetches (program : tracer.pending[position]? =
      some { request, program := (fetchPrestate request.transactionHash request.onlyTopCall).run }) :
    tracer.serve (.finish position answers) = some (tracer.finish position
      { request, program := (fetchPrestate request.transactionHash request.onlyTopCall).run } answers) := by
  simp only [Tracer.serve, program]
  rfl

private theorem serve_finish_found (program : tracer.pending[position]? = some { request, program := .done (.ok result) }) :
    tracer.serve (.finish position answers) =
      some (tracer.finish position { request, program := .done (.ok result) } answers) := by
  simp only [Tracer.serve, program]

/-- A call that read the cache found a complete result, or it fetches. -/
theorem inProgress_readCache (complete : tracer.Complete data) {cacheKey : String}
    {next : Option EntityTraceStateMap → Requests (Except DebugError EntityTraceStateMap)}
    (progress : InProgress data { request, program := .call (.getCachedPrestate cacheKey) next }) :
    InProgress data { request, program := next (tracer.cache cacheKey) } := by
  generalize named : PendingTrace.mk request (.call (.getCachedPrestate cacheKey) next) = pending at progress
  cases progress with
  | reads other =>
    cases named
    cases cached : tracer.cache (prestateKey request.transactionHash request.onlyTopCall) with
    | none => exact .fetches request
    | some result => exact .found request result (complete.cached request result cached)
  | fetches other => cases named
  | found other result complete => cases named

/-- A call that ends leaves a complete state where its result and the cache are complete. -/
theorem complete_finish (complete : tracer.Complete data) {pending : PendingTrace}
    {outcome : Except DebugError EntityTraceStateMap}
    (ended : pending.program.eval (perform answers.answer) tracer.cache = (outcome, cache))
    (cached : ∀ request result, cache request.key = some result → HasAll data request result)
    (returned : ∀ result, outcome = .ok result → HasAll data pending.request result) :
    (tracer.finish position pending answers).Complete data := by
  rw [Tracer.finish, ended]
  refine ⟨cached, ?_⟩
  intro trace member
  rcases List.mem_append.mp member with earlier | own
  · exact complete.served trace earlier
  · cases outcome with
    | error error => cases own
    | ok result =>
      obtain rfl := List.mem_singleton.mp own
      exact returned result rfl

private theorem hasAll_of_update (complete : tracer.Complete data) (hasAll : HasAll data request result)
    (other : TraceRequest) (held : EntityTraceStateMap)
    (cached : Function.update tracer.cache request.key (some result) other.key = some held) :
    HasAll data other held := by
  by_cases same : other.key = request.key
  · obtain rfl := key_injective same
    rw [Function.update_self] at cached
    cases cached
    exact hasAll
  · rw [Function.update_of_ne same] at cached
    exact complete.cached other held cached

/-- A fetch that got the actions leaves a complete state exactly if it read all entities. -/
theorem complete_fetched_iff (complete : tracer.Complete data)
    (given : (answers.answer (.getContractsResultsActions request.transactionHash)).join.isSome = true) :
    (tracer.finish position { request, program := (fetchPrestate request.transactionHash request.onlyTopCall).run }
        answers).Complete data ↔ AllRead answers request := by
  have ended := eval_fetchPrestate answers request given tracer.cache
  by_cases empty : (accountEntities (request.actions data)).length = 0
  · rw [if_pos empty] at ended
    have nothing : ∀ evmAddress, ¬ Involved data request evmAddress := fun _ => not_involved_of_empty empty
    constructor
    · intro _ evmAddress involved
      exact absurd involved (nothing evmAddress)
    · intro _
      apply complete_finish complete ended complete.cached
      intro result _ evmAddress involved
      exact absurd involved (nothing evmAddress)
  · rw [if_neg empty] at ended
    rw [← hasAll_prestate_iff]
    constructor
    · intro after
      apply after.cached request
      rw [Tracer.finish, ended]
      exact Function.update_self ..
    · intro hasAll
      apply complete_finish complete ended (hasAll_of_update complete hasAll)
      rintro result ⟨⟩
      exact hasAll

theorem serve_readCache (taken : tracer.serve (.readCache position : TraceLabel data) = some after) :
    ∃ request cacheKey next,
      tracer.pending[position]? = some { request, program := .call (.getCachedPrestate cacheKey) next } ∧
        after = { tracer with
          pending := tracer.pending.set position { request, program := next (tracer.cache cacheKey) } } := by
  simp only [Tracer.serve] at taken
  split at taken
  · next request cacheKey next held =>
      cases taken
      exact ⟨request, cacheKey, next, held, rfl⟩
  · cases taken

private theorem cached_of_expired {cacheKey : String}
    (cached : Function.update tracer.cache cacheKey none request.key = some result) :
    tracer.cache request.key = some result := by
  by_cases same : request.key = cacheKey
  · rw [same, Function.update_self] at cached
    cases cached
  · rwa [Function.update_of_ne same] at cached

/-- The step at the end of a call. -/
theorem staysComplete_finish_iff (complete : tracer.Complete data) {pending : PendingTrace}
    (held : tracer.pending[position]? = some pending) (progress : InProgress data pending) :
    StaysComplete tracer (.finish position answers) ↔ ReadsAll tracer (.finish position answers) := by
  cases progress with
  | reads request =>
    constructor
    · intro _ other next same
      rw [held] at same
      cases same
    · intro _ after taken
      rw [serve_finish_reads held] at taken
      cases taken
  | fetches request =>
    constructor
    · intro stays other next same given
      obtain rfl : request = other := congrArg PendingTrace.request (Option.some.inj (held.symm.trans same))
      exact (complete_fetched_iff complete given).mp (stays _ (serve_finish_fetches held))
    · intro reads after taken
      rw [serve_finish_fetches held] at taken
      cases taken
      cases given : (answers.answer (.getContractsResultsActions request.transactionHash)).join.isSome with
      | true => exact (complete_fetched_iff complete given).mpr (reads request _ held given)
      | false =>
        obtain ⟨error, ended⟩ := eval_fetchPrestate_failed answers request given tracer.cache
        apply complete_finish complete ended complete.cached
        rintro result ⟨⟩
  | found request result hasAll =>
    constructor
    · intro _ other next same
      rw [held] at same
      cases same
    · intro _ after taken
      rw [serve_finish_found held] at taken
      cases taken
      have ended : (Prog.done (.ok result) : Requests (Except DebugError EntityTraceStateMap)).eval
          (perform answers.answer) tracer.cache = (.ok result, tracer.cache) := rfl
      apply complete_finish complete ended complete.cached
      rintro result ⟨⟩
      exact hasAll

/-- Only a call that fetches can leave a state that is not complete. -/
theorem staysComplete_iff (consistent : Consistent data tracer) :
    StaysComplete tracer label ↔ ReadsAll tracer label := by
  have complete := consistent.complete
  cases label with
  | call request =>
    refine ⟨fun _ => trivial, fun _ after taken => ?_⟩
    cases taken
    exact ⟨complete.cached, complete.served⟩
  | readCache position =>
    refine ⟨fun _ => trivial, fun _ after taken => ?_⟩
    obtain ⟨request, cacheKey, next, -, rfl⟩ := serve_readCache taken
    exact ⟨complete.cached, complete.served⟩
  | expire cacheKey =>
    refine ⟨fun _ => trivial, fun _ after taken => ?_⟩
    cases taken
    exact ⟨fun request result cached => complete.cached request result (cached_of_expired cached), complete.served⟩
  | finish position answers =>
    cases held : tracer.pending[position]? with
    | none =>
      constructor
      · intro _ request next same
        rw [held] at same
        cases same
      · intro _ after taken
        simp only [Tracer.serve, held] at taken
        cases taken
    | some pending =>
      exact staysComplete_finish_iff complete held (consistent.pending pending (List.mem_of_getElem? held))

/-- A step that leads to a complete state keeps the calls in progress. -/
theorem Consistent.step (consistent : Consistent data before) (stays : StaysComplete before label)
    (taken : before.serve label = some after) : Consistent data after := by
  refine ⟨stays after taken, ?_⟩
  intro pending member
  cases label with
  | call request =>
    cases taken
    rcases List.mem_append.mp member with earlier | own
    · exact consistent.pending pending earlier
    · obtain rfl := List.mem_singleton.mp own
      exact .reads request
  | readCache position =>
    obtain ⟨request, cacheKey, next, held, rfl⟩ := serve_readCache taken
    rcases List.mem_or_eq_of_mem_set member with earlier | rfl
    · exact consistent.pending pending earlier
    · exact inProgress_readCache consistent.complete (consistent.pending _ (List.mem_of_getElem? held))
  | expire cacheKey =>
    cases taken
    exact consistent.pending pending member
  | finish position answers =>
    simp only [Tracer.serve] at taken
    split at taken
    · cases taken
    · cases taken
    · cases taken
      exact consistent.pending pending (List.mem_of_mem_eraseIdx member)

/-- In a run every state is complete exactly if every fetch reads all entities of its actions. -/
theorem cached_complete_iff (data : TraceData) (labels : List (TraceLabel data)) :
    Meets Tracer.serve StaysComplete .initial labels ↔ Meets Tracer.serve ReadsAll .initial labels := by
  have preserved : ∀ before label after, Consistent data before → StaysComplete before label →
      before.serve label = some after → Consistent data after := fun _ _ _ => Consistent.step
  exact meets_iff_of_preserved preserved (fun _ _ => staysComplete_iff) consistent_initial labels

/-- The requests for the entity reach the mirror node and none fails. -/
structure Healthy (answers : Answers data) (entity : AccountEntity) : Prop where
  resolved : ∃ first, ∀ op, answers.answer (.resolving entity.address op) = data.mirror.uncached first op
  balance : ∀ contractId,
    (answers.answer (.getBalanceAtTimestamp entity.address contractId entity.timestamp)).join.isSome = true
  state : ∀ contractId, (answers.answer (.getContractState entity.address contractId entity.timestamp)).isSome = true

/-- A lookup of one type has one answer. -/
theorem could_unique {response other : ResolvedEntity} (could : data.mirror.Could entity.lookup (some response))
    (again : data.mirror.Could entity.lookup (some other)) : response = other := by
  have first := MirrorData.could_some_iff.mp could
  have second := MirrorData.could_some_iff.mp again
  have type : entity.type = some response.type := Option.mem_toList.mp first.searched
  have same : entity.type = some other.type := Option.mem_toList.mp second.searched
  obtain ⟨kind, found⟩ := response
  obtain ⟨otherKind, otherFound⟩ := other
  obtain rfl : kind = otherKind := Option.some.inj (type.symm.trans same)
  obtain rfl : found = otherFound := Option.some.inj (first.entity.symm.trans second.entity)
  rfl

private theorem resolution_of_could (healthy : Healthy answers entity) {response : ResolvedEntity}
    (could : data.mirror.Could entity.lookup (some response)) : resolution answers entity = some response := by
  obtain ⟨first, same⟩ := healthy.resolved
  have uncached : resolution answers entity =
      (Entities.MirrorNodeClient.resolveEntityType entity.lookup).answeredBy (data.mirror.uncached first) := by
    rw [resolution, resolveEntityType, Prog.answeredBy_translate]
    exact congrArg (Prog.answeredBy · _) (funext same)
  obtain ⟨other, found⟩ := Option.isSome_iff_exists.mp (MirrorData.isSome_of_could could first)
  rw [uncached, found, could_unique could ⟨first, found⟩]

/-- Where nothing fails and the mentions of an address agree, all entities are read. -/
theorem allRead_of_healthy
    (agree : ∀ entity ∈ (request.actions data).flatMap mentions, entity ∈ accountEntities (request.actions data))
    (healthy : ∀ entity ∈ accountEntities (request.actions data), Healthy answers entity) :
    AllRead answers request := by
  rintro evmAddress ⟨entity, mentioned, response, could, notToken, evm⟩
  have read := healthy entity (agree entity mentioned)
  refine ⟨entity, agree entity mentioned, response, resolution_of_could read could, evm, ?_⟩
  · cases type : response.type with
    | TOKEN => exact notToken type
    | ACCOUNT => trivial
    | CONTRACT => exact ⟨read.balance _, read.state _⟩

/-! A contract whose balance cannot be read at first. -/

def exampleAction : ContractAction where
  callDepth := 0
  callOperationType := "CALL"
  callType := "CALL"
  callerType := none
  fromAddress := none
  gas := .given (.number 21000)
  gasUsed := .given (.number 21000)
  input := .given "0x"
  recipientType := some .CONTRACT
  resultData := .given "0x"
  timestamp := "1.5"
  toAddress := some "0xc1"
  value := .given (.number 0)

def exampleContract : Json :=
  .obj [("contract_id", .str "0.0.7"), ("evm_address", .str "0xe1"), ("nonce", .num 1)]

def exampleData : TraceData where
  mirror path :=
    if path = Entities.MirrorNodeClient.contractPath "0xc1" (some "1.5") then
      some exampleContract
    else none
  actions _ := [exampleAction]

/-- Everything is answered except for, at first, the balance. -/
def exampleAnswers (balanceResponse : Option (Option (List (Redis.Field Redis.JsInteger)))) : Answers exampleData where
  answer
    | .getCachedPrestate _ => none
    | .setCachedPrestate _ _ => ()
    | .getContractsResultsActions _ => some (some [exampleAction])
    | .resolving _ op => exampleData.mirror.uncached 0 op
    | .getBalanceAtTimestamp _ _ _ => balanceResponse
    | .getContractState _ _ _ => some []
    | .settling calls => ⟨List.range calls, List.Perm.refl _⟩
    | .getHistoricalBlockResponse _ | .getContractResults _ | .getContractResult _ | .getContract _ => none
  actions := by
    rintro _ _ ⟨⟩
    rfl

def exampleRequest : TraceRequest where
  transactionHash := "0x1f"
  onlyTopCall := false

/-- The second call is answered from the cache, though the mirror node has recovered. -/
def exampleLabels : List (TraceLabel exampleData) :=
  [.call exampleRequest, .readCache 0, .finish 0 (exampleAnswers none),
    .call exampleRequest, .readCache 0, .finish 0 (exampleAnswers (some (some [.given (.number 5)])))]

theorem partial_result_cached : ¬ ∀ (data : TraceData) (labels : List (TraceLabel data)),
    Meets Tracer.serve StaysComplete .initial labels := by
  intro always
  have meets := always exampleData exampleLabels
  have complete := (((((meets.2 _ rfl).2 _ rfl).2 _ rfl).2 _ rfl).2 _ rfl).1 _ rfl
  have involved : Involved exampleData exampleRequest "0xe1" := by
    refine ⟨{ address := "0xc1", type := some .CONTRACT, timestamp := "1.5" }, ?_,
      { type := .CONTRACT, entity := exampleContract }, ⟨0, ?_⟩, by decide, ?_⟩
    · decide +kernel
    · decide +kernel
    · decide +kernel
  have servedLater := complete.served (exampleRequest, .empty) ?_ "0xe1" involved
  · cases servedLater
  · exact List.mem_append_right _ (List.mem_singleton.mpr rfl)

end HieroRelay.Debug
