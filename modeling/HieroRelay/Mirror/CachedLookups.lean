import HieroRelay.Js.Value
import HieroRelay.Lib.Memo

/-! The lookups of the mirror node that go through the cache. Any number of them run at the
same time, while entries expire and the mirror node learns of more. -/

namespace HieroRelay.Mirror.Caching

open HieroRelay.Js (Json getProperty isString ownField truthy)
open HieroRelay.Lib (Asked LruEntry Meaning Memo MemoOp Prog Protocol TtlStore run)

/-- A failed request, or an exception of the runtime about its answer. -/
inductive LookupError where
  | mirrorNode (statusCode : Nat)
  | typeError (message : String)
  deriving Repr, DecidableEq

/-- The mirror node by paths; null is its answer for what it does not have. -/
abbrev LookupOp := MemoOp String Json String (Except LookupError Json)

abbrev Looking (Result : Type) := ExceptT LookupError (Prog LookupOp MemoOp.Answer) Result

/-- What a lookup returns, and what it leaves in the cache. -/
structure Looked where
  value : Json
  stored : Option Json
  deriving Repr, DecidableEq

def ONE_DAY : Nat := 86400000

def FIFTEEN_MINUTES : Nat := 900000

namespace MirrorNodeClient

def cacheResponse (cachedLabel : String) (ttl : Nat) : Option Json → Looking Unit
  | some value => ExceptT.lift (Prog.op (MemoOp.write cachedLabel value ttl : LookupOp))
  | none => return ()

/-- A lookup with its label in the cache, the entries it takes, its path, what it makes of the
answer and how long that is kept. -/
def lookup (cachedLabel : String) (hit : Json → Bool) (path : String) (read : Json → Except LookupError Looked)
    (ttl : Nat) : Looking Json := do
  match (← ExceptT.lift (Prog.op (MemoOp.read cachedLabel : LookupOp))).filter hit with
  | some cachedResponse => return cachedResponse
  | none =>
      let response : Json ← ExceptT.mk (Prog.op (MemoOp.ask path : LookupOp))
      let looked : Looked ← ExceptT.mk (.done (read response))
      cacheResponse cachedLabel ttl looked.stored
      return looked.value

/-- `cachedResponse != undefined` -/
def isPresent (value : Json) : Bool := value != .null

def isTruthy (value : Json) : Bool := truthy (some value)

def readBlock (block : Json) : Except LookupError Looked :=
  .ok { value := block, stored := if isTruthy block then some block else none }

/-- `blocks && blocks.blocks.length > 0` -/
def readEarliestBlock (blocks : Json) : Except LookupError Looked :=
  if isTruthy blocks then
    match ownField blocks "blocks" with
    | none => .error (.typeError "Cannot read properties of undefined (reading 'length')")
    | some .null => .error (.typeError "Cannot read properties of null (reading 'length')")
    | some (.arr (block :: _)) => .ok { value := block, stored := some block }
    | some _ => .ok { value := .null, stored := none }
  else .ok { value := .null, stored := none }

def isGiven (field : Option Json) : Bool := field.any isPresent

/-- Only results that have their place in a block, and of success, are kept. -/
def cachesResponse (response : Json) : Bool :=
  isPresent response && isGiven (ownField response "transaction_index") &&
    isGiven (ownField response "block_number") && !isString (ownField response "block_hash") "0x" &&
    isString (ownField response "result") "SUCCESS"

def readContractResult (response : Json) : Except LookupError Looked :=
  .ok { value := response, stored := if cachesResponse response then some response else none }

/-- An account that is not there is stored as well. -/
def readAccount (account : Json) : Except LookupError Looked := .ok { value := account, stored := some account }

/-- `(await getNetworkExchangeRate(..)).current_rate`, of which two fields are read then. -/
def readExchangeRate (response : Json) : Except LookupError Looked :=
  match getProperty response "current_rate" with
  | .ok (some rate) => .ok { value := rate, stored := some rate }
  | .ok none => .error (.typeError "Cannot read properties of undefined (reading 'cent_equivalent')")
  | .error error => .error (.typeError error.message)

variable (CACHE_TTL : Nat)

def getBlock (hashOrBlockNumber : String) : Looking Json :=
  lookup ("getBlock." ++ hashOrBlockNumber) isTruthy ("blocks/" ++ hashOrBlockNumber) readBlock CACHE_TTL

def getEarliestBlock : Looking Json :=
  lookup "getBlock.earliest" isPresent "blocks?limit=1&order=asc" readEarliestBlock ONE_DAY

def getContractResult (transactionIdOrHash : String) : Looking Json :=
  lookup ("getContractResult." ++ transactionIdOrHash) isTruthy ("contracts/results/" ++ transactionIdOrHash)
    readContractResult 3600000

/-- `CommonService.getAccount` -/
def getAccount (address : String) : Looking Json :=
  lookup ("account_" ++ address) isTruthy ("accounts/" ++ address ++ "?transactions=false") readAccount CACHE_TTL

/-- The rate of `getCurrentNetworkExchangeRateInCents`. -/
def getCurrentNetworkExchangeRate : Looking Json :=
  lookup "currentNetworkExchangeRate" isTruthy "network/exchangerate" readExchangeRate FIFTEEN_MINUTES

end MirrorNodeClient

/-- The block `earliest` is not one that is looked up by its hash or number. -/
inductive Lookup where
  | block (hashOrBlockNumber : String) (named : hashOrBlockNumber ≠ "earliest")
  | earliestBlock
  | contractResult (transactionIdOrHash : String)
  | account (address : String)
  | networkExchangeRate
  deriving DecidableEq

namespace Lookup

variable (CACHE_TTL : Nat)

def call : Lookup → Looking Json
  | block hashOrBlockNumber _ => MirrorNodeClient.getBlock CACHE_TTL hashOrBlockNumber
  | earliestBlock => MirrorNodeClient.getEarliestBlock
  | contractResult transactionIdOrHash => MirrorNodeClient.getContractResult transactionIdOrHash
  | account address => MirrorNodeClient.getAccount CACHE_TTL address
  | networkExchangeRate => MirrorNodeClient.getCurrentNetworkExchangeRate

def cachedLabel : Lookup → String
  | block hashOrBlockNumber _ => "getBlock." ++ hashOrBlockNumber
  | earliestBlock => "getBlock.earliest"
  | contractResult transactionIdOrHash => "getContractResult." ++ transactionIdOrHash
  | account address => "account_" ++ address
  | networkExchangeRate => "currentNetworkExchangeRate"

def path : Lookup → String
  | block hashOrBlockNumber _ => "blocks/" ++ hashOrBlockNumber
  | earliestBlock => "blocks?limit=1&order=asc"
  | contractResult transactionIdOrHash => "contracts/results/" ++ transactionIdOrHash
  | account address => "accounts/" ++ address ++ "?transactions=false"
  | networkExchangeRate => "network/exchangerate"

def read : Lookup → Json → Except LookupError Looked
  | block _ _ => MirrorNodeClient.readBlock
  | earliestBlock => MirrorNodeClient.readEarliestBlock
  | contractResult _ => MirrorNodeClient.readContractResult
  | account _ => MirrorNodeClient.readAccount
  | networkExchangeRate => MirrorNodeClient.readExchangeRate

def ttl : Lookup → Nat
  | block _ _ => CACHE_TTL
  | earliestBlock => ONE_DAY
  | contractResult _ => 3600000
  | account _ => CACHE_TTL
  | networkExchangeRate => FIFTEEN_MINUTES

def hit : Lookup → Json → Bool
  | earliestBlock => MirrorNodeClient.isPresent
  | _ => MirrorNodeClient.isTruthy

private theorem call_eq (each : Lookup) : each.call CACHE_TTL =
    MirrorNodeClient.lookup each.cachedLabel each.hit each.path each.read (each.ttl CACHE_TTL) := by
  cases each <;> rfl

/-- The beginnings of the labels: only those of blocks are the same. -/
def beginning : Lookup → List Char
  | block _ _ | earliestBlock => ['g', 'e', 't', 'B']
  | contractResult _ => ['g', 'e', 't', 'C']
  | account _ => ['a', 'c', 'c', 'o']
  | networkExchangeRate => ['c', 'u', 'r', 'r']

theorem take_cachedLabel (each : Lookup) : each.cachedLabel.toList.take 4 = each.beginning := by
  cases each with
  | block hashOrBlockNumber _ =>
    change ("getBlock." ++ hashOrBlockNumber).toList.take 4 = ['g', 'e', 't', 'B']
    simp
  | earliestBlock => rfl
  | contractResult transactionIdOrHash =>
    change ("getContractResult." ++ transactionIdOrHash).toList.take 4 = ['g', 'e', 't', 'C']
    simp
  | account address =>
    change ("account_" ++ address).toList.take 4 = ['a', 'c', 'c', 'o']
    simp
  | networkExchangeRate => rfl

theorem blockLabel_ne_earliest {hashOrBlockNumber : String} (named : hashOrBlockNumber ≠ "earliest") :
    "getBlock." ++ hashOrBlockNumber ≠ "getBlock.earliest" := by
  intro same
  have texts := congrArg String.toList same
  simp only [String.toList_append] at texts
  exact named (String.toList_inj.mp (List.append_cancel_left texts))

/-- No two lookups share a label. -/
theorem cachedLabel_inj {each other : Lookup} (same : each.cachedLabel = other.cachedLabel) : each = other := by
  have beginnings : each.beginning = other.beginning := by rw [← take_cachedLabel, ← take_cachedLabel, same]
  cases each with
  | block hashOrBlockNumber named =>
    cases other with
    | block hash _ =>
      obtain rfl : hashOrBlockNumber = hash := (String.append_right_inj _).mp same
      rfl
    | earliestBlock => exact absurd same (blockLabel_ne_earliest named)
    | _ => simp [beginning] at beginnings
  | earliestBlock =>
    cases other with
    | block hash named => exact absurd same.symm (blockLabel_ne_earliest named)
    | earliestBlock => rfl
    | _ => simp [beginning] at beginnings
  | contractResult transactionIdOrHash =>
    cases other with
    | contractResult hash => rw [(String.append_right_inj _).mp same]
    | _ => simp [beginning] at beginnings
  | account address =>
    cases other with
    | account _ => rw [(String.append_right_inj _).mp same]
    | _ => simp [beginning] at beginnings
  | networkExchangeRate =>
    cases other with
    | networkExchangeRate => rfl
    | _ => simp [beginning] at beginnings

end Lookup

/-! What the answers of lookups are. -/

section Run
variable {Party : Type}

/-- What the mirror node was asked for, with its answers. -/
abbrev Requests (Party : Type) := List (Asked Party String (Except LookupError Json))

abbrev LookupMemo (Party : Type) := Memo Party String Json String (Except LookupError Json)

/-- An answer of the mirror node to the path of the lookup, until some time, that leaves a value
in the cache. -/
def Lookup.Stored (each : Lookup) (asked : Requests Party) (time : Nat) (value : Json) : Prop :=
  ∃ request ∈ asked, request.query = each.path ∧ request.time ≤ time ∧
    ∃ response looked, request.raw = .ok response ∧ each.read response = .ok looked ∧ looked.stored = some value

/-- An entry under the label of a lookup was left by such an answer. -/
def lookupMeaning (Party : Type) (CACHE_TTL : Nat) : Meaning Party String Json String (Except LookupError Json) where
  Stands asked cachedLabel entry := ∀ each : Lookup, cachedLabel = each.cachedLabel →
    entry.ttl = each.ttl CACHE_TTL ∧ each.Stored asked entry.start entry.value
  kept := by
    intro asked more cachedLabel entry stands each same
    obtain ⟨ttl, request, member, rest⟩ := stands each same
    exact ⟨ttl, request, List.mem_append_left more member, rest⟩

/-- The outcome is that of the party's own request, or a value that another answer to the same
path left in the cache within the time to live. -/
def Lookup.Answered (CACHE_TTL : Nat) (each : Lookup) (party : Party) (outcome : Except LookupError Json)
    (memo : LookupMemo Party) : Prop :=
  (∃ request ∈ memo.asked, request.party = party ∧ request.query = each.path ∧
      outcome = request.raw >>= fun response => (each.read response).map Looked.value) ∨
    ∃ value stored, outcome = .ok value ∧ each.hit value = true ∧ stored ≤ memo.now ∧
      memo.now ≤ stored + each.ttl CACHE_TTL ∧ each.Stored memo.asked stored value

variable {CACHE_TTL : Nat} {Other : Party → Prop} {party : Party} {each : Lookup} {memo : LookupMemo Party}

/-- The party has asked for the path, and was given the answer. -/
def Given (each : Lookup) (party : Party) (raw : Except LookupError Json) (memo : LookupMemo Party) : Prop :=
  ∃ request ∈ memo.asked, request.party = party ∧ request.query = each.path ∧ request.time ≤ memo.now ∧
    request.raw = raw

theorem Given.later {raw : Except LookupError Json} {later : LookupMemo Party} (given : Given each party raw memo)
    (before : memo.Before later) : Given each party raw later := by
  obtain ⟨request, member, own, query, time, told⟩ := given
  exact ⟨request, before.asked.subset member, own, query, Nat.le_trans time before.time, told⟩

theorem Given.answered {raw : Except LookupError Json} (given : Given each party raw memo) :
    each.Answered CACHE_TTL party (raw >>= fun response => (each.read response).map Looked.value) memo := by
  obtain ⟨request, member, own, query, -, rfl⟩ := given
  exact .inl ⟨request, member, own, query, rfl⟩

/-- What such an answer leaves in the cache stands there. -/
theorem Given.stands {response value : Json} {looked : Looked} (given : Given each party (.ok response) memo)
    (read : each.read response = .ok looked) (stored : looked.stored = some value) :
    (lookupMeaning Party CACHE_TTL).Stands memo.asked each.cachedLabel
      { value, start := memo.now, ttl := each.ttl CACHE_TTL } := by
  intro other same
  obtain rfl := Lookup.cachedLabel_inj same
  obtain ⟨request, member, -, query, time, told⟩ := given
  exact ⟨rfl, request, member, query, time, response, looked, told, read, stored⟩

private theorem reaches_cacheResponse {response : Json} {looked : Looked} (given : Given each party (.ok response) memo)
    (read : each.read response = .ok looked) :
    (Memo.protocol (lookupMeaning Party CACHE_TTL) Other).Reaches party
      (fun outcome later => outcome = .ok () ∧ Given each party (.ok response) later)
      (MirrorNodeClient.cacheResponse each.cachedLabel (each.ttl CACHE_TTL) looked.stored).run memo := by
  cases stored : looked.stored with
  | none => exact Protocol.reaches_done ⟨rfl, given⟩
  | some value =>
    have writes : (Memo.protocol (lookupMeaning Party CACHE_TTL) Other).Reaches party
        (fun _ later => Given each party (.ok response) later)
        (Prog.op (MemoOp.write each.cachedLabel value (each.ttl CACHE_TTL) : LookupOp)) memo := by
      apply Memo.reaches_write
      intro later before
      have held := given.later before
      exact ⟨held.stands read stored, held.later Memo.before_write⟩
    apply Protocol.Reaches.bind writes
    intro _ reached held
    exact Protocol.reaches_done ⟨rfl, held⟩

/-- A lookup that asks the mirror node. -/
theorem reaches_asking :
    (Memo.protocol (lookupMeaning Party CACHE_TTL) Other).Reaches party (each.Answered CACHE_TTL party)
      (do
        let response : Json ← ExceptT.mk (Prog.op (MemoOp.ask each.path : LookupOp))
        let looked : Looked ← ExceptT.mk (.done (each.read response))
        MirrorNodeClient.cacheResponse each.cachedLabel (each.ttl CACHE_TTL) looked.stored
        return looked.value : Looking Json).run memo := by
  rw [ExceptT.run_bind]
  have asks : (Memo.protocol (lookupMeaning Party CACHE_TTL) Other).Reaches party (Given each party)
      (Prog.op (MemoOp.ask each.path : LookupOp)) memo := by
    apply Memo.reaches_ask
    intro later _
    exact ⟨_, List.mem_append_right _ (List.mem_singleton_self _), rfl, rfl, Nat.le_refl _, rfl⟩
  apply Protocol.Reaches.bind asks
  intro raw asked given
  cases raw with
  | error error => exact Protocol.reaches_done given.answered
  | ok response =>
    cases read : each.read response with
    | error error =>
      have failed : each.Answered CACHE_TTL party _ asked := given.answered
      rw [Js.ok_bind, read] at failed
      simp only [ExceptT.run_bind, ExceptT.run_mk, read]
      exact Protocol.reaches_done failed
    | ok looked =>
      simp only [ExceptT.run_bind, ExceptT.run_mk, read]
      apply Protocol.Reaches.bind (reaches_cacheResponse given read)
      rintro _ reached ⟨rfl, held⟩
      have returned : each.Answered CACHE_TTL party _ reached := held.answered
      rw [Js.ok_bind, read] at returned
      exact Protocol.reaches_done returned

private theorem reaches_call (positive : 0 < CACHE_TTL) :
    (Memo.protocol (lookupMeaning Party CACHE_TTL) Other).Reaches party (each.Answered CACHE_TTL party)
      (each.call CACHE_TTL).run memo := by
  have unlimited : each.ttl CACHE_TTL ≠ 0 := by
    cases each with
    | block _ _ | account _ => exact Nat.ne_of_gt positive
    | earliestBlock => exact Nat.succ_ne_zero _
    | contractResult _ => exact Nat.succ_ne_zero _
    | networkExchangeRate => exact Nat.succ_ne_zero _
  have reads : (Memo.protocol (lookupMeaning Party CACHE_TTL) Other).Reaches party
      (fun found later => ∀ value, found = some value → each.hit value = true →
        each.Answered CACHE_TTL party (.ok value) later)
      (Prog.op (MemoOp.read each.cachedLabel : LookupOp)) memo := by
    apply Memo.reaches_read
    intro later _ sound value found hit
    obtain ⟨stored, ttl, before, time, stands⟩ := sound.read found
    obtain ⟨rfl, left⟩ := stands each rfl
    exact .inr ⟨value, stored, rfl, hit, before, time.resolve_left unlimited, left⟩
  rw [Lookup.call_eq, MirrorNodeClient.lookup, ExceptT.run_bind_lift]
  apply Protocol.Reaches.bind reads
  intro found reached answered
  cases usable : found.filter each.hit with
  | none => exact reaches_asking
  | some value =>
    obtain ⟨there, hit⟩ := Option.filter_eq_some_iff.mp usable
    exact Protocol.reaches_done (answered value there hit)

variable [DecidableEq Party]

/-- Whatever runs at the same time, a lookup is answered as the mirror node answered its path: to
the lookup itself, or to another one whose answer was stored within the time to live. -/
theorem lookup_answered (positive : 0 < CACHE_TTL) (lookupOf : Party → Option Lookup)
    (mirrorNode : String → Except LookupError Json)
    {config final : (Memo.protocol (lookupMeaning Party CACHE_TTL) fun party => lookupOf party = none).Config
      (Except LookupError Json)}
    {schedule : List Party} (start : config.shared = .initial mirrorNode)
    (calls : ∀ party each, lookupOf party = some each → config.programs party = (each.call CACHE_TTL).run)
    (permitted : (Memo.protocol (lookupMeaning Party CACHE_TTL) fun party => lookupOf party = none).Permitted config
      schedule)
    (reached : run (Memo.protocol (lookupMeaning Party CACHE_TTL) fun party => lookupOf party = none).step config
      schedule = some final)
    {party : Party} {each : Lookup} (looksUp : lookupOf party = some each) {outcome : Except LookupError Json}
    (ended : final.programs party = .done outcome) :
    ∃ memo, memo.Before final.shared ∧ each.Answered CACHE_TTL party outcome memo := by
  have reaches : ∀ party, ¬ lookupOf party = none → ∀ memo : LookupMemo Party,
      (Memo.protocol (lookupMeaning Party CACHE_TTL) fun party => lookupOf party = none).Reaches party
        (fun outcome memo => ∀ each, lookupOf party = some each → each.Answered CACHE_TTL party outcome memo)
        (config.programs party) memo := by
    intro party own memo
    obtain ⟨each, looksUp⟩ := Option.ne_none_iff_exists'.mp own
    rw [calls party each looksUp]
    apply (reaches_call positive).weaken
    intro outcome reached answered other same
    obtain rfl := Option.some.inj (looksUp.symm.trans same)
    exact answered
  have own : ¬ lookupOf party = none := by simp [looksUp]
  obtain ⟨memo, answered, before⟩ :=
    Memo.reaches_run mirrorNode start reaches permitted reached party own outcome ended
  exact ⟨memo, before, answered each looksUp⟩

end Run

/-- Two lookups of one block, and a clock. -/
def twoLookups : Option Bool → Option Lookup
  | some _ => some (.block "5" (by decide))
  | none => none

/-- The mirror node has the block. -/
def oneBlock (path : String) : Except LookupError Json :=
  if path = "blocks/5" then .ok (.obj [("number", .num 5)]) else .ok .null

def twoLookupsConfig : (Memo.protocol (lookupMeaning (Option Bool) 3600000)
    fun party => twoLookups party = none).Config (Except LookupError Json) where
  shared := .initial oneBlock
  programs
    | some _ => (MirrorNodeClient.getBlock 3600000 "5").run
    | none => .call (.advance 3600000) fun _ => .done (.ok .null)

/-- The second lookup finds what the first one has stored an hour before. -/
theorem lookup_answered_twoLookups : ∃ final,
    run (Memo.protocol (lookupMeaning (Option Bool) 3600000) fun party => twoLookups party = none).step
      twoLookupsConfig [some true, some true, some true, none, some false] = some final ∧
    final.programs (some false) = .done (.ok (.obj [("number", .num 5)])) ∧
    ∃ memo : LookupMemo (Option Bool), memo.Before final.shared ∧
      (Lookup.block "5" (by decide)).Answered 3600000 (some false) (.ok (.obj [("number", .num 5)])) memo := by
  have ends : (run (Memo.protocol (lookupMeaning (Option Bool) 3600000) fun party => twoLookups party = none).step
      twoLookupsConfig [some true, some true, some true, none, some false]).map
        (fun final => final.programs (some false)) = some (.done (.ok (.obj [("number", .num 5)]))) := rfl
  obtain ⟨final, reached, ended⟩ := Option.map_eq_some_iff.mp ends
  have calls : ∀ party each, twoLookups party = some each →
      twoLookupsConfig.programs party = (each.call 3600000).run := by
    rintro (_ | _) each looksUp
    · cases looksUp
    · obtain rfl := Option.some.inj looksUp
      rfl
  have permitted : (Memo.protocol (lookupMeaning (Option Bool) 3600000) fun party => twoLookups party = none).Permitted
      twoLookupsConfig [some true, some true, some true, none, some false] := by
    have owned : ∀ party : Option Bool, party.isSome = true → ¬ twoLookups party = none := by
      intro party mine
      cases party with
      | none => cases mine
      | some _ => nofun
    exact Memo.permitted_of_checks owned rfl
  exact ⟨final, reached, ended,
    lookup_answered (by decide) twoLookups oneBlock rfl calls permitted reached rfl ended⟩

end HieroRelay.Mirror.Caching
