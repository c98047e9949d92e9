import HieroRelay.Accounts.NonceRequests

/-! The nonce at a block number is stable as long as every fresh answer is read where it is
right, and no block changes a nonce that is already settled for a block beyond the head. -/

namespace HieroRelay.Accounts

open HieroRelay.Lib

/-- The condition on an operation: the latest nonce is the one at the block; a list with
none or one transaction means so many; and the sender that is the address itself has used the
nonce of the transaction last. -/
def ReadsRight (address : String) (number : Nat) (view : NonceView) : NonceOp → Prop
  | .getAccount _ => view.ledger.head.nonceOf address = view.ledger.nonceAt address number
  | .getAccountLatestEthereumTransactionsByTimestamp _ timestampTo limit =>
      match view.ledger.latestTransactions address timestampTo limit with
      | none | some [] => view.ledger.nonceAt address number = 0
      | some [_] => view.ledger.nonceAt address number = 1
      | some (_ :: _ :: _) => True
  | .getSenderAccount sender => ∀ result account, view.result = some result →
      view.ledger.head.accounts sender = some account → account.evmAddress = address.toLower →
      view.ledger.nonceAt address number = result.nonce + 1
  | _ => True

/-- Every nonce that is cached is the one at its block, or at the head for a block beyond it. -/
def CacheRight (ledger : Ledger) (cache : NonceCache) : Prop :=
  ∀ level address (block : BlockNumber) nonce, cache level (AccountService.cacheKey address block) = some nonce →
    nonce = ledger.nonceAt address block.value

/-- What a request may rely on: a settled nonce does not change. -/
structure Later (address : String) (block : BlockNumber) (before after : NonceView) : Prop where
  grown : before.ledger.blocks <+: after.ledger.blocks
  settled : after.settled = before.settled
  result : after.result = before.result
  kept : before.settled = true →
    after.ledger.nonceAt address block.value = before.ledger.nonceAt address block.value

/-- A request among others, as the only party with operations. -/
def lookup (address : String) (block : BlockNumber) : Protocol Unit NonceOp NonceOp.Answer NonceView where
  perform _ op view := view.perform op
  permit _ op view := ReadsRight address block.value view op
  invariant view := CacheRight view.ledger view.cache
  rely _ := Later address block
  guarantee _ _ _ := True
  rely_refl _ _ := { grown := List.prefix_rfl, settled := rfl, result := rfl, kept := fun _ => rfl }
  rely_trans _ _ _ _ one two :=
    { grown := one.grown.trans two.grown
      settled := two.settled.trans one.settled
      result := two.result.trans one.result
      kept := fun settled => (two.kept (one.settled.trans settled)).trans (one.kept settled) }
  compatible _ _ _ _ different := absurd rfl different

/-- The nonce is the one at the block, and stays it. -/
structure Answered (address : String) (block : BlockNumber) (nonce : Nat) (view : NonceView) : Prop where
  right : nonce = view.ledger.nonceAt address block.value
  settled : block.value < view.ledger.blocks.length ∨ view.settled = true

variable {address : String} {block : BlockNumber} {nonce : Nat} {before after view : NonceView}
  {Result Next : Type}

theorem Answered.later (answered : Answered address block nonce before) (later : Later address block before after) :
    Answered address block nonce after := by
  rcases answered.settled with there | settled
  · refine ⟨answered.right.trans (Ledger.nonceAt_grown later.grown there address).symm, .inl ?_⟩
    exact Nat.lt_of_lt_of_le there later.grown.length_le
  · exact ⟨answered.right.trans (later.kept settled).symm, .inr (later.settled.trans settled)⟩

/-- The call keeps the cache right, and its result has the property. -/
def Finds (address : String) (block : BlockNumber) (goal : Result → NonceView → Prop) (program : Throwing Result)
    (view : NonceView) : Prop :=
  (lookup address block).Keeps () (fun outcome later => ∀ result, outcome = .ok result → goal result later)
    program.run view

theorem finds_throw {goal : Result → NonceView → Prop} (error : NonceError) :
    Finds address block goal (throw error) view := by
  rintro later _ result ⟨⟩

theorem finds_nonce (answered : Answered address block nonce view) :
    Finds address block (Answered address block) (pure nonce) view := by
  rintro later relied _ ⟨⟩
  exact answered.later relied

/-- One operation and what follows its answer. -/
theorem finds_await {goal : Next → NonceView → Prop} {op : NonceOp} {next : op.Answer → Throwing Next}
    (cached : ∀ later, Later address block view later → CacheRight later.ledger later.cache →
      CacheRight (later.record op).ledger (later.record op).cache)
    (follows : ∀ later, Later address block view later → CacheRight later.ledger later.cache →
      ReadsRight address block.value later op → Finds address block goal (next (later.answer op)) (later.record op)) :
    Finds address block goal (await op >>= next) view := by
  intro later relied right permitted
  exact ⟨trivial, cached later relied right, follows later relied right permitted⟩

/-- A query, which leaves the cache alone; it may fail. -/
theorem finds_query {Answer : Type} {goal : Next → NonceView → Prop} {op : NonceOp} {read : op.Answer → Option Answer}
    {next : Answer → Throwing Next} (untouched : ∀ later : NonceView, (later.record op).ledger = later.ledger ∧
      (later.record op).cache = later.cache)
    (follows : ∀ later answer, Later address block view later → ReadsRight address block.value later op →
      read (later.answer op) = some answer → Finds address block goal (next answer) (later.record op)) :
    Finds address block goal (await op >>= fun given => answered (read given) >>= next) view := by
  apply finds_await
  · intro later _ right
    rw [(untouched later).1, (untouched later).2]
    exact right
  · intro later relied _ permitted
    cases found : read (later.answer op) with
    | none => exact finds_throw _
    | some answer => exact follows later answer relied permitted found

theorem ifAvailable_eq_some {Answer : Type} {answer given : Answer} (found : view.ifAvailable answer = some given) :
    answer = given := by
  unfold NonceView.ifAvailable at found
  split_ifs at found
  exact Option.some.inj found

theorem finds_latestNonce (address : String) (block : BlockNumber) (view : NonceView) :
    Finds address block (Answered address block) (AccountService.getAccountLatestEthereumNonce address) view := by
  apply finds_query (fun _ => ⟨rfl, rfl⟩)
  intro later account relied permitted found
  have held : later.ledger.head.accounts address = account := ifAvailable_eq_some found
  have nonce : later.ledger.head.nonceOf address = later.ledger.nonceAt address block.value := permitted
  rw [LedgerBlock.nonceOf, held] at nonce
  cases account with
  | none => exact finds_nonce { right := nonce, settled := .inr rfl }
  | some account => exact finds_nonce { right := nonce, settled := .inr rfl }

/-- The lookup in the list of the account, for a block that is there. -/
theorem finds_fromContractResult (there : block.value < view.ledger.blocks.length) :
    Finds address block (Answered address block)
      (AccountService.getAccountNonceFromContractResult address block.value) view := by
  apply finds_query (fun _ => ⟨rfl, rfl⟩)
  intro first found relied _ _
  have thereFirst := Nat.lt_of_lt_of_le there relied.grown.length_le
  cases found with
  | none => exact finds_throw _
  | some ledgerBlock =>
      apply finds_query (fun _ => ⟨rfl, rfl⟩)
      intro second transactions reliedSecond permitted given
      have thereSecond := Nat.lt_of_lt_of_le thereFirst reliedSecond.grown.length_le
      have listed : second.ledger.latestTransactions address ledgerBlock.timestampTo 2 = transactions :=
        ifAvailable_eq_some given
      simp only [ReadsRight, listed] at permitted
      match transactions, permitted with
      | none, zero => exact finds_nonce { right := zero.symm, settled := .inl thereSecond }
      | some [], zero => exact finds_nonce { right := zero.symm, settled := .inl thereSecond }
      | some [_], one => exact finds_nonce { right := one.symm, settled := .inl thereSecond }
      | some (latest :: _ :: _), _ =>
          apply finds_query (fun _ => ⟨rfl, rfl⟩)
          intro third result reliedThird _ read
          have thereThird := Nat.lt_of_lt_of_le thereSecond reliedThird.grown.length_le
          have held : third.ledger.contractResult latest.transactionId = result := ifAvailable_eq_some read
          cases result with
          | none => exact finds_throw _
          | some transactionResult =>
              apply finds_query (fun _ => ⟨rfl, rfl⟩)
              intro fourth account reliedFourth right sender
              have thereFourth := Nat.lt_of_lt_of_le thereThird reliedFourth.grown.length_le
              have holder : fourth.ledger.head.accounts transactionResult.sender = account := ifAvailable_eq_some sender
              cases account with
              | none => exact finds_throw _
              | some accountResult =>
                  dsimp only
                  split_ifs with other
                  · exact finds_latestNonce address block _
                  · have recorded : fourth.result = some transactionResult := reliedFourth.result.trans held
                    refine finds_nonce { right := ?_, settled := .inl thereFourth }
                    exact (right transactionResult accountResult recorded holder (not_not.mp other)).symm

private theorem finds_historicNonce (maxBlockRange : Nat) (address : String) (block : BlockNumber) (view : NonceView) :
    Finds address block (Answered address block)
      (AccountService.getAccountNonceForHistoricBlock maxBlockRange address block.value) view := by
  apply finds_query (fun _ => ⟨rfl, rfl⟩)
  intro later latest relied _ given
  have head : some later.ledger.headNumber = latest := ifAvailable_eq_some given
  subst head
  dsimp only
  split_ifs with near
  · exact finds_latestNonce address block _
  · apply finds_fromContractResult
    have below : later.ledger.headNumber < later.ledger.blocks.length := Ledger.headNumber_lt
    show block.value < later.ledger.blocks.length
    omega

/-- The rule for one call after another. -/
theorem Finds.bind {middle : Result → NonceView → Prop} {goal : Next → NonceView → Prop} {program : Throwing Result}
    {next : Result → Throwing Next} (first : Finds address block middle program view)
    (second : ∀ result later, middle result later → Finds address block goal (next result) later) :
    Finds address block goal (program >>= next) view := by
  apply Protocol.Keeps.bindExcept middle
  · apply Protocol.Keeps.weaken first
    intro outcome later holds
    cases outcome with
    | ok result => exact holds result rfl
    | error error => exact fun _ _ => nofun
  · exact second

/-- The answer is cached and returned. -/
theorem finds_setCached (level : CacheLevel) (answered : Answered address block nonce view) :
    Finds address block (Answered address block)
      (await (.setCached level (AccountService.cacheKey address block) nonce) >>= fun _ => pure nonce) view := by
  apply finds_await
  · intro later relied right other otherAddress otherBlock cached found
    have here := (answered.later relied).right
    simp only [NonceView.record] at found
    by_cases same : other = level ∧ AccountService.cacheKey otherAddress otherBlock = AccountService.cacheKey address block
    · obtain ⟨rfl, sameKey⟩ := same
      rw [sameKey, Function.update_self, Function.update_self] at found
      obtain ⟨rfl, sameText⟩ := CacheKey.mk.inj sameKey
      rw [BlockNumber.value_of_text sameText, ← Option.some.inj found]
      exact here
    · apply right other otherAddress otherBlock cached
      by_cases sameLevel : other = level
      · have otherKey := fun sameKey => same ⟨sameLevel, sameKey⟩
        rwa [sameLevel, Function.update_self, Function.update_of_ne otherKey, ← sameLevel] at found
      · rwa [Function.update_of_ne sameLevel] at found
  · intro later relied _ _
    have answeredLater := answered.later relied
    exact finds_nonce { right := answeredLater.right, settled := answeredLater.settled }

/-- A cache is asked first. -/
theorem finds_getCached {level : CacheLevel} {next : Option Nat → Throwing Nat}
    (hit : ∀ nonce, next (some nonce) = pure nonce)
    (miss : ∀ later, Later address block view later → ∀ settled, (later.settled = true → settled = true) →
      Finds address block (Answered address block) (next none) { later with settled }) :
    Finds address block (Answered address block)
      (await (.getCached level (AccountService.cacheKey address block)) >>= next) view := by
  apply finds_await
  · intro later _ right
    exact right
  · intro later relied right _
    cases found : later.cache level (AccountService.cacheKey address block) with
    | some nonce =>
        simp only [NonceView.answer, found, hit]
        refine finds_nonce { right := right level address block nonce found, settled := .inr ?_ }
        simp [NonceView.record, found]
    | none =>
        simp only [NonceView.answer, found]
        exact miss later relied _ fun settled => by rw [settled]; rfl

theorem Answered.settle {settled : Bool} (answered : Answered address block nonce view)
    (more : view.settled = true → settled = true) : Answered address block nonce { view with settled } where
  right := answered.right
  settled := answered.settled.imp_right more

private theorem finds_service (maxBlockRange : Nat) (genesis : block.value ≤ 1 → Answered address block 0 view) :
    Finds address block (Answered address block) (AccountService.getTransactionCount maxBlockRange address block) view := by
  apply finds_getCached (fun _ => rfl)
  intro later relied settled more
  dsimp only
  split_ifs with first
  · have below : block.value ≤ 1 := by omega
    exact finds_nonce (((genesis below).later relied).settle more)
  · apply (finds_historicNonce maxBlockRange address block _).bind
    intro nonce after answered
    exact finds_setCached .service answered

private theorem finds_getTransactionCount (maxBlockRange : Nat)
    (genesis : block.value ≤ 1 → Answered address block 0 view) :
    Finds address block (Answered address block) (EthImpl.getTransactionCount maxBlockRange address block) view := by
  apply finds_getCached (fun _ => rfl)
  intro later relied settled more
  apply (finds_service maxBlockRange fun below => ((genesis below).later relied).settle more).bind
  intro nonce after answered
  exact finds_setCached .decorator answered

namespace NonceServer

/-- A nonce for the block is cached, or settled for a request in progress. -/
def Pending (server : NonceServer) (address : String) (block : BlockNumber) : Prop :=
  (∃ level, (server.cache level (AccountService.cacheKey address block)).isSome = true) ∨
    ∃ request ∈ server.requests, request.address = address ∧ request.block = block ∧ request.settled = true

/-- The condition on a step: a new block does not change a nonce that is pending for a block
beyond the head, blocks 0 and 1 end with the nonce zero, and each operation reads what is
right. -/
def Sound (server : NonceServer) : NonceLabel → Prop
  | .produce newBlock => ∀ address (block : BlockNumber), server.ledger.blocks.length ≤ block.value →
      server.Pending address block → newBlock.nonceOf address = server.ledger.head.nonceOf address
  | .request address block => block.value ≤ 1 → server.ledger.nonceAt address block.value = 0
  | .operate position => ∀ request op next, server.requests[position]? = some request →
      request.call = .call op next → ReadsRight request.address request.block.value (server.viewOf request) op
  | _ => True

def Serves (server : NonceServer) (request : NonceRequest) : Prop :=
  request.askedAt ≤ server.ledger.blocks.length ∧
    (lookup request.address request.block).Keeps ()
      (fun outcome later => ∀ nonce, outcome = .ok nonce → Answered request.address request.block nonce later)
      request.call (server.viewOf request)

def Keeps (server : NonceServer) (answer : NonceAnswer) : Prop :=
  answer.askedAt ≤ server.ledger.blocks.length ∧
    (answer.block.value < answer.askedAt → answer.nonce = server.ledger.nonceAt answer.address answer.block.value)

/-- What holds in every sound run. -/
structure Consistent (server : NonceServer) : Prop where
  cached : CacheRight server.ledger server.cache
  requests : ∀ request ∈ server.requests, server.Serves request
  answers : ∀ answer ∈ server.answers, server.Keeps answer

variable {maxBlockRange : Nat} {server before after : NonceServer} {request : NonceRequest} {position : Nat}

/-- Requests go on, whatever else changes. -/
theorem Serves.later (serves : before.Serves request) (grown : before.ledger.blocks <+: after.ledger.blocks)
    (kept : request.settled = true → after.ledger.nonceAt request.address request.block.value =
      before.ledger.nonceAt request.address request.block.value) : after.Serves request := by
  obtain ⟨asked, keeps⟩ := serves
  exact ⟨Nat.le_trans asked grown.length_le, keeps.interfere { grown, settled := rfl, result := rfl, kept }⟩

theorem nonceAt_produce {newBlock : LedgerBlock} (sound : server.Sound (.produce newBlock)) {address : String}
    {block : BlockNumber} (pending : server.Pending address block) :
    (server.ledger.produce newBlock).nonceAt address block.value = server.ledger.nonceAt address block.value := by
  rcases Nat.lt_or_ge block.value server.ledger.blocks.length with there | beyond
  · exact Ledger.nonceAt_grown (List.prefix_append _ _) there address
  · rw [Ledger.nonceAt_of_head beyond, Ledger.nonceAt, Ledger.blockAt_produce_of_beyond newBlock beyond]
    exact sound address block beyond pending

theorem Consistent.produce (consistent : server.Consistent) {newBlock : LedgerBlock}
    (sound : server.Sound (.produce newBlock)) :
    Consistent { server with ledger := server.ledger.produce newBlock } where
  cached := by
    intro level address block nonce found
    have pending : server.Pending address block := .inl ⟨level, Option.isSome_iff_exists.mpr ⟨nonce, found⟩⟩
    exact (consistent.cached level address block nonce found).trans (nonceAt_produce sound pending).symm
  requests := by
    intro request member
    apply (consistent.requests request member).later (List.prefix_append _ _)
    intro settled
    exact nonceAt_produce sound (.inr ⟨request, member, rfl, rfl, settled⟩)
  answers := by
    intro answer member
    obtain ⟨asked, right⟩ := consistent.answers answer member
    have grown : server.ledger.blocks <+: (server.ledger.produce newBlock).blocks := List.prefix_append _ _
    refine ⟨Nat.le_trans asked grown.length_le, ?_⟩
    intro there
    exact (right there).trans (Ledger.nonceAt_grown grown (Nat.lt_of_lt_of_le there asked) answer.address).symm

/-- A step that leaves the ledger alone. -/
theorem Consistent.withRequests (consistent : server.Consistent) {available : Bool} {cache : NonceCache}
    {requests : List NonceRequest} (cached : CacheRight server.ledger cache)
    (serves : ∀ request ∈ requests, server.Serves request) :
    Consistent { server with available, cache, requests } where
  cached := cached
  requests := by
    intro request member
    exact (serves request member).later List.prefix_rfl fun _ => rfl
  answers := consistent.answers

private theorem serves_begin (maxBlockRange : Nat) {address : String} {block : BlockNumber}
    (sound : server.Sound (.request address block)) : server.Serves (server.begin maxBlockRange address block) := by
  refine ⟨Nat.le_refl _, ?_⟩
  apply finds_getTransactionCount
  intro below
  exact { right := (sound below).symm, settled := .inr (decide_eq_true below) }

/-- One operation of a request. -/
theorem Serves.operate {op : NonceOp} {next : op.Answer → Prog NonceOp NonceOp.Answer (Except NonceError Nat)}
    (serves : server.Serves request) (call : request.call = .call op next)
    (cached : CacheRight server.ledger server.cache)
    (right : ReadsRight request.address request.block.value (server.viewOf request) op) :
    CacheRight server.ledger ((server.viewOf request).record op).cache ∧
      server.Serves { request with
        call := next ((server.viewOf request).answer op)
        settled := ((server.viewOf request).record op).settled
        result := ((server.viewOf request).record op).result } := by
  obtain ⟨asked, keeps⟩ := serves
  rw [call] at keeps
  obtain ⟨_, cachedAfter, going⟩ := keeps (server.viewOf request) ((lookup _ _).rely_refl () _) cached right
  have sameLedger : ((server.viewOf request).record op).ledger = server.ledger := by cases op <;> rfl
  refine ⟨sameLedger ▸ cachedAfter, asked, ?_⟩
  apply Protocol.Keeps.interfere going
  constructor
  · have sameBlocks := congrArg Ledger.blocks sameLedger
    exact ⟨[], (List.append_nil _).trans sameBlocks⟩
  · rfl
  · rfl
  · intro _
    exact congrArg (Ledger.nonceAt · request.address request.block.value) sameLedger.symm

/-- A request is answered. -/
theorem Consistent.finish (consistent : server.Consistent) {nonce : Nat} (member : request ∈ server.requests)
    (call : request.call = .done (.ok nonce)) : Consistent (server.finish position request nonce) where
  cached := consistent.cached
  requests := by
    intro other inside
    exact (consistent.requests other (List.mem_of_mem_eraseIdx inside)).later List.prefix_rfl fun _ => rfl
  answers := by
    intro answer inside
    rcases List.mem_append.mp inside with old | new
    · exact consistent.answers answer old
    · obtain rfl := List.mem_singleton.mp new
      obtain ⟨asked, keeps⟩ := consistent.requests request member
      rw [call] at keeps
      have answered := keeps (server.viewOf request) ((lookup _ _).rely_refl () _) nonce rfl
      exact ⟨asked, fun _ => answered.right⟩

theorem Consistent.step (consistent : before.Consistent) {label : NonceLabel} (sound : before.Sound label)
    (taken : before.serve maxBlockRange label = some after) : after.Consistent := by
  cases label with
  | produce newBlock =>
      obtain rfl := Option.some.inj taken
      exact consistent.produce sound
  | outage restored =>
      obtain rfl := Option.some.inj taken
      exact consistent.withRequests consistent.cached consistent.requests
  | expire level key =>
      obtain rfl := Option.some.inj taken
      apply consistent.withRequests _ consistent.requests
      intro other address block nonce found
      apply consistent.cached other address block nonce
      by_cases sameLevel : other = level
      · subst sameLevel
        rw [Function.update_self] at found
        by_cases sameKey : AccountService.cacheKey address block = key
        · rw [sameKey, Function.update_self] at found
          cases found
        · rwa [Function.update_of_ne sameKey] at found
      · rwa [Function.update_of_ne sameLevel] at found
  | request address block =>
      obtain rfl := Option.some.inj taken
      apply consistent.withRequests consistent.cached
      intro request member
      rcases List.mem_append.mp member with old | new
      · exact consistent.requests request old
      · rw [List.mem_singleton.mp new]
        exact serves_begin maxBlockRange sound
  | operate position =>
      simp only [serve] at taken
      split at taken
      next address block askedAt op next settled result found =>
        obtain rfl := Option.some.inj taken
        have serves := consistent.requests _ (List.mem_of_getElem? found)
        obtain ⟨cached, going⟩ := serves.operate rfl consistent.cached (sound _ op next found rfl)
        apply consistent.withRequests cached
        intro request member
        rcases List.mem_or_eq_of_mem_set member with old | rfl
        · exact consistent.requests request old
        · exact going
      next => cases taken
  | answer position =>
      simp only [serve] at taken
      split at taken
      next address block askedAt nonce settled result found =>
        obtain rfl := Option.some.inj taken
        exact consistent.finish (List.mem_of_getElem? found) rfl
      next =>
        obtain rfl := Option.some.inj taken
        apply consistent.withRequests consistent.cached
        exact fun request member => consistent.requests request (List.mem_of_mem_eraseIdx member)
      next => cases taken

theorem consistent_initial (ledger : Ledger) : (initial ledger).Consistent where
  cached := nofun
  requests := nofun
  answers := nofun

theorem Consistent.stable (consistent : server.Consistent) : server.Stable where
  answers answer member := (consistent.answers answer member).2
  cached level address block nonce found _ := consistent.cached level address block nonce found

/-- Along every sound run the nonce of a block is the one at its end. -/
theorem stable_of_sound (maxBlockRange : Nat) (ledger : Ledger) {labels : List NonceLabel} {final : NonceServer}
    (sound : Meets (serve maxBlockRange) Sound (initial ledger) labels)
    (reached : run (serve maxBlockRange) (initial ledger) labels = some final) : final.Stable := by
  have consistent : final.Consistent :=
    run_invariant_of_meets (fun _ _ _ consistent sound taken => consistent.step sound taken)
      (consistent_initial ledger) sound reached
  exact consistent.stable

/-- A block after which the address has used so many nonces. -/
def exampleBlock (number nonce : Nat) : LedgerBlock where
  timestampTo := number
  transactions := []
  accounts address := if address = "0xa" then some { evmAddress := "0xa", ethereumNonce := some nonce } else none

def exampleLedger : Ledger where
  blocks := [exampleBlock 0 0, exampleBlock 1 0, exampleBlock 2 0]
  started := List.cons_ne_nil _ _

def blockTwo : BlockNumber where
  text := "0x2"
  digits := ['2']
  isHex := by decide
  isNoHash := by decide

def blockThree : BlockNumber where
  text := "0x3"
  digits := ['3']
  isHex := by decide
  isNoHash := by decide

/-- The last block of the ledger has transactions. -/
def busyLedger : Ledger where
  blocks := [exampleBlock 0 0, exampleBlock 1 0, exampleBlock 2 4]
  started := List.cons_ne_nil _ _

/-- The head is asked for, and its nonce is read and cached. -/
def headRequested : List NonceLabel :=
  [.request "0xa" blockTwo, .operate 0, .operate 0, .operate 0, .operate 0, .operate 0, .operate 0, .answer 0]

/-- The nonce of the head in both caches. -/
def headCache : NonceCache :=
  let key := AccountService.cacheKey "0xa" blockTwo
  let cache : NonceCache := Function.update (fun _ _ => none) .service (Function.update (fun _ => none) key (some 4))
  Function.update cache .decorator (Function.update (cache .decorator) key (some 4))

def headServed : NonceServer where
  ledger := busyLedger
  available := true
  cache := headCache
  requests := []
  answers := [{ address := "0xa", block := blockTwo, askedAt := 3, nonce := 4 }]

private theorem run_headRequested : run (serve 5) (initial busyLedger) headRequested = some headServed := rfl

theorem blockTwo_above : ¬ blockTwo.value ≤ 1 := by decide

private theorem sound_headRequested : Meets (serve 5) Sound (initial busyLedger) headRequested := by
  apply meets_cons (fun below => absurd below blockTwo_above) rfl
  apply meets_cons _ rfl
  · apply meets_cons _ rfl
    · apply meets_cons _ rfl
      · apply meets_cons _ rfl
        · apply meets_cons _ rfl
          · apply meets_cons _ rfl
            · exact ⟨trivial, fun _ _ => trivial⟩
            · rintro _ _ _ ⟨⟩ ⟨⟩
              trivial
          · rintro _ _ _ ⟨⟩ ⟨⟩
            trivial
        · rintro _ _ _ ⟨⟩ ⟨⟩
          rfl
      · rintro _ _ _ ⟨⟩ ⟨⟩
        trivial
    · rintro _ _ _ ⟨⟩ ⟨⟩
      trivial
  · rintro _ _ _ ⟨⟩ ⟨⟩
    trivial

/-- The next block has a transaction; then the same block is asked for again, and its nonce is cached. -/
def askedAgain : List NonceLabel :=
  [.produce (exampleBlock 3 5), .request "0xa" blockTwo, .operate 0, .answer 0]

/-- Nothing is pending for a block beyond the head. -/
theorem sound_produce : headServed.Sound (.produce (exampleBlock 3 5)) := by
  intro address block beyond pending
  rcases pending with ⟨level, cached⟩ | ⟨request, member, -⟩
  · have key : AccountService.cacheKey address block = AccountService.cacheKey "0xa" blockTwo := by
      by_contra other
      cases level <;> simp [headServed, headCache, Function.update_of_ne other] at cached
    have value : block.value = blockTwo.value := BlockNumber.value_of_text (CacheKey.mk.inj key).2
    exact absurd (value ▸ beyond) (by decide)
  · cases member

private theorem sound_askedAgain : Meets (serve 5) Sound headServed askedAgain := by
  apply meets_cons sound_produce rfl
  apply meets_cons (fun below => absurd below blockTwo_above) rfl
  apply meets_cons _ rfl
  · exact ⟨trivial, fun _ _ => trivial⟩
  · rintro _ _ _ ⟨⟩ ⟨⟩
    trivial

theorem stable_askedAgain :
    ∃ final, run (serve 5) (initial busyLedger) (headRequested ++ askedAgain) = some final ∧
      final.ledger.head.nonceOf "0xa" = 5 ∧ final.answers.map NonceAnswer.nonce = [4, 4] ∧ final.Stable := by
  have shown : (run (serve 5) (initial busyLedger) (headRequested ++ askedAgain)).map
      (fun final => (final.ledger.head.nonceOf "0xa", final.answers.map NonceAnswer.nonce)) = some (5, [4, 4]) := rfl
  obtain ⟨final, reached, same⟩ := Option.map_eq_some_iff.mp shown
  obtain ⟨head, nonces⟩ := Prod.mk.inj same
  have sound := meets_append sound_headRequested run_headRequested sound_askedAgain
  exact ⟨final, reached, head, nonces, stable_of_sound 5 busyLedger sound reached⟩

/-- A block beyond the head is asked for, and again when it is there with a transaction. -/
def nextRequested : List NonceLabel :=
  [.request "0xa" blockThree, .operate 0, .operate 0, .operate 0, .operate 0, .operate 0, .operate 0, .answer 0,
    .produce (exampleBlock 3 1), .request "0xa" blockThree, .operate 0, .answer 0]

theorem stable_nextRequested_fails :
    ∃ final, run (serve 5) (initial exampleLedger) nextRequested = some final ∧
      final.ledger.nonceAt "0xa" blockThree.value = 1 ∧
      final.answers = [{ address := "0xa", block := blockThree, askedAt := 3, nonce := 0 },
        { address := "0xa", block := blockThree, askedAt := 4, nonce := 0 }] ∧ ¬ final.Stable := by
  have shown : (run (serve 5) (initial exampleLedger) nextRequested).map
      (fun final => (final.ledger.nonceAt "0xa" blockThree.value, final.answers)) =
        some (1, [{ address := "0xa", block := blockThree, askedAt := 3, nonce := 0 },
          { address := "0xa", block := blockThree, askedAt := 4, nonce := 0 }]) := rfl
  obtain ⟨final, reached, same⟩ := Option.map_eq_some_iff.mp shown
  obtain ⟨nonce, answers⟩ := Prod.mk.inj same
  refine ⟨final, reached, nonce, answers, ?_⟩
  intro stable
  have wrong := stable.answers { address := "0xa", block := blockThree, askedAt := 4, nonce := 0 }
    (by rw [answers]; exact List.mem_cons_of_mem _ List.mem_cons_self) (by decide)
  rw [nonce] at wrong
  cases wrong

end NonceServer

end HieroRelay.Accounts
