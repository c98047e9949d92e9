import HieroRelay.Blocks.BlockAnswers
import HieroRelay.Lib.Transcript

/-! Records that are not ready yet: which answers of the mirror node an endpoint goes on
with, and when what it sends is built from ready records only. -/

namespace HieroRelay.Blocks

open HieroRelay.Lib
open HieroRelay.Filters (AddressParam BlockParam HexNumber Log numberTo0x toHash32 zeroAddress)

/-- `eth_getBlockByHash` and `eth_getBlockByNumber` are one, the others are the five
endpoints by their names. -/
inductive Endpoint where
  | getBlock (blockHashOrNumber : BlockHashOrNumber) (showDetails : Bool)
  | getBlockReceipts (blockHashOrBlockNumber : BlockHashOrNumber)
  | getTransactionByHash (hash : String)
  | getTransactionReceipt (hash : String)
  | getLogs (blockHash : Option String) (fromBlock toBlock : BlockParam) (address : AddressParam)
      (topics : Option (List (Option (List String))))

namespace Endpoint

abbrev Answer : Endpoint → Type
  | getBlock _ _ => Option Block
  | getBlockReceipts _ => Option (List TransactionReceipt)
  | getTransactionByHash _ => Option Transaction
  | getTransactionReceipt _ => Option TransactionReceipt
  | getLogs _ _ _ _ _ => List Log

def call (relay : Relay) : (endpoint : Endpoint) → Throwing endpoint.Answer
  | getBlock blockHashOrNumber showDetails => BlockService.getBlock relay blockHashOrNumber showDetails
  | getBlockReceipts blockHashOrBlockNumber => BlockService.getBlockReceipts relay blockHashOrBlockNumber
  | getTransactionByHash hash => TransactionService.getTransactionByHash relay hash
  | getTransactionReceipt hash => TransactionService.getTransactionReceipt relay hash
  | getLogs blockHash fromBlock toBlock address topics =>
      CommonService.getLogs relay blockHash fromBlock toBlock address topics

/-- The receipt of a transaction reads the logs of its detail. -/
def readsLogs : Endpoint → Bool
  | getTransactionReceipt _ => true
  | _ => false

/-- The receipts of a block fetch the contract results once. -/
def pollsResults : Endpoint → Bool
  | getBlockReceipts _ => false
  | _ => true

end Endpoint

/-- No record of the answer lacks a number or the hash of its block. -/
def matureAnswer (readsLogs : Bool) : Exchange MirrorOp MirrorOp.Answer → Bool
  | ⟨.getContractResults _, some results⟩ => !results.any ContractResult.immature
  | ⟨.getContractResult _, some (some result)⟩ =>
      !result.immature && (!readsLogs || result.logs.all fun log => log.index.isSome)
  | ⟨.getContractResultsLogs _ _, some logs⟩ => !logs.any ContractLog.immature
  | _ => true

/-- A call goes on with the answer: where it polls, only without an immature record. -/
def takenAnswer (retryCount : Nat) (pollsResults : Bool) : Exchange MirrorOp MirrorOp.Answer → Bool
  | ⟨.getContractResults _, some results⟩ => retryCount = 0 || !pollsResults || !results.any ContractResult.immature
  | ⟨.getContractResult _, some (some result)⟩ => retryCount = 0 || !result.immature
  | ⟨.getContractResultsLogs none _, some logs⟩ => retryCount = 0 || !logs.any ContractLog.immature
  | _ => true

/-- The queries for records. -/
def MirrorOp.asksRecords : MirrorOp → Prop
  | .getContractResults _ | .getContractResult _ | .getContractResultsLogs _ _ => True
  | _ => False

/-- A call that fails with another error than an internal one sends nothing. -/
def RelayError.declared : RelayError → Prop
  | .INTERNAL_ERROR _ => False
  | _ => True

def maturity (relay : Relay) (endpoint : Endpoint) : Screening MirrorOp MirrorOp.Answer RelayError where
  ready := matureAnswer endpoint.readsLogs
  taken := takenAnswer relay.mirrorNodeRequestRetryCount endpoint.pollsResults
  refused := RelayError.declared
  screened := MirrorOp.asksRecords
  ready_of_not_screened op plain answer := by
    cases op <;> first | rfl | exact absurd trivial plain

/-- The call asks for no records. -/
def Silent (call : Throwing Result) : Prop := call.run.Asks fun op => ¬ op.asksRecords

section Silent

theorem silent_pure (result : Result) : Silent (pure result) := trivial

theorem silent_throw (error : RelayError) : Silent (throw error : Throwing Result) := trivial

theorem silent_await {op : MirrorOp} (plain : ¬ op.asksRecords) : Silent (await op) :=
  ⟨plain, fun _ => trivial⟩

theorem silent_bind {call : Throwing First} {next : First → Throwing Next} (first : Silent call)
    (second : ∀ value, Silent (next value)) : Silent (call >>= next) := asks_bindExcept first second

theorem silent_ite {condition : Prop} [Decidable condition] {first second : Throwing Result}
    (holds : Silent first) (fails : Silent second) : Silent (if condition then first else second) := by
  split
  · exact holds
  · exact fails

theorem silent_answered (answer : Option Result) : Silent (answered answer) := by
  cases answer <;> trivial

theorem silent_mapM {elements : List Element} {call : Element → Throwing Result}
    (each : ∀ element, Silent (call element)) : Silent (elements.mapM call) := by
  induction elements with
  | nil => trivial
  | cons element rest ih =>
      rw [List.mapM_cons]
      exact silent_bind (each element) fun _ => silent_bind ih fun _ => trivial

theorem silent_getLatestBlock : Silent MirrorNodeClient.getLatestBlock :=
  silent_bind (silent_await id) silent_answered

theorem silent_getBlockByHash (hash : String) : Silent (MirrorNodeClient.getBlockByHash hash) :=
  silent_bind (silent_await id) silent_answered

theorem silent_getBlockByNumber (number : Nat) : Silent (MirrorNodeClient.getBlockByNumber number) :=
  silent_bind (silent_await id) silent_answered

private theorem silent_getNetworkFees (timestamp : Option Nat) : Silent (MirrorNodeClient.getNetworkFees timestamp) :=
  silent_bind (silent_await id) silent_answered

theorem silent_requiredNumberTo0x (input : Option Nat) : Silent (requiredNumberTo0x input) := by
  cases input <;> trivial

theorem silent_logOf (log : ContractLog) : Silent (CommonService.logOf log) := by
  exact silent_bind (silent_requiredNumberTo0x _) fun _ => silent_bind (silent_requiredNumberTo0x _) fun _ =>
    silent_bind (silent_requiredNumberTo0x _) fun _ => silent_pure _

private theorem silent_receiptLog (receiptResponse : ContractResult) (log : ContractResultLog) :
    Silent (TransactionService.receiptLog receiptResponse log) := by
  exact silent_bind (silent_requiredNumberTo0x _) fun _ => silent_bind (silent_requiredNumberTo0x _) fun _ =>
    silent_bind (silent_requiredNumberTo0x _) fun _ => silent_pure _

theorem silent_createRegularReceipt (receiptResponse : ContractResult) (effectiveGas : HexNumber)
    (fromAddress : Option String) (logs : List Log) (toAddress : Option String) :
    Silent (TransactionReceiptFactory.createRegularReceipt receiptResponse effectiveGas fromAddress logs toAddress) := by
  exact silent_bind (silent_requiredNumberTo0x _) fun _ => silent_bind (silent_requiredNumberTo0x _) fun _ =>
    silent_pure _

theorem silent_formatContractResult (cr : ContractResult) : Silent (formatContractResult cr) := by
  unfold formatContractResult
  split
  · exact silent_throw _
  · split
    · exact silent_throw _
    · exact silent_pure _

private theorem silent_withHash (transaction : Option Transaction) : Silent (BlockService.withHash transaction) := by
  cases transaction <;> trivial

private theorem silent_buildReceiptRootHashes (relay : Relay) (txHashes : List String)
    (contractResults : List ContractResult) (logs : List Log) :
    Silent (ReceiptsRootUtils.buildReceiptRootHashes relay txHashes contractResults logs) := by
  apply silent_mapM
  intro txHash
  unfold ReceiptsRootUtils.receiptRootHash
  dsimp only
  split
  · exact silent_pure _
  · split <;> trivial

private theorem silent_resolveEntityType (entityIdentifier : String) (searchableTypes : List EntityType) :
    Silent (MirrorNodeClient.resolveEntityType entityIdentifier searchableTypes) := by
  apply silent_bind (silent_ite (silent_await id) (silent_pure none))
  intro contract
  cases contract with
  | some entity => exact silent_pure _
  | none =>
      exact silent_bind (silent_ite (silent_await id) (silent_pure none)) fun _ =>
        silent_bind (silent_ite (silent_await id) (silent_pure none)) fun _ => silent_pure _

theorem silent_resolveEvmAddress (address : Option String) (searchableTypes : List EntityType) :
    Silent (CommonService.resolveEvmAddress address searchableTypes) := by
  unfold CommonService.resolveEvmAddress
  split
  · exact silent_pure _
  · exact silent_pure _
  · apply silent_bind (silent_resolveEntityType _ _)
    intro entity
    split <;> exact silent_pure _

theorem silent_prepareTransactionArray (relay : Relay) {present : ContractResult → Throwing Entry}
    (each : ∀ contractResult, Silent (present contractResult)) (contractResults : List ContractResult) :
    Silent (BlockService.prepareTransactionArray relay present contractResults) := by
  induction contractResults with
  | nil => exact silent_pure _
  | cons contractResult rest ih =>
      exact silent_ite ih (silent_bind (silent_resolveEvmAddress _ _) fun _ =>
        silent_bind (silent_resolveEvmAddress _ _) fun _ => silent_bind (each _) fun _ =>
          silent_bind ih fun _ => silent_pure _)

private theorem silent_transactionArray (relay : Relay) (contractResults : List ContractResult) (logs : List Log)
    (showDetails : Bool) : Silent (BlockService.transactionArray relay contractResults logs showDetails) := by
  cases showDetails with
  | false => exact silent_bind (silent_prepareTransactionArray relay (fun _ => silent_pure _) _) fun _ => silent_pure _
  | true =>
      exact silent_bind (silent_prepareTransactionArray relay silent_formatContractResult _) fun _ =>
        silent_bind (silent_mapM silent_withHash) fun _ => silent_pure _

private theorem silent_regularReceipt (relay : Relay) (effectiveGas : HexNumber) (logs : List Log)
    (contractResult : ContractResult) :
    Silent (BlockService.regularReceipt relay effectiveGas logs contractResult) := by
  exact silent_ite (silent_pure _) (silent_bind (silent_resolveEvmAddress _ _) fun _ =>
    silent_bind (silent_resolveEvmAddress _ _) fun _ =>
      silent_bind (silent_createRegularReceipt _ _ _ _ _) fun _ => silent_pure _)

theorem silent_getGasPriceInWeibars (timestamp : Option Nat) :
    Silent (CommonService.getGasPriceInWeibars timestamp) := by
  apply silent_bind (silent_getNetworkFees timestamp)
  intro fees
  split
  · exact silent_pure _
  · exact silent_throw _

theorem silent_getCurrentGasPriceForBlock (blockHash : String) :
    Silent (CommonService.getCurrentGasPriceForBlock blockHash) :=
  silent_bind (silent_getBlockByHash blockHash) fun _ => silent_bind (silent_getGasPriceInWeibars _) fun _ => silent_pure _

theorem silent_getHistoricalBlockResponse (relay : Relay) (block : BlockHashOrNumber) :
    Silent (CommonService.getHistoricalBlockResponse relay block) := by
  unfold CommonService.getHistoricalBlockResponse
  split
  · exact silent_pure _
  · exact silent_getBlockByHash _
  · apply silent_bind silent_getLatestBlock
    intro latest
    split
    · exact silent_throw _
    · exact silent_ite (silent_pure _) (silent_getBlockByNumber _)
  · exact silent_getBlockByNumber _
  · exact silent_getBlockByNumber _
  · exact silent_bind silent_getLatestBlock fun _ => silent_pure _

private theorem silent_getLatestBlockNumber : Silent CommonService.getLatestBlockNumber := by
  apply silent_bind silent_getLatestBlock
  intro latest
  split
  · exact silent_pure _
  · exact silent_throw _

private theorem silent_validateBlockHash (blockHash : String) :
    Silent (CommonService.validateBlockHashAndAddTimestampToParams blockHash) :=
  silent_bind (silent_getBlockByHash blockHash) fun _ => silent_pure _

private theorem silent_checkMissingFromBlock (fromBlock toBlock : BlockParam) :
    Silent (CommonService.checkMissingFromBlock fromBlock toBlock) :=
  silent_ite (silent_bind silent_getLatestBlockNumber fun _ => silent_ite (silent_throw _) (silent_pure _))
    (silent_pure _)

private theorem silent_validateBlockRange (relay : Relay) (fromBlock toBlock : BlockParam) (address : AddressParam) :
    Silent (CommonService.validateBlockRangeAndAddTimestampToParams relay fromBlock toBlock address) := by
  apply silent_bind (silent_checkMissingFromBlock fromBlock toBlock)
  intro
  apply silent_bind (silent_getHistoricalBlockResponse relay _)
  rintro (_ | fromBlockResponse)
  · exact silent_pure _
  · apply silent_ite (silent_pure _)
    apply silent_bind (silent_getHistoricalBlockResponse relay _)
    rintro (_ | toBlockResponse)
    · exact silent_pure _
    · exact silent_ite (silent_throw _) (silent_ite (silent_throw _) (silent_ite (silent_throw _) (silent_pure _)))

end Silent

/-- A query whose answer is a list of records, or a record. -/
structure Fetching (fetch : Throwing Records) (op : MirrorOp) (exchange : Records → Exchange MirrorOp MirrorOp.Answer) :
    Prop where
  queries : fetch.run.Asks (· = op)
  asks : ∀ records, (exchange records).1 = op
  answers : ∀ records, Ran fetch.run [exchange records] (.ok records)
  ran : ∀ transcript outcome, Ran fetch.run transcript outcome →
    (∃ records, transcript = [exchange records] ∧ outcome = .ok records) ∨ outcome = .error .mirrorNode

theorem fetching_of_call {fetch : Throwing Records} {op : MirrorOp}
    {next : op.Answer → Prog MirrorOp MirrorOp.Answer (Except RelayError Records)} {received : Records → op.Answer}
    {failed : op.Answer} (shape : fetch.run = .call op next)
    (answers : ∀ records, next (received records) = .done (.ok records))
    (fails : next failed = .done (.error .mirrorNode))
    (either : ∀ answer, answer = failed ∨ ∃ records, answer = received records) :
    Fetching fetch op fun records => ⟨op, received records⟩ where
  queries := by
    rw [shape]
    refine ⟨rfl, fun answer => ?_⟩
    rcases either answer with rfl | ⟨records, rfl⟩
    · rw [fails]
      trivial
    · rw [answers]
      trivial
  asks _ := rfl
  answers records := by
    rw [shape]
    exact .call (answers records ▸ .done)
  ran transcript outcome ran := by
    rw [shape] at ran
    obtain ⟨answer, others, rfl, followed⟩ := ran_call_iff.mp ran
    rcases either answer with rfl | ⟨records, rfl⟩
    · rw [fails] at followed
      exact .inr (ran_done_iff.mp followed).2.symm
    · rw [answers] at followed
      obtain ⟨rfl, rfl⟩ := ran_done_iff.mp followed
      exact .inl ⟨records, rfl, rfl⟩

theorem none_or_some (answer : Option Records) : answer = none ∨ ∃ records, answer = some records := by
  cases answer with
  | none => exact .inl rfl
  | some records => exact .inr ⟨records, rfl⟩

theorem fetching_getContractResults (params : ContractResultsParams) :
    Fetching (MirrorNodeClient.getContractResults params) (.getContractResults params)
      fun results => ⟨.getContractResults params, some results⟩ :=
  fetching_of_call rfl (fun _ => rfl) rfl none_or_some

private theorem fetching_getContractResult (transactionIdOrHash : String) :
    Fetching (MirrorNodeClient.getContractResult transactionIdOrHash) (.getContractResult transactionIdOrHash)
      fun result => ⟨.getContractResult transactionIdOrHash, some result⟩ :=
  fetching_of_call rfl (fun _ => rfl) rfl none_or_some

private theorem fetching_getContractResultsLogs (params : LogsParams) :
    Fetching (MirrorNodeClient.getContractResultsLogs params) (.getContractResultsLogs none params)
      fun logs => ⟨.getContractResultsLogs none params, some logs⟩ :=
  fetching_of_call rfl (fun _ => rfl) rfl none_or_some

theorem fetching_getContractResultsLogsByAddress {address : String} (params : LogsParams)
    (named : (address == zeroAddress) = false) :
    Fetching (MirrorNodeClient.getContractResultsLogsByAddress address params)
      (.getContractResultsLogs (some address) params)
      fun logs => ⟨.getContractResultsLogs (some address) params, some logs⟩ := by
  rw [MirrorNodeClient.getContractResultsLogsByAddress, if_neg (by simp [named])]
  exact fetching_of_call rfl (fun _ => rfl) rfl none_or_some

section Polling
variable {relay : Relay} {endpoint : Endpoint} {fetch : Throwing Records} {op : MirrorOp}
  {exchange : Records → Exchange MirrorOp MirrorOp.Answer} {immature : Records → Bool}

/-- What a polling call received: some immature records, and at last those it goes on with. -/
structure Polled (exchange : Records → Exchange MirrorOp MirrorOp.Answer) (immature : Records → Bool) (rounds : Nat)
    (transcript : List (Exchange MirrorOp MirrorOp.Answer)) (outcome : Except RelayError Records)
    (waiting : List Records) (records : Records) : Prop where
  received : transcript = waiting.map exchange ++ [exchange records]
  unready : ∀ early ∈ waiting, immature early = true
  last : rounds = 0 ∨ immature records = false
  once : rounds = 0 → waiting = []
  sent : outcome = .ok records

private theorem polled_pollWhileImmature (fetching : Fetching fetch op exchange) {rounds : Nat} {first : Records}
    {transcript : List (Exchange MirrorOp MirrorOp.Answer)} {outcome : Except RelayError Records}
    (ran : Ran (MirrorNodeClient.pollWhileImmature fetch immature rounds first).run transcript outcome)
    (settled : (maturity relay endpoint).Settled outcome) :
    ∃ waiting records, Polled exchange immature rounds (exchange first :: transcript) outcome waiting records := by
  induction rounds generalizing first transcript with
  | zero =>
      obtain ⟨rfl, rfl⟩ := ran_done_iff.mp ran
      exact ⟨[], first, rfl, List.forall_mem_nil _, .inl rfl, fun _ => rfl, rfl⟩
  | succ rounds ih =>
      rw [MirrorNodeClient.pollWhileImmature] at ran
      by_cases unready : immature first = true
      · rw [if_pos unready] at ran
        by_cases exhausted : rounds = 0
        · rw [if_pos exhausted] at ran
          obtain ⟨_, rfl⟩ := ran_done_iff.mp ran
          exact absurd trivial (settled _ rfl)
        · rw [if_neg exhausted] at ran
          rcases ran_bindExcept_iff.mp ran with ⟨begun, ended, value, rfl, fetched, polled⟩ | ⟨error, rfl, fetched⟩
          · rcases fetching.ran begun (.ok value) fetched with ⟨records, rfl, same⟩ | failed
            · cases same
              obtain ⟨waiting, final, received, early, last, _, sent⟩ := ih polled
              refine ⟨first :: waiting, final, congrArg (exchange first :: ·) received, ?_, ?_, ?_, sent⟩
              · exact List.forall_mem_cons.mpr ⟨unready, early⟩
              · exact .inr (last.resolve_left exhausted)
              · intro none
                cases none
            · cases failed
          · rcases fetching.ran transcript (.error error) fetched with ⟨_, _, same⟩ | failed
            · cases same
            · cases failed
              exact absurd trivial (settled _ rfl)
      · rw [if_neg unready] at ran
        obtain ⟨rfl, rfl⟩ := ran_done_iff.mp ran
        exact ⟨[], first, rfl, List.forall_mem_nil _, .inr (Bool.eq_false_iff.mpr unready), fun _ => rfl, rfl⟩

theorem polled_retrying (fetching : Fetching fetch op exchange) {retryCount : Nat}
    {transcript : List (Exchange MirrorOp MirrorOp.Answer)} {outcome : Except RelayError Records}
    (ran : Ran (MirrorNodeClient.retrying retryCount fetch immature).run transcript outcome)
    (settled : (maturity relay endpoint).Settled outcome) :
    ∃ waiting records, Polled exchange immature retryCount transcript outcome waiting records := by
  rcases ran_bindExcept_iff.mp ran with ⟨begun, ended, value, rfl, fetched, polled⟩ | ⟨error, rfl, fetched⟩
  · rcases fetching.ran begun (.ok value) fetched with ⟨records, rfl, same⟩ | failed
    · cases same
      exact polled_pollWhileImmature fetching polled settled
    · cases failed
  · rcases fetching.ran transcript (.error error) fetched with ⟨_, _, same⟩ | failed
    · cases same
    · cases failed
      exact absurd trivial (settled _ rfl)

/-- Records with which the polling ends at once. -/
theorem ran_retrying_once (fetching : Fetching fetch op exchange) {retryCount : Nat} {records : Records}
    (last : retryCount = 0 ∨ immature records = false) :
    Ran (MirrorNodeClient.retrying retryCount fetch immature).run [exchange records] (.ok records) := by
  apply ran_bindExcept_iff.mpr
  refine .inl ⟨[exchange records], [], records, rfl, fetching.answers records, ?_⟩
  cases retryCount with
  | zero => exact .done
  | succ rounds =>
      rw [MirrorNodeClient.pollWhileImmature, if_neg (by simpa using last.resolve_left (Nat.succ_ne_zero rounds))]
      exact .done

private theorem asks_retrying {asked : MirrorOp → Prop} {retryCount : Nat} (asks : fetch.run.Asks asked) :
    (MirrorNodeClient.retrying retryCount fetch immature).run.Asks asked := by
  apply asks_bindExcept asks
  intro records
  induction retryCount generalizing records with
  | zero => trivial
  | succ rounds ih =>
      rw [MirrorNodeClient.pollWhileImmature]
      split
      · split
        · trivial
        · exact asks_bindExcept asks ih
      · trivial

/-- Polling goes on with ready records, if an answer that it takes is ready. -/
theorem screens_retrying (fetching : Fetching fetch op exchange)
    (taken : ∀ records, (maturity relay endpoint).taken (exchange records) = true ↔
      relay.mirrorNodeRequestRetryCount = 0 ∨ immature records = false)
    (ready : ∀ records, (maturity relay endpoint).ready (exchange records) = true → immature records = false) :
    (maturity relay endpoint).Screens (· = op)
      (MirrorNodeClient.retrying relay.mirrorNodeRequestRetryCount fetch immature) := by
  have dropped : ∀ waiting : List Records, (∀ early ∈ waiting, immature early = true) →
      (waiting.map exchange).filter (maturity relay endpoint).ready = [] := by
    intro waiting unready
    apply List.filter_eq_nil_iff.mpr
    intro early member isReady
    obtain ⟨records, listed, rfl⟩ := List.mem_map.mp member
    exact Bool.noConfusion ((unready records listed).symm.trans (ready records isReady))
  refine ⟨(asks_retrying fetching.queries).imp fun op asked _ => asked, ?_, ?_⟩
  · intro transcript outcome ran settled sound
    obtain ⟨waiting, records, rfl, unready, last, _, rfl⟩ := polled_retrying fetching ran settled
    have isReady := sound (exchange records) (List.mem_append_right _ List.mem_cons_self) ((taken records).mpr last)
    rw [List.filter_append, dropped waiting unready, List.filter_cons_of_pos isReady]
    exact ran_retrying_once fetching last
  · intro transcript other outcome different rest later ran again settled settledToo equal apart
    obtain ⟨waiting, records, rfl, unready, last, once, rfl⟩ := polled_retrying fetching ran settled
    rw [List.filter_append, dropped waiting unready, List.nil_append] at equal ⊢
    by_cases isReady : (maturity relay endpoint).ready (exchange records) = true
    · rw [List.filter_cons_of_pos isReady] at equal ⊢
      obtain ⟨same, sameOutcome⟩ := (ran_retrying_once fetching last).unique again equal
      refine ⟨?_, same, sameOutcome⟩
      intro received member isTaken
      rcases List.mem_append.mp member with early | final
      · obtain ⟨records, listed, rfl⟩ := List.mem_map.mp early
        rcases (taken records).mp isTaken with off | mature
        · rw [once off] at listed
          cases listed
        · exact Bool.noConfusion ((unready records listed).symm.trans mature)
      · rwa [List.mem_singleton.mp final]
    · rw [List.filter_cons_of_neg isReady] at equal
      obtain ⟨waitingToo, recordsToo, rfl, _⟩ := polled_retrying fetching again settledToo
      have inside : exchange recordsToo ∈ rest := by
        rw [show rest = _ from equal]
        simp
      exact absurd (fetching.asks recordsToo) (apart _ inside)

end Polling

section Endpoints
variable (relay : Relay) (endpoint : Endpoint)

private theorem screens_getContractResultsWithRetry (polls : endpoint.pollsResults = true)
    (params : ContractResultsParams) :
    (maturity relay endpoint).Screens (· = .getContractResults params)
      (MirrorNodeClient.getContractResultsWithRetry relay params) := by
  apply screens_retrying (fetching_getContractResults params)
  · intro results
    simp [maturity, takenAnswer, polls]
  · intro results ready
    simpa [maturity, matureAnswer] using ready

theorem screens_getContractResultWithRetry (transactionIdOrHash : String) :
    (maturity relay endpoint).Screens (· = .getContractResult transactionIdOrHash)
      (MirrorNodeClient.getContractResultWithRetry relay transactionIdOrHash) := by
  apply screens_retrying (fetching_getContractResult transactionIdOrHash)
  · rintro (_ | result)
    · simp [maturity, takenAnswer]
    · simp [maturity, takenAnswer]
  · rintro (_ | result) ready
    · rfl
    · simp only [maturity, matureAnswer, Bool.and_eq_true, Bool.not_eq_true'] at ready
      exact ready.1

private theorem screens_getContractResultsLogsWithRetry (params : LogsParams) :
    (maturity relay endpoint).Screens (· = .getContractResultsLogs none params)
      (MirrorNodeClient.getContractResultsLogsWithRetry relay params) := by
  apply screens_retrying (fetching_getContractResultsLogs params)
  · intro logs
    simp [maturity, takenAnswer]
  · intro logs ready
    simpa [maturity, matureAnswer] using ready

/-- The logs without an address are polled. -/
theorem screens_getLogsWithParams_absent (params : LogsParams) :
    (maturity relay endpoint).Screens (· = .getContractResultsLogs none params)
      (CommonService.getLogsWithParams relay .absent params) := by
  apply (screens_getContractResultsLogsWithRetry relay endpoint params).before
  · rintro _ rfl
    trivial
  · intro records
    exact silent_mapM silent_logOf

private theorem screens_getBlock (blockHashOrNumber : BlockHashOrNumber) (showDetails : Bool)
    (polls : endpoint.pollsResults = true) :
    (maturity relay endpoint).Screens MirrorOp.asksRecords
    (BlockService.getBlock relay blockHashOrNumber showDetails) := by
  refine Screening.Screens.after (silent_getHistoricalBlockResponse relay blockHashOrNumber) ?_
  rintro (_ | blockResponse)
  · exact Screening.screens_of_asks (silent_pure _)
  have polled := screens_getContractResultsWithRetry relay endpoint polls
    (.timestamp blockResponse.timestampFrom blockResponse.timestampTo)
  have logged := screens_getLogsWithParams_absent relay endpoint (BlockService.paramTimestamp blockResponse)
  refine (polled.bind _ (fun contractResults => logged.before ?_ fun logs => ?_) ?_ ?_).imp ?_
  · rintro _ rfl
    trivial
  · exact silent_bind (silent_ite (silent_throw _) (silent_pure _)) fun _ =>
      silent_bind (silent_transactionArray relay contractResults logs showDetails) fun _ =>
        silent_bind (silent_buildReceiptRootHashes relay _ contractResults logs) fun _ =>
          silent_bind (silent_bind (silent_getGasPriceInWeibars none) fun _ => silent_pure _) fun _ => silent_pure _
  · rintro _ rfl
    trivial
  · rintro _ rfl
    rintro ⟨⟩
  · rintro op (rfl | rfl) <;> trivial

/-- The contract results of the receipts of a block are fetched once. -/
theorem screens_getContractResults (polls : endpoint.pollsResults = false) (params : ContractResultsParams) :
    (maturity relay endpoint).Screens (· = .getContractResults params)
    (MirrorNodeClient.getContractResults params) := by
  have fetching := fetching_getContractResults params
  apply Screening.screens_of_length 1
  · exact fetching.queries.imp fun op asked _ => asked
  · intro transcript outcome ran settled
    rcases fetching.ran transcript outcome ran with ⟨results, rfl, _⟩ | failed
    · refine ⟨rfl, ?_⟩
      intro exchange member
      rw [List.mem_singleton.mp member]
      simp [maturity, takenAnswer, polls]
    · exact absurd trivial (settled _ failed)

private theorem screens_getBlockReceipts (blockHashOrBlockNumber : BlockHashOrNumber)
    (polls : endpoint.pollsResults = false) :
    (maturity relay endpoint).Screens MirrorOp.asksRecords
      (BlockService.getBlockReceipts relay blockHashOrBlockNumber) := by
  refine Screening.Screens.after (silent_getHistoricalBlockResponse relay blockHashOrBlockNumber) ?_
  rintro (_ | block)
  · exact Screening.screens_of_asks (silent_pure _)
  have fetched := screens_getContractResults relay endpoint polls (.timestamp block.timestampFrom block.timestampTo)
  have logged := screens_getLogsWithParams_absent relay endpoint (BlockService.paramTimestamp block)
  refine (fetched.bind (· = .getContractResultsLogs none (BlockService.paramTimestamp block))
    (fun contractResults => ?_) ?_ ?_).imp ?_
  · by_cases silent : contractResults = []
    · rw [if_pos silent]
      exact Screening.screens_of_asks (silent_pure _)
    · rw [if_neg silent]
      refine Screening.Screens.after (silent_getGasPriceInWeibars none) fun price => logged.before ?_ fun logs => ?_
      · rintro _ rfl
        trivial
      · exact silent_bind (silent_mapM fun contractResult => silent_regularReceipt relay _ logs contractResult) fun _ =>
          silent_pure _
  · rintro _ rfl
    trivial
  · rintro _ rfl
    rintro ⟨⟩
  · rintro op (rfl | rfl) <;> trivial

private theorem screens_getTransactionByHash (hash : String) :
    (maturity relay endpoint).Screens MirrorOp.asksRecords (TransactionService.getTransactionByHash relay hash) := by
  have polled := screens_getContractResultWithRetry relay endpoint hash
  have logged := screens_getLogsWithParams_absent relay endpoint (TransactionService.paramHash hash)
  refine (polled.bind (· = .getContractResultsLogs none (TransactionService.paramHash hash)) ?_ ?_ ?_).imp ?_
  · rintro (_ | contractResult)
    · refine logged.before ?_ fun logs => ?_
      · rintro _ rfl
        trivial
      · cases logs <;> exact silent_pure _
    · exact Screening.screens_of_asks (silent_bind (silent_resolveEvmAddress _ _) fun _ =>
        silent_bind (silent_resolveEvmAddress _ _) fun _ => silent_formatContractResult _)
  · rintro _ rfl
    trivial
  · rintro _ rfl
    rintro ⟨⟩
  · rintro op (rfl | rfl) <;> trivial

private theorem screens_getTransactionReceipt (hash : String) :
    (maturity relay endpoint).Screens MirrorOp.asksRecords (TransactionService.getTransactionReceipt relay hash) := by
  have polled := screens_getContractResultWithRetry relay endpoint hash
  have logged := screens_getLogsWithParams_absent relay endpoint (TransactionService.paramHash hash)
  refine (polled.bind (· = .getContractResultsLogs none (TransactionService.paramHash hash)) ?_ ?_ ?_).imp ?_
  · rintro (_ | receiptResponse)
    · refine logged.before ?_ fun logs => ?_
      · rintro _ rfl
        trivial
      · split
        · exact silent_bind (silent_getCurrentGasPriceForBlock _) fun _ => silent_pure _
        · exact silent_pure _
    · exact Screening.screens_of_asks (silent_bind (silent_bind (silent_getCurrentGasPriceForBlock _) fun _ =>
        silent_bind (silent_mapM (silent_receiptLog receiptResponse)) fun _ =>
          silent_bind (silent_resolveEvmAddress _ _) fun _ => silent_bind (silent_resolveEvmAddress _ _) fun _ =>
            silent_createRegularReceipt _ _ _ _ _) fun _ => silent_pure _)
  · rintro _ rfl
    trivial
  · rintro _ rfl
    rintro ⟨⟩
  · rintro op (rfl | rfl) <;> trivial

/-- The queries for the logs of an address. -/
def LogsOfAddress (params : LogsParams)
    (op : MirrorOp) : Prop := ∃ address, op = .getContractResultsLogs (some address) params

theorem settled_before_pure {call : Throwing First} {change : First → Next}
    {transcript : List (Exchange MirrorOp MirrorOp.Answer)} {outcome : Except RelayError Next}
    (ran : Ran (call >>= fun value => pure (change value)).run transcript outcome)
    (settled : (maturity relay endpoint).Settled outcome) :
    ∃ before, Ran call.run transcript before ∧ (maturity relay endpoint).Settled before := by
  rcases ran_bindExcept_iff.mp ran with ⟨begun, ended, value, rfl, called, built⟩ | ⟨error, rfl, called⟩
  · obtain ⟨rfl, _⟩ := ran_done_iff.mp built
    exact ⟨.ok value, by rwa [List.append_nil], Screening.settled_ok value⟩
  · exact ⟨.error error, called, Screening.settled_error.mpr (Screening.settled_error.mp settled)⟩

/-- One answer for each address that is not the zero address. -/
theorem ran_logsOfAddresses (params : LogsParams) (addresses : List String)
    {transcript : List (Exchange MirrorOp MirrorOp.Answer)} {outcome : Except RelayError (List ContractLog)}
    (ran : Ran (CommonService.logsOfAddresses params addresses).run transcript outcome)
    (settled : (maturity relay endpoint).Settled outcome) :
    transcript.length = (addresses.filter (· != zeroAddress)).length ∧
      ∀ exchange ∈ transcript, LogsOfAddress params exchange.1 ∧ (maturity relay endpoint).taken exchange = true := by
  induction addresses generalizing transcript outcome with
  | nil =>
      obtain ⟨rfl, _⟩ := ran_done_iff.mp ran
      exact ⟨rfl, List.forall_mem_nil _⟩
  | cons address rest ih =>
      cases zero : address == zeroAddress with
      | true =>
          have skipped : MirrorNodeClient.getContractResultsLogsByAddress address params = pure [] := by
            rw [MirrorNodeClient.getContractResultsLogsByAddress, if_pos zero]
          rw [CommonService.logsOfAddresses, skipped, pure_bind] at ran
          obtain ⟨before, listed, settledBefore⟩ := settled_before_pure relay endpoint ran settled
          rw [List.filter_cons_of_neg (by simp [bne, zero])]
          exact ih listed settledBefore
      | false =>
          have fetching := fetching_getContractResultsLogsByAddress params zero
          rw [List.filter_cons_of_pos (by simp [bne, zero]), List.length_cons]
          rcases ran_bindExcept_iff.mp ran with ⟨begun, ended, logs, rfl, fetched, followed⟩ | ⟨error, rfl, fetched⟩
          · rcases fetching.ran begun (.ok logs) fetched with ⟨records, rfl, _⟩ | failed
            · obtain ⟨before, listed, settledBefore⟩ := settled_before_pure relay endpoint followed settled
              obtain ⟨length, each⟩ := ih listed settledBefore
              exact ⟨congrArg (· + 1) length, List.forall_mem_cons.mpr ⟨⟨⟨address, rfl⟩, rfl⟩, each⟩⟩
            · cases failed
          · rcases fetching.ran transcript (.error error) fetched with ⟨_, _, same⟩ | failed
            · cases same
            · cases failed
              exact absurd trivial (settled _ rfl)

private theorem asks_logsOfAddresses (params : LogsParams) (addresses : List String) :
    (CommonService.logsOfAddresses params addresses).run.Asks (LogsOfAddress params) := by
  induction addresses with
  | nil => trivial
  | cons address rest ih =>
      refine asks_bindExcept ?_ fun logs => asks_bindExcept ih fun _ => trivial
      cases zero : address == zeroAddress with
      | true =>
          rw [MirrorNodeClient.getContractResultsLogsByAddress, if_pos zero]
          trivial
      | false => exact (fetching_getContractResultsLogsByAddress params zero).queries.imp fun op asked => ⟨address, asked⟩

/-- The logs of addresses are fetched once. -/
theorem screens_getLogsByAddress (addresses : List String) (params : LogsParams) :
    (maturity relay endpoint).Screens MirrorOp.asksRecords
      (CommonService.getLogsByAddress addresses params >>= fun records => records.mapM CommonService.logOf) := by
  have fetched : (maturity relay endpoint).Screens (LogsOfAddress params) (CommonService.logsOfAddresses params addresses) :=
    Screening.screens_of_length _ ((asks_logsOfAddresses params addresses).imp fun op asked _ => asked)
      fun transcript outcome ran settled => ran_logsOfAddresses relay endpoint params addresses ran settled
  have own : ∀ op, LogsOfAddress params op → op.asksRecords := by
    rintro _ ⟨address, rfl⟩
    trivial
  have sorted : (maturity relay endpoint).Screens (LogsOfAddress params)
      (CommonService.getLogsByAddress addresses params) := fetched.before own fun _ => silent_pure _
  exact (sorted.before own fun records => silent_mapM silent_logOf).imp own

private theorem screens_getLogsWithParams (address : AddressParam) (params : LogsParams) :
    (maturity relay endpoint).Screens MirrorOp.asksRecords (CommonService.getLogsWithParams relay address params) := by
  have polled : (maturity relay endpoint).Screens MirrorOp.asksRecords
      (CommonService.getLogsWithParams relay .absent params) := by
    apply (screens_getLogsWithParams_absent relay endpoint params).imp
    rintro _ rfl
    trivial
  cases address with
  | absent => exact polled
  | one address =>
      by_cases unnamed : address = ""
      · have same : CommonService.getLogsWithParams relay (.one address) params =
            CommonService.getLogsWithParams relay .absent params := by
          simp [CommonService.getLogsWithParams, unnamed]
        rw [same]
        exact polled
      · have same : CommonService.getLogsWithParams relay (.one address) params =
            CommonService.getLogsWithParams relay (.many [address]) params := by
          simp [CommonService.getLogsWithParams, unnamed]
        rw [same]
        exact screens_getLogsByAddress relay endpoint [address] params
  | many addresses => exact screens_getLogsByAddress relay endpoint addresses params

private theorem screens_getLogs (blockHash : Option String) (fromBlock toBlock : BlockParam) (address : AddressParam)
    (topics : Option (List (Option (List String)))) :
    (maturity relay endpoint).Screens MirrorOp.asksRecords
      (CommonService.getLogs relay blockHash fromBlock toBlock address topics) := by
  refine Screening.Screens.after ?_ ?_
  · cases blockHash with
    | some blockHash => exact silent_validateBlockHash blockHash
    | none => exact silent_validateBlockRange relay fromBlock toBlock address
  · rintro (_ | timestamp)
    · exact Screening.screens_of_asks (silent_pure _)
    · exact screens_getLogsWithParams relay endpoint address _

end Endpoints

theorem Endpoint.screens (relay : Relay) (endpoint : Endpoint) :
    (maturity relay endpoint).Screens MirrorOp.asksRecords (endpoint.call relay) := by
  cases endpoint with
  | getBlock blockHashOrNumber showDetails => exact screens_getBlock relay _ blockHashOrNumber showDetails rfl
  | getBlockReceipts blockHashOrBlockNumber => exact screens_getBlockReceipts relay _ blockHashOrBlockNumber rfl
  | getTransactionByHash hash => exact screens_getTransactionByHash relay _ hash
  | getTransactionReceipt hash => exact screens_getTransactionReceipt relay _ hash
  | getLogs blockHash fromBlock toBlock address topics =>
      exact screens_getLogs relay _ blockHash fromBlock toBlock address topics

/-- The answers that are used as they are. With polling these are the logs of an address,
the contract results of the receipts of a block, and the logs inside a result that a
receipt reads. -/
def uncheckedAnswer (retryCount : Nat) (endpoint : Endpoint) : Exchange MirrorOp MirrorOp.Answer → Bool
  | ⟨.getContractResults _, _⟩ => retryCount = 0 || !endpoint.pollsResults
  | ⟨.getContractResult _, some (some result)⟩ => retryCount = 0 || endpoint.readsLogs && !result.immature
  | ⟨.getContractResultsLogs address _, _⟩ => retryCount = 0 || address.isSome
  | _ => false

/-- Of the answers with which a call goes on, polling leaves only the unchecked ones to be
immature. -/
theorem taken_mature_iff (retryCount : Nat) (endpoint : Endpoint) (exchange : Exchange MirrorOp MirrorOp.Answer) :
    (takenAnswer retryCount endpoint.pollsResults exchange = true → matureAnswer endpoint.readsLogs exchange = true) ↔
      (uncheckedAnswer retryCount endpoint exchange = true → matureAnswer endpoint.readsLogs exchange = true) := by
  obtain ⟨op, answer⟩ := exchange
  cases op with
  | getContractResults params =>
      cases answer with
      | none => simp [matureAnswer]
      | some results =>
          simp only [takenAnswer, uncheckedAnswer, matureAnswer, Bool.or_eq_true]
          tauto
  | getContractResult transactionIdOrHash =>
      rcases answer with _ | _ | result
      · simp [matureAnswer]
      · simp [matureAnswer]
      · simp only [takenAnswer, uncheckedAnswer, matureAnswer, Bool.or_eq_true, Bool.and_eq_true]
        cases endpoint.readsLogs <;> simp; tauto
  | getContractResultsLogs address params =>
      cases answer with
      | none => simp [matureAnswer]
      | some logs =>
          cases address with
          | none =>
              simp only [takenAnswer, uncheckedAnswer, matureAnswer, Bool.or_eq_true, Option.isSome_none]
              simp only [decide_eq_true_eq, Bool.false_eq_true, or_false]
              tauto
          | some address => simp [takenAnswer, uncheckedAnswer]
  | _ => simp [matureAnswer]

/-- Whatever the mirror node answers, a call that sends an answer or fails with an internal
error does the same over the mature answers alone, exactly if every unchecked answer is
mature. -/
theorem ranMature_iff_uncheckedMature (relay : Relay) (endpoint : Endpoint)
    (transcript : List (Exchange MirrorOp MirrorOp.Answer)) (outcome : Except RelayError endpoint.Answer)
    (ran : Ran (endpoint.call relay).run transcript outcome)
    (sent : ∀ error, outcome = .error error → ¬ error.declared) :
    Ran (endpoint.call relay).run (transcript.filter (matureAnswer endpoint.readsLogs)) outcome ↔
      ∀ exchange ∈ transcript, uncheckedAnswer relay.mirrorNodeRequestRetryCount endpoint exchange = true →
        matureAnswer endpoint.readsLogs exchange = true := by
  have sound := (endpoint.screens relay).ran_ready_iff ran sent
  refine sound.trans (forall₂_congr fun exchange _ => ?_)
  exact taken_mature_iff relay.mirrorNodeRequestRetryCount endpoint exchange

def logsOfOneAddress : Endpoint := .getLogs (some "0xb1") .latest .latest (.one "0xe1") none

/-- The answers to the two queries for the logs of an address in a block. -/
def addressTranscript (record : ContractLog) : List (Exchange MirrorOp MirrorOp.Answer) :=
  [⟨.getBlockByHash "0xb1", some (some exampleBlock)⟩,
    ⟨.getContractResultsLogs (some "0xe1") {
      timestamp := some (exampleBlock.timestampFrom, exampleBlock.timestampTo)
      transactionHash := none
      topics := [] }, some [record]⟩]

/-- The log that is sent for the log of the example, under the hash of a block. -/
def sentLog (blockHash : String) : Log where
  address := "0xe1"
  blockHash
  blockNumber := numberTo0x 1
  data := "0x"
  logIndex := numberTo0x 0
  removed := false
  topics := []
  transactionHash := "0xs1"
  transactionIndex := numberTo0x 1

private theorem ran_logsOfOneAddress (record : ContractLog) {log : Log}
    (built : Ran ([record].mapM CommonService.logOf).run [] (.ok [log])) :
    Ran (logsOfOneAddress.call exampleRelay).run (addressTranscript record) (.ok [log]) := by
  apply ran_bindExcept_iff.mpr
  refine .inl ⟨[_], [_], _, rfl, .call .done, ?_⟩
  apply ran_bindExcept_iff.mpr
  refine .inl ⟨[_], [], [record], rfl, ?_, built⟩
  apply ran_bindExcept_iff.mpr
  refine .inl ⟨[_], [], [record], rfl, .call .done, ?_⟩
  rw [List.mergeSort_singleton]
  exact .done

def logsOfBlock : Endpoint := .getLogs (some "0xb1") .latest .latest .absent none

/-- The logs of a block are fetched again, as the first ones are immature. -/
def polledTranscript : List (Exchange MirrorOp MirrorOp.Answer) :=
  let params : LogsParams :=
    { timestamp := some (exampleBlock.timestampFrom, exampleBlock.timestampTo), transactionHash := none, topics := [] }
  [⟨.getBlockByHash "0xb1", some (some exampleBlock)⟩,
    ⟨.getContractResultsLogs none params, some [{ exampleLog with blockHash := "0x" }]⟩,
    ⟨.getContractResultsLogs none params, some [exampleLog]⟩]

private theorem ran_logsOfBlock : Ran (logsOfBlock.call exampleRelay).run polledTranscript (.ok [sentLog "0xb1"]) :=
  .call (.call (.call .done))

/-- Without the immature logs the answer is the same. -/
theorem ranMature_polledTranscript :
    (polledTranscript.filter (matureAnswer false)).length = 2 ∧
      Ran (logsOfBlock.call exampleRelay).run (polledTranscript.filter (matureAnswer false)) (.ok [sentLog "0xb1"]) :=
  ⟨rfl, (ranMature_iff_uncheckedMature exampleRelay logsOfBlock _ _ ran_logsOfBlock nofun).mpr (by decide)⟩

/-- The log of an address leaks the placeholder of the hash of its block. -/
theorem ranMature_immatureLog_fails :
    Ran (logsOfOneAddress.call exampleRelay).run (addressTranscript { exampleLog with blockHash := "0x" })
        (.ok [sentLog "0x"]) ∧
      ¬ Ran (logsOfOneAddress.call exampleRelay).run
        ((addressTranscript { exampleLog with blockHash := "0x" }).filter (matureAnswer false)) (.ok [sentLog "0x"]) := by
  refine ⟨ran_logsOfOneAddress _ .done, fun ran => ?_⟩
  have dropped : (addressTranscript { exampleLog with blockHash := "0x" }).filter (matureAnswer false) =
      [⟨.getBlockByHash "0xb1", some (some exampleBlock)⟩] := by rfl
  rw [dropped] at ran
  obtain ⟨_, _, same, ran⟩ := ran_call_iff.mp ran
  cases same
  obtain ⟨_, _, missing, _⟩ := ran_call_iff.mp ran
  cases missing

end HieroRelay.Blocks
