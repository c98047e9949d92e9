import HieroRelay.Blocks.BlockAnswers

/-! One set of records behind every endpoint: the transactions of the chain, and the
answers that the mirror node computes from them. -/

namespace HieroRelay.Blocks

open HieroRelay.Lib
open HieroRelay.Filters (AddressParam HexNumber Log numberTo0x toHash32)

/-- A transaction with its logs; a synthetic one has no contract result. -/
structure LedgerTransaction where
  timestamp : Nat
  hash : String
  blockHash : String
  blockNumber : Option Nat
  transactionIndex : Option Nat
  logs : List ContractResultLog
  result : Option ContractResult
  agrees : ∀ contractResult, result = some contractResult → contractResult.hash = hash ∧
    contractResult.blockHash = blockHash ∧
    contractResult.blockNumber = blockNumber ∧ contractResult.transactionIndex = transactionIndex ∧
    contractResult.logs = logs

namespace LedgerTransaction

/-- A log as the endpoints for logs list it. -/
def record (transaction : LedgerTransaction) (log : ContractResultLog) : ContractLog where
  address := log.address
  blockHash := transaction.blockHash
  blockNumber := transaction.blockNumber
  data := log.data
  index := log.index
  timestamp := transaction.timestamp
  topics := log.topics
  transactionHash := transaction.hash
  transactionIndex := transaction.transactionIndex

def records (transaction : LedgerTransaction) : List ContractLog := transaction.logs.map transaction.record

/-- The result as a list shows it, without its logs. -/
def entry (transaction : LedgerTransaction) : Option ContractResult :=
  transaction.result.map fun contractResult => { contractResult with logs := [] }

def inRange (gte lte : Nat) (transaction : LedgerTransaction) : Bool :=
  gte ≤ transaction.timestamp && transaction.timestamp ≤ lte

end LedgerTransaction

/-- The transactions in their order. A hash has 32 bytes and belongs to one transaction,
and so does the index of a transaction in a block that is known. -/
structure Ledger where
  blocks : List MirrorNodeBlock
  transactions : List LedgerTransaction
  contract : String → Option Entity
  account : String → Option Entity
  token : String → Option Entity
  fees : Option Nat → List NetworkFee
  short : ∀ transaction ∈ transactions, toHash32 transaction.hash = transaction.hash
  distinct : (transactions.map LedgerTransaction.hash).Nodup
  indexed : ∀ first ∈ transactions, ∀ second ∈ transactions, first.result.isSome → second.result.isSome →
    (first.blockHash = second.blockHash ∧ first.blockHash ≠ EMPTY_HEX ∨
      first.blockNumber = second.blockNumber ∧ first.blockNumber.isSome) →
    first.transactionIndex = second.transactionIndex → first.transactionIndex.isSome → first = second

namespace Ledger

variable (ledger : Ledger)

def selects (address : Option String) (params : LogsParams) (transaction : LedgerTransaction)
    (log : ContractLog) : Bool :=
  params.timestamp.all (fun range => transaction.inRange range.1 range.2) &&
    params.transactionHash.all (· == transaction.hash) && address.all (· == log.address) &&
    params.topics.all fun (position, alternatives) => log.topics[position]?.any alternatives.contains

def logsOf (address : Option String) (params : LogsParams) : List ContractLog :=
  ledger.transactions.flatMap fun transaction => transaction.records.filter (selects address params transaction)

def find (hash : String) :
    Option LedgerTransaction := ledger.transactions.find? fun transaction => transaction.hash == hash

/-- A block is found by the first 32 bytes of its hash. -/
def node : MirrorNode
  | .getLatestBlock => some ledger.blocks.getLast?.toList
  | .getBlockByHash hash => some (ledger.blocks.find? fun block => toHash32 block.hash == toHash32 hash)
  | .getBlockByNumber number => some (ledger.blocks.find? fun block => block.number == number)
  | .getContractResults (.timestamp gte lte) =>
      some ((ledger.transactions.filter (LedgerTransaction.inRange gte lte)).filterMap LedgerTransaction.entry)
  | .getContractResults (.blockHash blockHash transactionIndex) =>
      some ((ledger.transactions.filter fun transaction => transaction.blockHash == blockHash &&
        transaction.transactionIndex == some transactionIndex).filterMap LedgerTransaction.entry)
  | .getContractResults (.blockNumber blockNumber transactionIndex) =>
      some ((ledger.transactions.filter fun transaction => transaction.blockNumber == some blockNumber &&
        transaction.transactionIndex == some transactionIndex).filterMap LedgerTransaction.entry)
  | .getContractResult hash => some ((ledger.find hash).bind LedgerTransaction.result)
  | .getContractResultsLogs address params => some (ledger.logsOf address params)
  | .getContract address => ledger.contract address
  | .getAccount address => ledger.account address
  | .getTokenById tokenId => ledger.token tokenId
  | .getNetworkFees timestamp => some (ledger.fees timestamp)

variable {ledger} {transaction : LedgerTransaction}

theorem eq_of_hash (known : transaction ∈ ledger.transactions) {other : LedgerTransaction}
    (otherKnown : other ∈ ledger.transactions) (same : transaction.hash = other.hash) : transaction = other :=
  List.inj_on_of_nodup_map ledger.distinct known otherKnown same

theorem find_eq (known : transaction ∈ ledger.transactions) : ledger.find transaction.hash = some transaction := by
  obtain ⟨found, present⟩ : ∃ found, ledger.find transaction.hash = some found :=
    Option.isSome_iff_exists.mp (List.find?_isSome.mpr ⟨transaction, known, beq_self_eq_true _⟩)
  have same : found.hash = transaction.hash := by simpa using List.find?_some present
  rw [present, eq_of_hash (List.mem_of_find?_eq_some present) known same]

theorem respond_getContractResult (ledger : Ledger) (hash : String) :
    respond ledger.node (MirrorNodeClient.getContractResult hash) =
      .ok ((ledger.find hash).bind LedgerTransaction.result) := rfl

/-- The results in the range of a block, without their logs. -/
def blockResults (ledger : Ledger) (block : MirrorNodeBlock) : List ContractResult :=
  (ledger.transactions.filter (LedgerTransaction.inRange block.timestampFrom block.timestampTo)).filterMap
    LedgerTransaction.entry

theorem respond_getContractResults (ledger : Ledger) (block : MirrorNodeBlock) :
    respond ledger.node (MirrorNodeClient.getContractResults (.timestamp block.timestampFrom block.timestampTo)) =
      .ok (ledger.blockResults block) := rfl

theorem entry_eq_some_iff {contractResult : ContractResult} :
    transaction.entry = some contractResult ↔
      ∃ detail, transaction.result = some detail ∧ { detail with logs := [] } = contractResult := by
  rw [LedgerTransaction.entry, Option.map_eq_some_iff]

theorem hash_of_entry {contractResult : ContractResult} (listed : transaction.entry = some contractResult) :
    contractResult.hash = transaction.hash := by
  obtain ⟨detail, result, rfl⟩ := entry_eq_some_iff.mp listed
  exact (transaction.agrees detail result).1

theorem mem_blockResults {block : MirrorNodeBlock} {contractResult : ContractResult} :
    contractResult ∈ ledger.blockResults block ↔
      ∃ transaction ∈ ledger.transactions, transaction.inRange block.timestampFrom block.timestampTo = true ∧
        transaction.entry = some contractResult := by
  rw [blockResults, List.mem_filterMap]
  simp only [List.mem_filter, and_assoc]

theorem nodup_transactions (ledger : Ledger) : ledger.transactions.Nodup := ledger.distinct.of_map _

theorem transactionHash_of_mem_records {log : ContractLog} (listed : log ∈ transaction.records) :
    log.transactionHash = transaction.hash := by
  obtain ⟨log, _, rfl⟩ := List.mem_map.mp listed
  rfl

/-- The logs in a range with the hash of a transaction are its logs, if it is in the range. -/
theorem logsOf_filter_hash (known : transaction ∈ ledger.transactions) (block : MirrorNodeBlock) :
    (ledger.logsOf none (BlockService.paramTimestamp block)).filter
    (fun log => log.transactionHash == transaction.hash) =
      if transaction.inRange block.timestampFrom block.timestampTo then transaction.records else [] := by
  have inside : ∀ other, selects none (BlockService.paramTimestamp block) other =
      fun _ => other.inRange block.timestampFrom block.timestampTo := by
    intro other
    funext log
    simp [selects, BlockService.paramTimestamp]
  rw [logsOf, List.filter_flatMap, flatMap_eq_of_unique (nodup_transactions ledger) known]
  · have own : ∀ log ∈ transaction.records, (log.transactionHash == transaction.hash) = true := by
      intro log listed
      exact beq_iff_eq.mpr (transactionHash_of_mem_records listed)
    simp only [inside]
    cases transaction.inRange block.timestampFrom block.timestampTo with
    | false => simp
    | true => simpa using own
  · intro other otherKnown different
    apply List.filter_eq_nil_iff.mpr
    intro log listed equal
    have hash := transactionHash_of_mem_records (List.mem_filter.mp listed).1
    exact different (eq_of_hash otherKnown known (hash.symm.trans (beq_iff_eq.mp equal)))

theorem short_of_mem_logsOf {address : Option String} {params : LogsParams} {log : ContractLog}
    (listed : log ∈ ledger.logsOf address params) : toHash32 log.transactionHash = log.transactionHash := by
  obtain ⟨other, otherKnown, inside⟩ := List.mem_flatMap.mp listed
  rw [transactionHash_of_mem_records (List.mem_filter.mp inside).1]
  exact ledger.short other otherKnown

/-- The logs with the hash of a transaction are its logs. -/
theorem logsOf_paramHash (known : transaction ∈ ledger.transactions) :
    ledger.logsOf none (TransactionService.paramHash transaction.hash) = transaction.records := by
  have own : ∀ other log, selects none (TransactionService.paramHash transaction.hash) other log =
      (transaction.hash == other.hash) := by
    intro other log
    simp [selects, TransactionService.paramHash]
  rw [logsOf, flatMap_eq_of_unique (nodup_transactions ledger) known]
  · simp [own]
  · intro other otherKnown different
    apply List.filter_eq_nil_iff.mpr
    intro log _ equal
    rw [own, beq_iff_eq] at equal
    exact different (eq_of_hash otherKnown known equal.symm)

end Ledger

/-- The log that is sent for a record. -/
def Sends (record : ContractLog) (log : Log) : Prop :=
  record.blockNumber = some log.blockNumber.value ∧ record.index = some log.logIndex.value ∧
    record.transactionIndex = some log.transactionIndex.value ∧ log.address = record.address ∧
    log.blockHash = toHash32 record.blockHash ∧ log.data = record.data ∧ log.removed = false ∧
    log.topics = record.topics ∧ log.transactionHash = toHash32 record.transactionHash

/-- The logs that are sent, one for each record, where all records are ready. -/
theorem getLogsWithParams_eq_ok_iff {relay : Relay} {node : MirrorNode} {params : LogsParams} {logs : List Log} :
    respond node (CommonService.getLogsWithParams relay .absent params) = .ok logs ↔
      ∃ records, node (.getContractResultsLogs none params) = some records ∧
        (relay.mirrorNodeRequestRetryCount = 0 ∨ records.any ContractLog.immature = false) ∧
        List.Forall₂ Sends records logs := by
  rw [CommonService.getLogsWithParams, respond_bind, bind_eq_ok_iff]
  constructor
  · rintro ⟨records, polled, built⟩
    obtain ⟨first, settled⟩ := (retrying_eq_ok_iff node).mp polled
    rw [respond_mapM] at built
    refine ⟨records, ?_, settled, (mapM_eq_ok_iff.mp built).imp fun _ _ made => (logOf_eq_ok_iff node).mp made⟩
    rw [MirrorNodeClient.getContractResultsLogs, respond_bind, respond_await] at first
    change respond node (answered _) = _ at first
    rw [respond_answered] at first
    split at first
    · next answer answered =>
        cases first
        exact answered
    · cases first
  · rintro ⟨records, answer, settled, sent⟩
    refine ⟨records, (retrying_eq_ok_iff node).mpr ⟨?_, settled⟩, ?_⟩
    · rw [MirrorNodeClient.getContractResultsLogs, respond_bind, respond_await]
      change respond node (answered _) = _
      rw [respond_answered, answer]
    · rw [respond_mapM]
      exact mapM_eq_ok_iff.mpr (sent.imp fun _ _ sends => (logOf_eq_ok_iff node).mpr sends)

def exampleRegular (chainId : Option String) : LedgerTransaction where
  timestamp := 1700000000100000000
  hash := "0xt1"
  blockHash := "0xb1"
  blockNumber := some 1
  transactionIndex := some 0
  logs := []
  result := some { exampleResult with chainId }
  agrees := by
    intro contractResult same
    cases same
    exact ⟨rfl, rfl, rfl, rfl, rfl⟩

def exampleSynthetic (logs : List ContractResultLog) : LedgerTransaction where
  timestamp := 1700000000500000000
  hash := "0xs1"
  blockHash := "0xb1"
  blockNumber := some 1
  transactionIndex := some 1
  logs
  result := none
  agrees := by
    intro contractResult absent
    cases absent

/-- One block with the transactions that are given. -/
def exampleLedger (transactions : List LedgerTransaction) (fees : Option Nat → Nat)
    (short : ∀ transaction ∈ transactions, toHash32 transaction.hash = transaction.hash)
    (distinct : (transactions.map LedgerTransaction.hash).Nodup)
    (oneResult : (transactions.filter fun transaction => transaction.result.isSome).length ≤ 1) : Ledger where
  blocks := [exampleBlock]
  transactions
  contract := fun _ => none
  account := fun _ => none
  token := fun _ => none
  fees := fun timestamp => [{ gas := fees timestamp, transactionType := "EthereumTransaction" }]
  short
  distinct
  indexed := by
    intro first firstKnown second secondKnown firstResult secondResult _ _ _
    have firstListed : first ∈ transactions.filter fun transaction => transaction.result.isSome :=
      List.mem_filter.mpr ⟨firstKnown, firstResult⟩
    have secondListed : second ∈ transactions.filter fun transaction => transaction.result.isSome :=
      List.mem_filter.mpr ⟨secondKnown, secondResult⟩
    match kept : transactions.filter fun transaction => transaction.result.isSome with
    | [] => rw [kept] at firstListed; cases firstListed
    | [only] =>
        rw [kept] at firstListed secondListed
        rw [List.mem_singleton.mp firstListed, List.mem_singleton.mp secondListed]
    | _ :: _ :: _ => rw [kept] at oneResult; simp at oneResult

end HieroRelay.Blocks
