import HieroRelay.Blocks.Ledger

/-! The receipt of a synthetic transaction, by its hash and in its block: when it lists all
logs, with a bloom that finds them. -/

namespace HieroRelay.Blocks

open HieroRelay.Lib
open HieroRelay.Filters (AddressParam HexNumber Log numberTo0x toHash32)

/-- All logs of the transaction in the order of their indices, and in the bloom the
address and every topic of each of them. -/
structure Complete (keccak256 : String → Digest) (records : List ContractLog)
    (receipt : TransactionReceipt) : Prop where
  all : ∃ listed : List ContractLog, listed.Perm records ∧ List.Forall₂ Sends listed receipt.logs
  ordered : receipt.logs.Pairwise fun first second => first.logIndex.value ≤ second.logIndex.value
  bloom : ∀ record ∈ records, ∀ item ∈ record.address :: record.topics,
    LogsBloomUtils.Contains keccak256 receipt.logsBloom item

/-- There is only one log, and it has an address and a topic. -/
def OneTopicalLog (records : List ContractLog) : Prop :=
  ∃ record, records = [record] ∧ record.address ≠ "" ∧ record.topics ≠ []

theorem createSyntheticReceipt_complete_iff {keccak256 : String → Digest} {records : List ContractLog} {logs : List Log}
    (sent : List.Forall₂ Sends records logs) (present : logs ≠ []) (gasPrice : HexNumber) :
    Complete keccak256 records (TransactionReceiptFactory.createSyntheticReceipt keccak256 logs present gasPrice) ↔
      OneTopicalLog records := by
  cases sent with
  | nil => exact absurd rfl present
  | @cons record log records logs sends rest =>
      obtain ⟨_, _, _, address, _, _, _, topics, _⟩ := id sends
      constructor
      · intro complete
        obtain ⟨listed, perm, shown⟩ := complete.all
        have one : (record :: records).length = 1 := perm.length_eq.symm.trans shown.length_eq
        obtain rfl : records = [] := List.length_eq_zero_iff.mp (by simpa using one)
        have found := complete.bloom record List.mem_cons_self record.address List.mem_cons_self
        refine ⟨record, rfl, ?_, ?_⟩
        · intro unnamed
          apply LogsBloomUtils.not_contains_emptyBloom keccak256 record.address
          have empty : LogsBloomUtils.buildLogsBloom keccak256 log.address log.topics = LogsBloomUtils.EMPTY_BLOOM := by
            rw [LogsBloomUtils.buildLogsBloom, if_pos (by rw [address, unnamed]; rfl)]
          exact empty ▸ found
        · intro untopical
          apply LogsBloomUtils.not_contains_emptyBloom keccak256 record.address
          have empty : LogsBloomUtils.buildLogsBloom keccak256 log.address log.topics = LogsBloomUtils.EMPTY_BLOOM := by
            rw [LogsBloomUtils.buildLogsBloom, topics, untopical]
            split <;> rfl
          exact empty ▸ found
      · rintro ⟨only, single, named, topical⟩
        obtain ⟨rfl, rfl⟩ := List.cons.inj single
        cases rest
        exact {
          all := ⟨[record], .refl _, .cons sends .nil⟩
          ordered := List.pairwise_singleton ..
          bloom := by
            intro other listed item inside
            obtain rfl := List.mem_singleton.mp listed
            change LogsBloomUtils.Contains keccak256 (LogsBloomUtils.buildLogsBloom keccak256 log.address log.topics) item
            rw [address, topics]
            exact LogsBloomUtils.contains_buildLogsBloom keccak256 _ _ named topical item inside }

variable {relay : Relay} {ledger : Ledger} {transaction : LedgerTransaction}

/-- The receipt by the hash of a synthetic transaction. -/
theorem getTransactionReceipt_synthetic (known : transaction ∈ ledger.transactions)
    (synthetic : transaction.result = none) {receipt : TransactionReceipt}
    (returned : respond ledger.node (TransactionService.getTransactionReceipt relay transaction.hash) = .ok (some receipt)) :
    ∃ logs, ∃ present : logs ≠ [], ∃ gasPrice, List.Forall₂ Sends transaction.records logs ∧
      respond ledger.node (CommonService.getCurrentGasPriceForBlock (logs.head present).blockHash) = .ok gasPrice ∧
      receipt = TransactionReceiptFactory.createSyntheticReceipt relay.keccak256 logs present gasPrice := by
  rw [TransactionService.getTransactionReceipt, respond_bind, bind_eq_ok_iff] at returned
  obtain ⟨result, polled, returned⟩ := returned
  obtain ⟨first, _⟩ := (retrying_eq_ok_iff ledger.node).mp polled
  rw [Ledger.respond_getContractResult, Ledger.find_eq known, Option.bind_some, synthetic] at first
  cases first
  change respond ledger.node (TransactionService.handleSyntheticTransactionReceipt relay transaction.hash) = _ at returned
  rw [TransactionService.handleSyntheticTransactionReceipt, respond_bind, bind_eq_ok_iff] at returned
  obtain ⟨logs, logged, returned⟩ := returned
  obtain ⟨records, answer, _, sent⟩ := getLogsWithParams_eq_ok_iff.mp logged
  obtain rfl : ledger.logsOf none (TransactionService.paramHash transaction.hash) = records := Option.some.inj answer
  rw [Ledger.logsOf_paramHash known] at sent
  split at returned
  · next present =>
      rw [respond_bind, bind_eq_ok_iff] at returned
      obtain ⟨gasPrice, priced, returned⟩ := returned
      cases returned
      exact ⟨logs, present, gasPrice, sent, priced, rfl⟩
  · cases returned

/-- The logs that a block groups under the hash of a transaction. -/
theorem sends_logsByHash (known : transaction ∈ ledger.transactions) {block : MirrorNodeBlock} {logs : List Log}
    (logged : respond ledger.node (CommonService.getLogsWithParams relay .absent (BlockService.paramTimestamp block)) =
      .ok logs) :
    List.Forall₂ Sends (if transaction.inRange block.timestampFrom block.timestampTo then transaction.records else [])
      (BlockService.logsByHash logs transaction.hash) := by
  obtain ⟨records, answer, _, sent⟩ := getLogsWithParams_eq_ok_iff.mp logged
  obtain rfl : ledger.logsOf none (BlockService.paramTimestamp block) = records := Option.some.inj answer
  rw [← Ledger.logsOf_filter_hash known block]
  have both := (List.forall₂_and_left _ _).mpr ⟨fun record => Ledger.short_of_mem_logsOf, sent⟩
  have kept := List.rel_filter (p := fun record => record.transactionHash == transaction.hash)
    (q := fun log => log.transactionHash == transaction.hash) ?_ both
  · exact ((List.forall₂_and_left _ _).mp kept).2
  · intro record log ⟨short, sends⟩
    obtain ⟨_, _, _, _, _, _, _, _, hash⟩ := sends
    simp [hash, short]

/-- The receipt of a synthetic transaction in its block. -/
theorem getBlockReceipts_synthetic (known : transaction ∈ ledger.transactions) (synthetic : transaction.result = none)
    {block : BlockHashOrNumber} {receipts : List TransactionReceipt} {receipt : TransactionReceipt}
    (returned : respond ledger.node (BlockService.getBlockReceipts relay block) = .ok (some receipts))
    (listed : receipt ∈ receipts) (same : receipt.transactionHash = transaction.hash) :
    ∃ logs, ∃ present : logs ≠ [], ∃ price, List.Forall₂ Sends transaction.records logs ∧
      respond ledger.node (CommonService.getGasPriceInWeibars none) = .ok price ∧
      receipt = TransactionReceiptFactory.createSyntheticReceipt relay.keccak256 logs present (numberTo0x price) := by
  obtain ⟨response, contractResults, _, results, outcome⟩ := getBlockReceipts_returns returned
  rcases outcome with ⟨_, rfl⟩ | ⟨_, price, logs, regular, priced, logged, built, rfl⟩
  · cases listed
  · rw [Ledger.respond_getContractResults] at results
    cases results
    rcases List.mem_append.mp listed with inRegular | inSynthetic
    · obtain ⟨contractResult, kept, created⟩ := exists_of_mem_right (regularReceipts_filterMap built) inRegular
      obtain ⟨other, otherKnown, _, entry⟩ := Ledger.mem_blockResults.mp (List.mem_filter.mp kept).1
      have hash : other.hash = transaction.hash := by
        rw [← same, createRegularReceipt_transactionHash created, Ledger.hash_of_entry entry, ledger.short other otherKnown]
      obtain rfl := Ledger.eq_of_hash otherKnown known hash
      rw [LedgerTransaction.entry, synthetic] at entry
      cases entry
    · obtain ⟨hash, _, present, rfl⟩ := mem_syntheticReceipts.mp inSynthetic
      rw [createSyntheticReceipt_transactionHash] at same
      subst same
      have sent := sends_logsByHash known logged
      split at sent
      · exact ⟨_, present, price, sent, priced, rfl⟩
      · exact absurd (List.forall₂_nil_left_iff.mp sent) present

/-- A receipt that is sent for a transaction: by its hash, or among those of a block. -/
inductive SentReceipt (relay : Relay) (ledger : Ledger) (transaction : LedgerTransaction) (receipt : TransactionReceipt) :
    Prop where
  | byHash (returned : respond ledger.node (TransactionService.getTransactionReceipt relay transaction.hash) =
      .ok (some receipt))
  | inBlock (block : BlockHashOrNumber) (receipts : List TransactionReceipt)
      (returned : respond ledger.node (BlockService.getBlockReceipts relay block) = .ok (some receipts))
      (listed : receipt ∈ receipts) (same : receipt.transactionHash = transaction.hash)

/-- Every receipt of a synthetic transaction is complete exactly if the transaction has one
log, which has an address and a topic. -/
theorem complete_iff_oneTopicalLog (relay : Relay) (ledger : Ledger) (transaction : LedgerTransaction)
    (known : transaction ∈ ledger.transactions) (synthetic : transaction.result = none) (receipt : TransactionReceipt)
    (sent : SentReceipt relay ledger transaction receipt) :
    Complete relay.keccak256 transaction.records receipt ↔ OneTopicalLog transaction.records := by
  cases sent with
  | byHash returned =>
      obtain ⟨logs, present, gasPrice, shown, _, rfl⟩ := getTransactionReceipt_synthetic known synthetic returned
      exact createSyntheticReceipt_complete_iff shown present gasPrice
  | inBlock block receipts returned listed same =>
      obtain ⟨logs, present, price, shown, _, rfl⟩ := getBlockReceipts_synthetic known synthetic returned listed same
      exact createSyntheticReceipt_complete_iff shown present (numberTo0x price)

def topicalLog (address : String) (index : Nat) : ContractResultLog where
  address
  data := "0x"
  index := some index
  topics := ["0xd1"]

/-- A synthetic transaction with one log. -/
theorem complete_oneLog :
    ∃ receipt, Complete exampleRelay.keccak256 (exampleSynthetic [topicalLog "0xe1" 0]).records receipt := by
  let ledger := exampleLedger [exampleSynthetic [topicalLog "0xe1" 0]] (fun _ => 100) (by decide) (by decide) (by decide)
  obtain ⟨receipt, returned⟩ : ∃ receipt,
    respond ledger.node (TransactionService.getTransactionReceipt exampleRelay "0xs1") = .ok (some receipt) := ⟨_, rfl⟩
  exact ⟨receipt, (complete_iff_oneTopicalLog exampleRelay ledger (exampleSynthetic [topicalLog "0xe1" 0])
    List.mem_cons_self rfl receipt (.byHash returned)).mpr ⟨_, rfl, by decide, by decide⟩⟩

/-- Of two logs the receipt lists the first. -/
theorem complete_twoLogs_fails : ∃ receipt,
    respond (exampleLedger [exampleSynthetic [topicalLog "0xe1" 0, topicalLog "0xe2" 1]] (fun _ => 100)
        (by decide) (by decide) (by decide)).node
      (TransactionService.getTransactionReceipt exampleRelay "0xs1") = .ok (some receipt) ∧
    ¬ Complete exampleRelay.keccak256 (exampleSynthetic [topicalLog "0xe1" 0, topicalLog "0xe2" 1]).records receipt := by
  refine ⟨_, rfl, fun complete => ?_⟩
  obtain ⟨listed, perm, shown⟩ := complete.all
  have two : 1 = 2 := shown.length_eq.symm.trans perm.length_eq
  exact absurd two (by decide)

end HieroRelay.Blocks
