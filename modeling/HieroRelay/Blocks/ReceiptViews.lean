import HieroRelay.Blocks.SyntheticReceipt
import HieroRelay.Blocks.TransactionViews

/-! The receipts of a block and the receipt by the hash of a transaction: when they are the
same. -/

namespace HieroRelay.Blocks

open HieroRelay.Lib
open HieroRelay.Filters (AddressParam HexNumber Log numberTo0x toHash32)

variable {relay : Relay} {ledger : Ledger} {transaction : LedgerTransaction}

/-- The gas price at the start of the block of a transaction, or now where no block has
that hash. -/
def Ledger.priceAt (ledger : Ledger) (transaction : LedgerTransaction) : Option Nat :=
  CommonService.gasPriceOf (ledger.fees
    ((ledger.blocks.find? fun block => toHash32 block.hash == toHash32 transaction.blockHash).map MirrorNodeBlock.seconds))

private theorem respond_foundPrice {node : MirrorNode} {found : Option Nat} {price : Nat} :
    respond node (match found with
      | some price => return price
      | none => throw .COULD_NOT_ESTIMATE_GAS_PRICE) = .ok price ↔ found = some price := by
  cases found with
  | none => simp [respond_throw]
  | some found => simp only [respond_pure, Except.ok.injEq, Option.some.injEq]

theorem respond_getGasPriceInWeibars_eq_ok_iff {timestamp : Option Nat} {price : Nat} :
    respond ledger.node (CommonService.getGasPriceInWeibars timestamp) = .ok price ↔
      CommonService.gasPriceOf (ledger.fees timestamp) = some price := by
  rw [CommonService.getGasPriceInWeibars, MirrorNodeClient.getNetworkFees, respond_bind, respond_bind]
  exact respond_foundPrice

/-- The price for the hash of a block is the price for its first 32 bytes. -/
theorem respond_getCurrentGasPriceForBlock_eq_ok_iff (transaction : LedgerTransaction) {blockHash : String}
    (own : toHash32 blockHash = toHash32 transaction.blockHash) {gasPrice : HexNumber} :
    respond ledger.node (CommonService.getCurrentGasPriceForBlock blockHash) = .ok gasPrice ↔
      ledger.priceAt transaction = some gasPrice.value := by
  rw [CommonService.getCurrentGasPriceForBlock, respond_bind, bind_eq_ok_iff, Ledger.priceAt, ← own]
  constructor
  · rintro ⟨block, found, returned⟩
    cases found
    rw [respond_bind, bind_eq_ok_iff] at returned
    obtain ⟨price, priced, returned⟩ := returned
    cases returned
    exact respond_getGasPriceInWeibars_eq_ok_iff.mp priced
  · intro priced
    refine ⟨_, rfl, ?_⟩
    rw [respond_bind, bind_eq_ok_iff]
    exact ⟨_, respond_getGasPriceInWeibars_eq_ok_iff.mpr priced, rfl⟩

/-- A log of the detail is sent as the log of the endpoints for logs. -/
theorem receiptLog_eq_ok_iff {contractResult : ContractResult} (result : transaction.result = some contractResult)
    {item : ContractResultLog} {log : Log} :
    respond ledger.node (TransactionService.receiptLog contractResult item) = .ok log ↔
      Sends (transaction.record item) log := by
  obtain ⟨hash, blockHash, number, index, _⟩ := transaction.agrees contractResult result
  simp only [TransactionService.receiptLog, respond_bind, bind_eq_ok_iff, requiredNumberTo0x_eq_ok_iff, respond_pure,
    hash, blockHash, number, index]
  constructor
  · rintro ⟨blockNumber, known, logIndex, position, transactionIndex, place, built⟩
    cases built
    exact ⟨known, position, place, rfl, rfl, rfl, rfl, rfl, rfl⟩
  · rintro ⟨known, position, place, address, sentHash, data, removed, topics, transactionHash⟩
    refine ⟨_, known, _, position, _, place, ?_⟩
    cases log
    simp_all [LedgerTransaction.record]

/-- A receipt by its price and its logs. -/
theorem createRegularReceipt_eq_iff {contractResult : ContractResult} {effectiveGas : HexNumber}
    {fromAddress toAddress : Option String} {logs : List Log} {sent : TransactionReceipt}
    (created : respond ledger.node (TransactionReceiptFactory.createRegularReceipt contractResult effectiveGas fromAddress
      logs toAddress) = .ok sent) (otherGas : HexNumber) :
    respond ledger.node (TransactionReceiptFactory.createRegularReceipt contractResult otherGas fromAddress
      logs toAddress) = .ok sent ↔ otherGas = effectiveGas := by
  rw [TransactionReceiptFactory.createRegularReceipt, respond_bind, bind_eq_ok_iff] at created
  obtain ⟨blockNumber, number, created⟩ := created
  rw [respond_bind, bind_eq_ok_iff] at created
  obtain ⟨transactionIndex, index, created⟩ := created
  cases created
  rw [TransactionReceiptFactory.createRegularReceipt, respond_bind, number]
  change respond ledger.node (_ >>= _) = _ ↔ _
  rw [respond_bind, index]
  constructor
  · intro same
    have receipts := Except.ok.inj same
    exact congrArg TransactionReceipt.effectiveGasPrice receipts
  · rintro rfl
    rfl

private theorem createSyntheticReceipt_eq_iff {keccak256 : String → Digest} {logs : List Log} (present : logs ≠ [])
    (otherGas effectiveGas : HexNumber) :
    TransactionReceiptFactory.createSyntheticReceipt keccak256 logs present otherGas =
      TransactionReceiptFactory.createSyntheticReceipt keccak256 logs present effectiveGas ↔ otherGas = effectiveGas := by
  constructor
  · intro same
    exact congrArg TransactionReceipt.effectiveGasPrice same
  · rintro rfl
    rfl

/-- The block of the transaction is known, or nothing waits for it. -/
def Settled (relay : Relay) (transaction : LedgerTransaction) : Prop :=
  relay.mirrorNodeRequestRetryCount = 0 ∨ transaction.blockHash ≠ EMPTY_HEX

/-- Which log is sent for a record does not depend on the call. -/
theorem Sends.unique {record : ContractLog} {first second : Log} (sendsFirst : Sends record first)
    (sendsSecond : Sends record second) : first = second := by
  have madeFirst := (logOf_eq_ok_iff (exampleNode [] [])).mpr sendsFirst
  have madeSecond := (logOf_eq_ok_iff (exampleNode [] [])).mpr sendsSecond
  exact Except.ok.inj (madeFirst.symm.trans madeSecond)

theorem Sends.unique_list {records : List ContractLog} {first second : List Log}
    (sendsFirst : List.Forall₂ Sends records first)
    (sendsSecond : List.Forall₂ Sends records second) : first = second := by
  induction sendsFirst generalizing second with
  | nil =>
      cases sendsSecond
      rfl
  | cons sends _ ih =>
      cases sendsSecond with
      | cons other rest => rw [sends.unique other, ih rest]

/-- Of a record that was sent only the hash of its block may be missing. -/
theorem Sends.immature_iff {item : ContractResultLog} {log : Log} (sends : Sends (transaction.record item) log) :
    (transaction.record item).immature = true ↔ transaction.blockHash = EMPTY_HEX := by
  obtain ⟨number, position, index, _⟩ := sends
  have hash : (transaction.record item).blockHash = transaction.blockHash := rfl
  simp [ContractLog.immature, number, position, index, hash, EMPTY_HEX]

/-- A result with all its numbers is not ready only without the hash of its block. -/
theorem createRegularReceipt_immature_iff {contractResult : ContractResult} {effectiveGas : HexNumber}
    {fromAddress toAddress : Option String} {logs : List Log} {sent : TransactionReceipt}
    (created : respond ledger.node (TransactionReceiptFactory.createRegularReceipt contractResult effectiveGas fromAddress
      logs toAddress) = .ok sent) : contractResult.immature = true ↔ contractResult.blockHash = EMPTY_HEX := by
  rw [TransactionReceiptFactory.createRegularReceipt, respond_bind, bind_eq_ok_iff] at created
  obtain ⟨blockNumber, number, created⟩ := created
  rw [respond_bind, bind_eq_ok_iff] at created
  obtain ⟨transactionIndex, index, _⟩ := created
  rw [requiredNumberTo0x_eq_ok_iff] at number index
  simp [ContractResult.immature, number, index, EMPTY_HEX]

theorem settled_iff {immature : Bool} (unready : immature = true ↔ transaction.blockHash = EMPTY_HEX) :
    (relay.mirrorNodeRequestRetryCount = 0 ∨ immature = false) ↔ Settled relay transaction := by
  rw [Settled, ← Bool.not_eq_true, unready]

/-- The receipt of a detail, once its logs are known. -/
theorem respond_handleRegularTransactionReceipt {detail : ContractResult} (result : transaction.result = some detail)
    {logs : List Log} (sent : List.Forall₂ Sends transaction.records logs) :
    respond ledger.node (TransactionService.handleRegularTransactionReceipt detail) =
      respond ledger.node (CommonService.getCurrentGasPriceForBlock detail.blockHash) >>= fun effectiveGas =>
        respond ledger.node (TransactionReceiptFactory.createRegularReceipt { detail with logs := [] } effectiveGas
          (resolved ledger.node detail.fromAddress [.CONTRACT, .TOKEN, .ACCOUNT]) logs
          (resolved ledger.node detail.toAddress [.CONTRACT, .TOKEN, .ACCOUNT])) := by
  have listed : respond ledger.node (detail.logs.mapM (TransactionService.receiptLog detail)) = .ok logs := by
    obtain ⟨_, _, _, _, detailLogs⟩ := transaction.agrees detail result
    rw [respond_mapM, mapM_eq_ok_iff, detailLogs]
    rw [LedgerTransaction.records, List.forall₂_map_left_iff] at sent
    exact sent.imp fun _ _ sends => (receiptLog_eq_ok_iff result).mpr sends
  rw [TransactionService.handleRegularTransactionReceipt, respond_bind]
  congr 1
  funext effectiveGas
  rw [respond_bind, listed]
  change respond ledger.node (_ >>= _) = _
  rw [respond_bind, respond_resolveEvmAddress]
  change respond ledger.node (_ >>= _) = _
  rw [respond_bind, respond_resolveEvmAddress]
  rfl

/-- The receipt by the hash of a transaction with a result is that of the block, for the
same gas price. -/
theorem getTransactionReceipt_regular_iff (known : transaction ∈ ledger.transactions) {detail : ContractResult}
    (result : transaction.result = some detail) {logs : List Log} (sent : List.Forall₂ Sends transaction.records logs)
    {effectiveGas : HexNumber} {receipt : TransactionReceipt}
    (created : respond ledger.node (TransactionReceiptFactory.createRegularReceipt { detail with logs := [] } effectiveGas
      (resolved ledger.node detail.fromAddress [.CONTRACT, .TOKEN, .ACCOUNT]) logs
      (resolved ledger.node detail.toAddress [.CONTRACT, .TOKEN, .ACCOUNT])) = .ok receipt) :
    respond ledger.node (TransactionService.getTransactionReceipt relay transaction.hash) = .ok (some receipt) ↔
      ledger.priceAt transaction = some effectiveGas.value ∧ Settled relay transaction := by
  obtain ⟨_, blockHash, _⟩ := transaction.agrees detail result
  have own : toHash32 detail.blockHash = toHash32 transaction.blockHash := by rw [blockHash]
  have ready : (relay.mirrorNodeRequestRetryCount = 0 ∨ detail.immature = false) ↔ Settled relay transaction :=
    settled_iff ((createRegularReceipt_immature_iff created).trans (by rw [blockHash]))
  rw [TransactionService.getTransactionReceipt, respond_bind, bind_eq_ok_iff, ← ready,
    ← respond_getCurrentGasPriceForBlock_eq_ok_iff transaction own]
  constructor
  · rintro ⟨found, polled, returned⟩
    obtain ⟨first, settled⟩ := (retrying_eq_ok_iff ledger.node).mp polled
    rw [Ledger.respond_getContractResult, Ledger.find_eq known, Option.bind_some, result] at first
    cases first
    rw [respond_bind, bind_eq_ok_iff] at returned
    obtain ⟨sentReceipt, handled, returned⟩ := returned
    cases returned
    rw [respond_handleRegularTransactionReceipt result sent, bind_eq_ok_iff] at handled
    obtain ⟨gasPrice, priced, handled⟩ := handled
    rw [(createRegularReceipt_eq_iff created gasPrice).mp handled] at priced
    exact ⟨priced, settled⟩
  · rintro ⟨priced, settled⟩
    have polled : respond ledger.node (MirrorNodeClient.getContractResultWithRetry relay transaction.hash) =
        .ok (some detail) := by
      apply (retrying_eq_ok_iff ledger.node).mpr
      rw [Ledger.respond_getContractResult, Ledger.find_eq known, Option.bind_some, result]
      exact ⟨rfl, settled⟩
    have handled : respond ledger.node (TransactionService.handleRegularTransactionReceipt detail) = .ok receipt := by
      rw [respond_handleRegularTransactionReceipt result sent, bind_eq_ok_iff]
      exact ⟨effectiveGas, priced, created⟩
    refine ⟨some detail, polled, ?_⟩
    rw [respond_bind, handled]
    rfl

/-- The receipt by the hash of a synthetic transaction is that of the block, for the same
gas price. -/
theorem getTransactionReceipt_synthetic_iff (known : transaction ∈ ledger.transactions)
    (synthetic : transaction.result = none)
    {logs : List Log} (sent : List.Forall₂ Sends transaction.records logs) (present : logs ≠ [])
    (effectiveGas : HexNumber) :
    respond ledger.node (TransactionService.getTransactionReceipt relay transaction.hash) =
        .ok (some (TransactionReceiptFactory.createSyntheticReceipt relay.keccak256 logs present effectiveGas)) ↔
      ledger.priceAt transaction = some effectiveGas.value ∧ Settled relay transaction := by
  have headHash : toHash32 (logs.head present).blockHash = toHash32 transaction.blockHash := by
    obtain ⟨record, listed, sends⟩ := exists_of_mem_right sent (List.head_mem present)
    obtain ⟨item, _, rfl⟩ := List.mem_map.mp listed
    obtain ⟨_, _, _, _, hash, _⟩ := sends
    rw [hash, toHash32_idem]
    rfl
  have unready : (transaction.records.any ContractLog.immature) = true ↔ transaction.blockHash = EMPTY_HEX := by
    constructor
    · intro some
      obtain ⟨record, listed, immature⟩ := List.any_eq_true.mp some
      obtain ⟨log, _, sends⟩ := exists_of_mem_left sent listed
      obtain ⟨item, _, rfl⟩ := List.mem_map.mp listed
      exact sends.immature_iff.mp immature
    · intro unknown
      obtain ⟨record, listed, sends⟩ := exists_of_mem_right sent (List.head_mem present)
      obtain ⟨item, _, rfl⟩ := List.mem_map.mp listed
      exact List.any_eq_true.mpr ⟨_, listed, sends.immature_iff.mpr unknown⟩
  have answer : ledger.node (.getContractResultsLogs none (TransactionService.paramHash transaction.hash)) =
      some transaction.records := congrArg some (Ledger.logsOf_paramHash known)
  have ready : respond ledger.node (CommonService.getLogsWithParams relay .absent
      (TransactionService.paramHash transaction.hash)) = .ok logs ↔ Settled relay transaction := by
    rw [getLogsWithParams_eq_ok_iff, ← settled_iff unready]
    constructor
    · rintro ⟨records, found, settled, _⟩
      rw [answer] at found
      cases found
      exact settled
    · intro settled
      exact ⟨_, answer, settled, sent⟩
  have byHash : respond ledger.node (TransactionService.getTransactionReceipt relay transaction.hash) =
      respond ledger.node (TransactionService.handleSyntheticTransactionReceipt relay transaction.hash) := by
    have polled : respond ledger.node (MirrorNodeClient.getContractResultWithRetry relay transaction.hash) = .ok none := by
      apply (retrying_eq_ok_iff ledger.node).mpr
      rw [Ledger.respond_getContractResult, Ledger.find_eq known, Option.bind_some, synthetic]
      exact ⟨rfl, .inr rfl⟩
    rw [TransactionService.getTransactionReceipt, respond_bind, polled]
    rfl
  rw [byHash, TransactionService.handleSyntheticTransactionReceipt, respond_bind, bind_eq_ok_iff, ← ready,
    ← respond_getCurrentGasPriceForBlock_eq_ok_iff transaction headHash]
  constructor
  · rintro ⟨found, logged, returned⟩
    obtain ⟨records, listed, _, others⟩ := getLogsWithParams_eq_ok_iff.mp logged
    rw [answer] at listed
    cases listed
    obtain rfl := Sends.unique_list others sent
    rw [dif_pos present, respond_bind, bind_eq_ok_iff] at returned
    obtain ⟨gasPrice, priced, returned⟩ := returned
    have same := Option.some.inj (Except.ok.inj returned)
    rw [createSyntheticReceipt_eq_iff] at same
    exact ⟨same ▸ priced, logged⟩
  · rintro ⟨priced, logged⟩
    refine ⟨logs, logged, ?_⟩
    rw [dif_pos present, respond_bind, priced]
    rfl

/-- A receipt of a block with its transaction: the one of its result, or that of its logs. -/
theorem receipt_of_block {block : BlockHashOrNumber} {receipts : List TransactionReceipt} {receipt : TransactionReceipt}
    (returned : respond ledger.node (BlockService.getBlockReceipts relay block) = .ok (some receipts))
    (listed : receipt ∈ receipts) :
    ∃ price, CommonService.gasPriceOf (ledger.fees none) = some price ∧
      ∃ transaction ∈ ledger.transactions, transaction.hash = receipt.transactionHash ∧
        ∃ logs, List.Forall₂ Sends transaction.records logs ∧
          ((∃ detail, transaction.result = some detail ∧
              respond ledger.node (TransactionReceiptFactory.createRegularReceipt { detail with logs := [] }
                (numberTo0x price) (resolved ledger.node detail.fromAddress [.CONTRACT, .TOKEN, .ACCOUNT]) logs
                (resolved ledger.node detail.toAddress [.CONTRACT, .TOKEN, .ACCOUNT])) = .ok receipt) ∨
            transaction.result = none ∧ ∃ present : logs ≠ [], receipt =
              TransactionReceiptFactory.createSyntheticReceipt relay.keccak256 logs present (numberTo0x price)) := by
  obtain ⟨response, contractResults, _, results, outcome⟩ := getBlockReceipts_returns returned
  rcases outcome with ⟨_, rfl⟩ | ⟨_, price, logs, regular, priced, logged, built, rfl⟩
  · cases listed
  rw [Ledger.respond_getContractResults] at results
  cases results
  refine ⟨price, respond_getGasPriceInWeibars_eq_ok_iff.mp priced, ?_⟩
  have group : ∀ transaction ∈ ledger.transactions,
      transaction.inRange response.timestampFrom response.timestampTo = true →
      List.Forall₂ Sends transaction.records (BlockService.logsByHash logs transaction.hash) := by
    intro transaction known inside
    have sent := sends_logsByHash known logged
    rwa [if_pos inside] at sent
  rcases List.mem_append.mp listed with inRegular | inSynthetic
  · obtain ⟨contractResult, kept, created⟩ := exists_of_mem_right (regularReceipts_filterMap built) inRegular
    obtain ⟨transaction, known, inside, entry, _⟩ := Ledger.mem_accepted.mp kept
    obtain ⟨detail, result, rfl⟩ := Ledger.entry_eq_some_iff.mp entry
    obtain ⟨hash, _⟩ := transaction.agrees detail result
    refine ⟨transaction, known, ?_, _, group transaction known inside, .inl ⟨detail, result, ?_⟩⟩
    · rw [createRegularReceipt_transactionHash created]
      exact (ledger.short transaction known).symm.trans (by rw [← hash])
    · rw [← hash]
      exact created
  · obtain ⟨hash, other, present, rfl⟩ := mem_syntheticReceipts.mp inSynthetic
    obtain ⟨log, logListed⟩ := List.exists_mem_of_ne_nil _ present
    obtain ⟨logInside, same⟩ := mem_logsByHash.mp logListed
    obtain ⟨transaction, known, inside, own⟩ := Ledger.transaction_of_log logged logInside
    obtain rfl := same.symm.trans own
    refine ⟨transaction, known, (createSyntheticReceipt_transactionHash present _).symm, _,
      group transaction known inside, .inr ⟨?_, present, rfl⟩⟩
    cases result : transaction.result with
    | none => rfl
    | some detail =>
        have entry : transaction.entry = some { detail with logs := [] } := by rw [LedgerTransaction.entry, result]; rfl
        have shown := Ledger.mem_blockResults.mpr ⟨transaction, known, inside, entry⟩
        have same := Ledger.hash_of_entry entry
        exact absurd (List.mem_map.mpr ⟨_, shown, same⟩) other

/-- Every receipt of a block belongs to one transaction, and is the receipt by its hash
exactly if the gas price at its block is the price now and its block is known. -/
theorem receiptsAgree_iff_steadyPrice (relay : Relay) (ledger : Ledger) (block : BlockHashOrNumber)
    (receipts : List TransactionReceipt) (receipt : TransactionReceipt)
    (returned : respond ledger.node (BlockService.getBlockReceipts relay block) = .ok (some receipts))
    (listed : receipt ∈ receipts) :
    ∃ transaction ∈ ledger.transactions, transaction.hash = receipt.transactionHash ∧
      (respond ledger.node (TransactionService.getTransactionReceipt relay receipt.transactionHash) = .ok (some receipt) ↔
        ledger.priceAt transaction = CommonService.gasPriceOf (ledger.fees none) ∧ Settled relay transaction) := by
  obtain ⟨price, priced, transaction, known, same, logs, sent, outcome⟩ := receipt_of_block returned listed
  refine ⟨transaction, known, same, ?_⟩
  rw [← same, priced]
  rcases outcome with ⟨detail, result, created⟩ | ⟨synthetic, present, rfl⟩
  · exact getTransactionReceipt_regular_iff known result sent created
  · exact getTransactionReceipt_synthetic_iff known synthetic sent present (numberTo0x price)

/-- With one price for all times. -/
theorem receiptsAgree_onePrice : ∃ receipt,
    respond (exampleLedger [exampleRegular none] (fun _ => 100) (by decide) (by decide) (by decide)).node
      (TransactionService.getTransactionReceipt exampleRelay "0xt1") = .ok (some receipt) := by
  let ledger := exampleLedger [exampleRegular none] (fun _ => 100) (by decide) (by decide) (by decide)
  obtain ⟨receipts, returned, single⟩ : ∃ receipts,
    respond ledger.node (BlockService.getBlockReceipts exampleRelay (.hash "0xb1")) = .ok (some receipts) ∧
      receipts.map TransactionReceipt.transactionHash = ["0xt1"] := ⟨_, rfl, rfl⟩
  obtain ⟨receipt, rfl, hash⟩ := List.map_eq_singleton_iff.mp single
  obtain ⟨transaction, known, _, agree⟩ := receiptsAgree_iff_steadyPrice exampleRelay ledger (.hash "0xb1") [receipt]
    receipt returned List.mem_cons_self
  obtain rfl : transaction = exampleRegular none := List.mem_singleton.mp known
  rw [hash] at agree
  exact ⟨receipt, agree.mpr ⟨rfl, .inr (by decide)⟩⟩

/-- The price in an answer, and zero without a receipt. -/
def answeredPrice : Except RelayError (Option TransactionReceipt) → Nat
  | .ok (some receipt) => receipt.effectiveGasPrice.value
  | _ => 0

/-- After the price changed, the receipts of a block show the new one, and the receipt by
hash the old one. -/
theorem receiptsAgree_newPrice_fails : ∃ receipts receipt,
    respond (exampleLedger [exampleRegular none] (fun timestamp => if timestamp = none then 100 else 200)
        (by decide) (by decide) (by decide)).node
      (BlockService.getBlockReceipts exampleRelay (.hash "0xb1")) = .ok (some receipts) ∧
    receipt ∈ receipts ∧
    respond (exampleLedger [exampleRegular none] (fun timestamp => if timestamp = none then 100 else 200)
        (by decide) (by decide) (by decide)).node
      (TransactionService.getTransactionReceipt exampleRelay receipt.transactionHash) ≠ .ok (some receipt) := by
  refine ⟨_, _, rfl, List.mem_cons_self, fun same => ?_⟩
  have price := congrArg answeredPrice same
  exact absurd price (by decide)

end HieroRelay.Blocks
