import HieroRelay.Blocks.BlockAnswers

/-! The transactions of one block as hashes, as objects and as receipts: when the three
lists agree. -/

namespace HieroRelay.Blocks

open HieroRelay.Lib
open HieroRelay.Filters (AddressParam HexNumber Log numberTo0x toHash32)

/-- No hash is listed twice, the objects have the same hashes in the same order, and the
receipts have the same hashes. -/
structure SetsAgree (hashes details : TransactionArray) (receipts : List TransactionReceipt) : Prop where
  distinct : hashes.hashList.Nodup
  ordered : details.hashList = hashes.hashList
  received : ∀ hash, hash ∈ receipts.map TransactionReceipt.transactionHash ↔ hash ∈ hashes.hashList

/-- No hash of a result that is listed is longer than a hash of 32 bytes. -/
def ShortHashes (relay : Relay) (contractResults : List ContractResult) : Prop :=
  ∀ contractResult ∈ accepted relay contractResults, toHash32 contractResult.hash = contractResult.hash

instance (relay : Relay) (contractResults : List ContractResult) : Decidable (ShortHashes relay contractResults) :=
  inferInstanceAs (Decidable (∀ contractResult ∈ accepted relay contractResults, _))

/-- Listed results of one hash are one transaction. -/
def ResultsAgree (relay : Relay) (node : MirrorNode) (contractResults : List ContractResult) : Prop :=
  ∀ first ∈ accepted relay contractResults, ∀ second ∈ accepted relay contractResults,
    first.hash = second.hash → transactionOf relay node first = transactionOf relay node second

/-- Logs of one synthetic transaction have one address, and the same place in the chain. -/
def LogsAgree (relay : Relay) (contractResults : List ContractResult) (logs : List Log) : Prop :=
  ∀ first ∈ logs, ∀ second ∈ logs, first.transactionHash = second.transactionHash →
    first.transactionHash ∉ (accepted relay contractResults).map ContractResult.hash →
    first.address = second.address ∧ first.blockHash = second.blockHash ∧ first.blockNumber = second.blockNumber ∧
      first.transactionIndex = second.transactionIndex

instance (relay : Relay) (contractResults : List ContractResult) (logs : List Log) :
    Decidable (LogsAgree relay contractResults logs) :=
  inferInstanceAs (Decidable (∀ first ∈ logs, ∀ second ∈ logs, _))

/-- Every hash stands for one transaction, in every list. -/
structure OneTransactionPerHash (relay : Relay) (node : MirrorNode) (contractResults : List ContractResult)
    (logs : List Log) : Prop where
  short : ShortHashes relay contractResults
  results : ResultsAgree relay node contractResults
  synthetic : LogsAgree relay contractResults logs
  started : contractResults = [] → logs = []
  reverted : ∀ log ∈ logs, log.transactionHash ∈ contractResults.map ContractResult.hash →
    log.transactionHash ∈ (accepted relay contractResults).map ContractResult.hash

variable {relay : Relay} {node : MirrorNode} {block : BlockHashOrNumber} {response : MirrorNodeBlock}
  {contractResults : List ContractResult} {logs : List Log}

private theorem transactionArray_hashes {txArray : TransactionArray}
    (returned : respond node (BlockService.transactionArray relay contractResults logs false) = .ok txArray) :
    txArray = .hashes (BlockService.populateSyntheticHashes relay logs
      ((accepted relay contractResults).map ContractResult.hash)) := by
  rw [BlockService.transactionArray, respond_bind, respond_prepareTransactionArray] at returned
  simp only [respond_pure] at returned
  rw [mapM_ok fun contractResult => (prepared relay node contractResult).hash] at returned
  cases returned
  rfl

/-- The synthetic transaction of a log, which always exists. -/
def syntheticObject (chain : String) (log : Log) : Transaction := (BlockService.syntheticTransaction chain log).get rfl

/-- What a block with details lists before equal transactions are dropped. -/
def listedDetails (chain : String) (logs : List Log) (transactions : List Transaction) : List Transaction :=
  transactions ++ (logs.filter fun log => !(transactions.map fun transaction => transaction.hash).contains
    log.transactionHash).map (syntheticObject chain)

theorem populateSyntheticDetails_eq (relay : Relay) (logs : List Log) (transactions : List Transaction) :
    BlockService.populateSyntheticDetails relay logs transactions =
      uniqWith (listedDetails relay.chain logs transactions) := by
  have every : BlockService.syntheticTransaction relay.chain = some ∘ syntheticObject relay.chain := rfl
  have known : (fun log : Log => !transactions.any fun transaction => transaction.hash == log.transactionHash) =
      fun log => !(transactions.map fun transaction => transaction.hash).contains log.transactionHash := by
    funext log
    rw [List.contains_eq_any_beq, List.any_map]
    simp only [Function.comp_def, Bool.beq_comm]
  rw [BlockService.populateSyntheticDetails, UniqWith.apply_eq, known, every, List.filterMap_eq_map, listedDetails]

theorem populateSyntheticHashes_eq (relay : Relay) (logs : List Log) (hashes : List String) :
    BlockService.populateSyntheticHashes relay logs hashes = uniqWith (hashes ++ (logs.filter fun log =>
      !hashes.contains log.transactionHash).map Log.transactionHash) :=
  relay.uniqHashes.apply_eq _

/-- Two logs give the same synthetic transaction exactly if they agree on its fields. -/
theorem syntheticTransaction_eq_iff (chain : String) (first second : Log) :
    BlockService.syntheticTransaction chain first = BlockService.syntheticTransaction chain second ↔
      first.transactionHash = second.transactionHash ∧ first.address = second.address ∧
        first.blockHash = second.blockHash ∧ first.blockNumber = second.blockNumber ∧
        first.transactionIndex = second.transactionIndex := by
  simp only [BlockService.syntheticTransaction, TransactionFactory.createTransactionByType, Option.some.injEq,
    Transaction.mk.injEq, TransactionFields.mk.injEq]
  tauto

theorem toHash32_idem (hash : String) : toHash32 (toHash32 hash) = toHash32 hash := by
  simp [toHash32, List.take_take]

/-- The logs that are sent have short hashes. -/
theorem Fetches.shortHash (fetched : Fetches relay node block response contractResults logs) :
    ∀ log ∈ logs, toHash32 log.transactionHash = log.transactionHash := by
  have logged := fetched.logged
  rw [CommonService.getLogsWithParams, respond_bind, bind_eq_ok_iff] at logged
  obtain ⟨records, _, built⟩ := logged
  rw [respond_mapM] at built
  intro log listed
  obtain ⟨record, _, made⟩ := exists_of_mem_right (mapM_eq_ok_iff.mp built) listed
  obtain ⟨_, _, _, _, _, _, _, _, same⟩ := (logOf_eq_ok_iff node).mp made
  rw [same]
  exact toHash32_idem _

section Ordered
variable {transactions : List Transaction}
  (built : List.Forall₂ (fun contractResult transaction => transactionOf relay node contractResult = .ok (some transaction))
    (accepted relay contractResults) transactions)
include built

theorem map_hash_eq : (transactions.map fun transaction => transaction.hash) =
    (accepted relay contractResults).map fun contractResult => toHash32 contractResult.hash := by
  have related : List.Forall₂ Eq (transactions.map fun transaction => transaction.hash)
      ((accepted relay contractResults).map fun contractResult => toHash32 contractResult.hash) := by
    rw [List.forall₂_map_left_iff, List.forall₂_map_right_iff]
    exact built.flip.imp fun _ _ made => hash_of_transactionOf relay node made
  rwa [List.forall₂_eq_eq_eq] at related

/-- The hashes with details before equal transactions are dropped, where no hash is cut. -/
theorem map_hash_listedDetails (short : ShortHashes relay contractResults) (logs : List Log) :
    (listedDetails relay.chain logs transactions).map (fun transaction => transaction.hash) =
      (accepted relay contractResults).map ContractResult.hash ++
        (logs.filter fun log => !((accepted relay contractResults).map ContractResult.hash).contains
          log.transactionHash).map Log.transactionHash := by
  have cut : (transactions.map fun transaction => transaction.hash) =
      (accepted relay contractResults).map ContractResult.hash := by
    rw [map_hash_eq built]
    exact List.map_congr_left short
  rw [listedDetails, List.map_append, cut, List.map_map]
  rfl

/-- A listed transaction is that of a result, or that of a log whose hash no result has. -/
theorem mem_listedDetails (short : ShortHashes relay contractResults) (logs : List Log) (transaction : Transaction) :
    transaction ∈ listedDetails relay.chain logs transactions ↔
      transaction ∈ transactions ∨ ∃ log ∈ logs,
        log.transactionHash ∉ (accepted relay contractResults).map ContractResult.hash ∧
          syntheticObject relay.chain log = transaction := by
  have cut : (transactions.map fun transaction => transaction.hash) =
      (accepted relay contractResults).map ContractResult.hash := by
    rw [map_hash_eq built]
    exact List.map_congr_left short
  rw [listedDetails, cut, List.mem_append, List.mem_map]
  simp only [List.mem_filter, Bool.not_eq_true', List.contains_eq_mem, decide_eq_false_iff_not, and_assoc]

/-- No two different listed transactions share a hash exactly if every hash stands for
one result, or for logs that agree. -/
theorem apart_iff (short : ShortHashes relay contractResults) (logs : List Log) :
    (∀ first ∈ listedDetails relay.chain logs transactions, ∀ second ∈ listedDetails relay.chain logs transactions,
      first.hash = second.hash → first = second) ↔
    ResultsAgree relay node contractResults ∧ LogsAgree relay contractResults logs := by
  have hashOf : ∀ {contractResult transaction}, contractResult ∈ accepted relay contractResults →
      transactionOf relay node contractResult = .ok (some transaction) → transaction.hash = contractResult.hash :=
    fun listed made => (hash_of_transactionOf relay node made).trans (short _ listed)
  constructor
  · intro apart
    constructor
    · intro first firstListed second secondListed same
      obtain ⟨one, oneListed, oneMade⟩ := exists_of_mem_left built firstListed
      obtain ⟨other, otherListed, otherMade⟩ := exists_of_mem_left built secondListed
      have equal : one = other := by
        apply apart one ((mem_listedDetails built short logs one).mpr (.inl oneListed)) other
          ((mem_listedDetails built short logs other).mpr (.inl otherListed))
        rw [hashOf firstListed oneMade, hashOf secondListed otherMade, same]
      rw [oneMade, otherMade, equal]
    · intro first firstListed second secondListed same synthetic
      have equal : syntheticObject relay.chain first = syntheticObject relay.chain second := by
        apply apart
        · exact (mem_listedDetails built short logs _).mpr (.inr ⟨first, firstListed, synthetic, rfl⟩)
        · exact (mem_listedDetails built short logs _).mpr (.inr ⟨second, secondListed, same ▸ synthetic, rfl⟩)
        · exact same
      exact ((syntheticTransaction_eq_iff relay.chain first second).mp (congrArg some equal)).2
  · rintro ⟨results, synthetic⟩ first firstListed second secondListed same
    have absent : ∀ {transaction : Transaction} {log : Log}, transaction ∈ transactions →
        log.transactionHash ∉ (accepted relay contractResults).map ContractResult.hash →
        transaction.hash ≠ log.transactionHash := by
      intro transaction log listed unknown equal
      obtain ⟨contractResult, known, made⟩ := exists_of_mem_right built listed
      exact unknown (List.mem_map.mpr ⟨contractResult, known, (hashOf known made).symm.trans equal⟩)
    rcases (mem_listedDetails built short logs first).mp firstListed with firstRegular | ⟨log, logged, unknown, rfl⟩
    · rcases (mem_listedDetails built short logs second).mp secondListed with secondRegular | ⟨log, logged, unknown, rfl⟩
      · obtain ⟨one, oneListed, oneMade⟩ := exists_of_mem_right built firstRegular
        obtain ⟨other, otherListed, otherMade⟩ := exists_of_mem_right built secondRegular
        have equal := results one oneListed other otherListed
          ((hashOf oneListed oneMade).symm.trans (same.trans (hashOf otherListed otherMade)))
        rw [oneMade, otherMade] at equal
        exact Option.some.inj (Except.ok.inj equal)
      · exact absurd same (absent firstRegular unknown)
    · rcases (mem_listedDetails built short logs second).mp secondListed with secondRegular | ⟨other, otherLogged, _, rfl⟩
      · exact absurd same.symm (absent secondRegular unknown)
      · have fields := synthetic log logged other otherLogged same unknown
        exact Option.some.inj ((syntheticTransaction_eq_iff relay.chain log other).mpr ⟨same, fields⟩)

end Ordered

/-- The objects have the hashes of the list in its order exactly if every hash is short
and stands for one transaction. -/
theorem ordered_iff {transactions : List Transaction}
    (built : List.Forall₂ (fun contractResult transaction =>
      transactionOf relay node contractResult = .ok (some transaction))
      (accepted relay contractResults) transactions)
    (shortLogs : ∀ log ∈ logs, toHash32 log.transactionHash = log.transactionHash) :
    ((uniqWith (listedDetails relay.chain logs transactions)).map fun transaction => transaction.hash) =
        BlockService.populateSyntheticHashes relay logs ((accepted relay contractResults).map ContractResult.hash) ↔
      ShortHashes relay contractResults ∧ ResultsAgree relay node contractResults ∧
        LogsAgree relay contractResults logs := by
  constructor
  · intro same
    have short : ShortHashes relay contractResults := by
      intro contractResult listed
      have known : contractResult.hash ∈ (uniqWith (listedDetails relay.chain logs transactions)).map fun transaction =>
          transaction.hash := by
        rw [same, populateSyntheticHashes_eq, mem_uniqWith]
        exact List.mem_append_left _ (List.mem_map_of_mem listed)
      obtain ⟨transaction, kept, hash⟩ := List.mem_map.mp known
      rw [mem_uniqWith, listedDetails] at kept
      rcases List.mem_append.mp kept with regular | synthetic
      · obtain ⟨other, _, made⟩ := exists_of_mem_right built regular
        rw [← hash, hash_of_transactionOf relay node made, toHash32_idem]
      · obtain ⟨log, logged, rfl⟩ := List.mem_map.mp synthetic
        rw [← hash]
        exact shortLogs log (List.mem_filter.mp logged).1
    refine ⟨short, (apart_iff built short logs).mp ?_⟩
    apply (map_uniqWith_iff _ _).mp
    rw [same, map_hash_listedDetails built short, populateSyntheticHashes_eq]
  · rintro ⟨short, apart⟩
    rw [(map_uniqWith_iff _ _).mpr ((apart_iff built short logs).mpr apart), map_hash_listedDetails built short,
      populateSyntheticHashes_eq]

/-- The hashes of the receipts. -/
theorem mem_receipts_iff (short : ShortHashes relay contractResults) {effectiveGas : HexNumber}
    {regular : List (Option TransactionReceipt)}
    (built : List.Forall₂ (fun contractResult receipt =>
      respond node (BlockService.regularReceipt relay effectiveGas logs contractResult) = .ok receipt)
      contractResults regular) (hash : String) :
    hash ∈ (regular.filterMap id ++ BlockService.syntheticReceipts relay effectiveGas logs contractResults).map
        TransactionReceipt.transactionHash ↔
      hash ∈ (accepted relay contractResults).map ContractResult.hash ∨
        hash ∈ logs.map Log.transactionHash ∧ hash ∉ contractResults.map ContractResult.hash := by
  have made := regularReceipts_filterMap built
  rw [List.map_append, List.mem_append]
  apply or_congr
  · rw [List.mem_map, List.mem_map]
    constructor
    · rintro ⟨receipt, listed, rfl⟩
      obtain ⟨contractResult, known, created⟩ := exists_of_mem_right made listed
      exact ⟨contractResult, known, (short _ known).symm.trans (createRegularReceipt_transactionHash created).symm⟩
    · rintro ⟨contractResult, known, rfl⟩
      obtain ⟨receipt, listed, created⟩ := exists_of_mem_left made known
      exact ⟨receipt, listed, (createRegularReceipt_transactionHash created).trans (short _ known)⟩
  · rw [List.mem_map]
    constructor
    · rintro ⟨receipt, listed, rfl⟩
      obtain ⟨hash, synthetic, present, rfl⟩ := mem_syntheticReceipts.mp listed
      rw [createSyntheticReceipt_transactionHash]
      obtain ⟨logged, same⟩ := mem_logsByHash.mp (List.head_mem present)
      exact ⟨List.mem_map.mpr ⟨_, logged, same⟩, synthetic⟩
    · rintro ⟨logged, synthetic⟩
      obtain ⟨log, known, rfl⟩ := List.mem_map.mp logged
      have present : BlockService.logsByHash logs log.transactionHash ≠ [] :=
        List.ne_nil_of_mem (mem_logsByHash.mpr ⟨known, rfl⟩)
      exact ⟨_, mem_syntheticReceipts.mpr ⟨_, synthetic, present, rfl⟩, createSyntheticReceipt_transactionHash ..⟩

/-- The receipts have the hashes of the list, where no hash is cut, exactly if a block
with logs has a result and no log belongs to a reverted result alone. -/
theorem received_iff (fetched : Fetches relay node block response contractResults logs)
    (short : ShortHashes relay contractResults) {receipts : List TransactionReceipt}
    (returned : respond node (BlockService.getBlockReceipts relay block) = .ok (some receipts)) :
    (∀ hash, hash ∈ receipts.map TransactionReceipt.transactionHash ↔
        hash ∈ BlockService.populateSyntheticHashes relay logs ((accepted relay contractResults).map ContractResult.hash)) ↔
      (contractResults = [] → logs = []) ∧
        ∀ log ∈ logs, log.transactionHash ∈ contractResults.map ContractResult.hash →
          log.transactionHash ∈ (accepted relay contractResults).map ContractResult.hash := by
  have listed : ∀ hash, hash ∈ BlockService.populateSyntheticHashes relay logs
    ((accepted relay contractResults).map ContractResult.hash) ↔
      hash ∈ (accepted relay contractResults).map ContractResult.hash ∨ hash ∈ logs.map Log.transactionHash := by
    intro hash
    rw [populateSyntheticHashes_eq, mem_uniqWith, List.mem_append, List.mem_map (l := logs.filter _),
      List.mem_map (l := logs)]
    simp only [List.mem_filter, Bool.not_eq_true', List.contains_eq_mem, decide_eq_false_iff_not]
    constructor
    · rintro (regular | ⟨log, ⟨logged, _⟩, same⟩)
      · exact .inl regular
      · exact .inr ⟨log, logged, same⟩
    · rintro (regular | ⟨log, logged, rfl⟩)
      · exact .inl regular
      · by_cases known : log.transactionHash ∈ (accepted relay contractResults).map ContractResult.hash
        · exact .inl known
        · exact .inr ⟨log, ⟨logged, known⟩, rfl⟩
  simp only [listed]
  rcases fetched.receipts returned with ⟨rfl, rfl⟩ | ⟨some, price, regular, built, rfl⟩
  · constructor
    · intro same
      refine ⟨fun _ => List.eq_nil_iff_forall_not_mem.mpr fun log logged => ?_, nofun⟩
      exact List.not_mem_nil ((same log.transactionHash).mpr (.inr (List.mem_map_of_mem logged)))
    · rintro ⟨silent, _⟩ hash
      rw [silent rfl]
      simp [accepted]
  · simp only [mem_receipts_iff short built]
    constructor
    · intro same
      refine ⟨fun none => absurd none some, ?_⟩
      intro log logged known
      rcases (same log.transactionHash).mpr (.inr (List.mem_map_of_mem logged)) with regular | ⟨_, synthetic⟩
      · exact regular
      · exact absurd known synthetic
    · rintro ⟨_, reverted⟩ hash
      constructor
      · rintro (regular | ⟨logged, _⟩)
        · exact .inl regular
        · exact .inr logged
      · rintro (regular | logged)
        · exact .inl regular
        · by_cases known : hash ∈ contractResults.map ContractResult.hash
          · obtain ⟨log, listed, rfl⟩ := List.mem_map.mp logged
            exact .inl (reverted log listed known)
          · exact .inr ⟨logged, known⟩

/-- The three lists of a block agree exactly if every hash stands for one transaction. -/
theorem setsAgree_iff_oneTransactionPerHash (relay : Relay) (node : MirrorNode) (block : BlockHashOrNumber)
    (response : MirrorNodeBlock) (contractResults : List ContractResult) (logs : List Log)
    (fetched : Fetches relay node block response contractResults logs) (hashes details : Block)
    (receipts : List TransactionReceipt)
    (listed : respond node (BlockService.getBlock relay block false) = .ok (some hashes))
    (detailed : respond node (BlockService.getBlock relay block true) = .ok (some details))
    (received : respond node (BlockService.getBlockReceipts relay block) = .ok (some receipts)) :
    SetsAgree hashes.transactions details.transactions receipts ↔
      OneTransactionPerHash relay node contractResults logs := by
  have plain := transactionArray_hashes (fetched.transactions listed)
  obtain ⟨transactions, built, objects⟩ := transactionArray_details relay node (fetched.transactions detailed)
  rw [populateSyntheticDetails_eq] at objects
  have ordered := ordered_iff built fetched.shortHash
  rw [plain, objects]
  constructor
  · intro agree
    obtain ⟨short, results, synthetic⟩ := ordered.mp agree.ordered
    obtain ⟨started, reverted⟩ := (received_iff fetched short received).mp agree.received
    exact { short, results, synthetic, started, reverted }
  · intro one
    exact {
      distinct := (populateSyntheticHashes_eq relay logs _).symm ▸ nodup_uniqWith _
      ordered := ordered.mpr ⟨one.short, one.results, one.synthetic⟩
      received := (received_iff fetched one.short received).mpr ⟨one.started, one.reverted⟩ }

/-- A block with one result and one synthetic transaction, which has one log. -/
theorem setsAgree_oneOfEach :
    ∃ hashes details receipts, SetsAgree hashes details receipts ∧ hashes.hashList = ["0xt1", "0xs1"] := by
  let node := exampleNode [exampleResult] [exampleLog]
  obtain ⟨logs, logged⟩ : ∃ logs, respond node (CommonService.getLogsWithParams exampleRelay .absent
    (BlockService.paramTimestamp exampleBlock)) = .ok logs := ⟨_, rfl⟩
  obtain ⟨hashes, listed⟩ : ∃ hashes, respond node (BlockService.getBlock exampleRelay (.hash "0xb1") false) =
    .ok (some hashes) := ⟨_, rfl⟩
  obtain ⟨details, detailed⟩ : ∃ details, respond node (BlockService.getBlock exampleRelay (.hash "0xb1") true) =
    .ok (some details) := ⟨_, rfl⟩
  obtain ⟨receipts, received⟩ : ∃ receipts, respond node (BlockService.getBlockReceipts exampleRelay (.hash "0xb1")) =
    .ok (some receipts) := ⟨_, rfl⟩
  refine ⟨hashes.transactions, details.transactions, receipts, ?_, ?_⟩
  · apply (setsAgree_iff_oneTransactionPerHash exampleRelay node (.hash "0xb1") exampleBlock [exampleResult] logs
      ⟨rfl, rfl, logged⟩ hashes details receipts listed detailed received).mpr
    cases logged
    exact {
      short := by decide
      results := by
        intro first firstListed second secondListed _
        obtain rfl := List.mem_singleton.mp firstListed
        obtain rfl := List.mem_singleton.mp secondListed
        rfl
      synthetic := by decide
      started := nofun
      reverted := by decide }
  · cases listed
    rfl

/-- Two logs of one synthetic transaction from two addresses: its hash is listed once,
and twice with details. -/
theorem setsAgree_twoAddresses_fails :
    ∃ hashes details receipts,
      respond (exampleNode [exampleResult] [exampleLog, { exampleLog with address := "0xe2" }])
        (BlockService.getBlock exampleRelay (.hash "0xb1") false) = .ok (some hashes) ∧
      respond (exampleNode [exampleResult] [exampleLog, { exampleLog with address := "0xe2" }])
        (BlockService.getBlock exampleRelay (.hash "0xb1") true) = .ok (some details) ∧
      respond (exampleNode [exampleResult] [exampleLog, { exampleLog with address := "0xe2" }])
        (BlockService.getBlockReceipts exampleRelay (.hash "0xb1")) = .ok (some receipts) ∧
      ¬ SetsAgree hashes.transactions details.transactions receipts := by
  refine ⟨_, _, _, rfl, rfl, rfl, fun agree => ?_⟩
  have ordered : ["0xt1", "0xs1", "0xs1"] = ["0xt1", "0xs1"] := agree.ordered
  exact absurd ordered (by decide)

end HieroRelay.Blocks
