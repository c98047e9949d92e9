import HieroRelay.Blocks.Ledger
import HieroRelay.Blocks.TransactionSets

/-! One transaction in its block, by its hash and by its index: when the objects are the
same. -/

namespace HieroRelay.Blocks

open HieroRelay.Js (roundToDouble)
open HieroRelay.Lib
open HieroRelay.Filters (AddressParam HexNumber Log numberTo0x toHash32)

/-- A large number stays large when it is rounded. -/
theorem roundToDouble_large {value : Nat}
    (large : 9007199254740991 < value) : 4503599627370496 ≤ roundToDouble value := by
  have exponent : 53 ≤ value.log2 := (Nat.le_log2 (by omega)).mpr (by omega)
  have unit : 0 < 2 ^ (value.log2 - 52) := Nat.two_pow_pos _
  have quotient : 4503599627370496 ≤ value / 2 ^ (value.log2 - 52) := by
    rw [Nat.le_div_iff_mul_le unit]
    have whole : 52 + (value.log2 - 52) = value.log2 := by omega
    calc 4503599627370496 * 2 ^ (value.log2 - 52) = 2 ^ (52 + (value.log2 - 52)) := (Nat.pow_add 2 52 _).symm
      _ = 2 ^ value.log2 := by rw [whole]
      _ ≤ value := Nat.log2_self_le (by omega)
  have kept : ∀ factor, 4503599627370496 ≤ factor → 4503599627370496 ≤ factor * 2 ^ (value.log2 - 52) :=
    fun factor more => more.trans (Nat.le_mul_of_pos_right _ unit)
  rw [roundToDouble, if_neg (by omega)]
  dsimp only
  split
  · exact kept _ quotient
  · exact kept _ (quotient.trans (Nat.le_succ _))

theorem le_roundToDouble {bound value : Nat} (small : bound ≤ 4503599627370496) (least : bound ≤ value) :
    bound ≤ roundToDouble value := by
  by_cases safe : value < 2 ^ 53
  · rwa [roundToDouble, if_pos safe]
  · exact small.trans (roundToDouble_large (by omega))

/-- A positive amount is at least one tinybar. -/
theorem weibars_zero_or_large (amount : Nat) :
    roundToDouble (roundToDouble amount * TINYBAR_TO_WEIBAR_COEF) = 0 ∨
      TINYBAR_TO_WEIBAR_COEF ≤ roundToDouble (roundToDouble amount * TINYBAR_TO_WEIBAR_COEF) := by
  rcases Nat.eq_zero_or_pos amount with rfl | positive
  · exact .inl rfl
  · have one : 1 ≤ roundToDouble amount := le_roundToDouble (by decide) positive
    have coefficient : TINYBAR_TO_WEIBAR_COEF ≤ 4503599627370496 := by decide
    exact .inr (le_roundToDouble coefficient (Nat.le_mul_of_pos_left _ one))

theorem nanOrNumberInt64To0x_negative {value : Int} (negative : value < 0) (least : -9223372036854775808 ≤ value) :
    4660 < (nanOrNumberInt64To0x (some value)).value := by
  simp only [nanOrNumberInt64To0x, Option.getD_some, if_pos negative, numberTo0x]
  omega

theorem nanOrNumberInt64To0x_natCast (value : Nat) : (nanOrNumberInt64To0x (some value)).value = value := by
  have natural : ¬ (value : Int) < 0 := by omega
  simp only [nanOrNumberInt64To0x, Option.getD_some, if_neg natural, numberTo0x, Int.toNat_natCast]

/-- No amount of a contract result is worth as little as a synthetic transaction shows. -/
theorem weibars_of_amount {amount : Option Int64} {value : Option Int}
    (converted : tinybarsToWeibars amount = some value) :
    (nanOrNumberInt64To0x value).value = 0 ∨ 4660 < (nanOrNumberInt64To0x value).value := by
  unfold tinybarsToWeibars at converted
  split at converted
  · cases converted
    exact .inl rfl
  · next amount =>
      split at converted
      · next negative =>
          cases converted
          exact .inr (nanOrNumberInt64To0x_negative negative amount.le_toInt)
      · split at converted
        · cases converted
        · cases converted
          rw [nanOrNumberInt64To0x_natCast]
          rcases weibars_zero_or_large amount.toInt.toNat with zero | large
          · exact .inl zero
          · exact .inr (Nat.lt_of_lt_of_le (by decide) large)

variable {relay : Relay} {ledger : Ledger} {transaction : LedgerTransaction} {block : BlockHashOrNumber}
  {response : MirrorNodeBlock} {logs : List Log} {blockNumber transactionIndex : Nat}

/-- The transaction has its place in the chain. -/
structure Placed (transaction : LedgerTransaction) (blockNumber transactionIndex : Nat) : Prop where
  settled : transaction.blockHash ≠ EMPTY_HEX
  number : transaction.blockNumber = some blockNumber
  index : transaction.transactionIndex = some transactionIndex

/-- A result of a transaction that has its place is ready. -/
theorem Placed.mature (placed : Placed transaction blockNumber transactionIndex) {contractResult : ContractResult}
    (result : transaction.result = some contractResult) (logs : List ContractResultLog) :
    { contractResult with logs }.immature = false := by
  obtain ⟨_, hash, number, index, _⟩ := transaction.agrees contractResult result
  have settled : (contractResult.blockHash == "0x") = false := by
    rw [hash]
    exact beq_eq_false_iff_ne.mpr placed.settled
  simp [ContractResult.immature, number, index, placed.number, placed.index, settled]

/-- The transaction by its hash is that of the block. -/
theorem getTransactionByHash_result (known : transaction ∈ ledger.transactions)
    (placed : Placed transaction blockNumber transactionIndex) {contractResult : ContractResult}
    (result : transaction.result = some contractResult) :
    respond ledger.node (TransactionService.getTransactionByHash relay transaction.hash) =
      transactionOf relay ledger.node { contractResult with logs := [] } := by
  have first : respond ledger.node (MirrorNodeClient.getContractResultWithRetry relay transaction.hash) =
      .ok (some contractResult) := by
    apply (retrying_eq_ok_iff ledger.node).mpr
    rw [Ledger.respond_getContractResult, Ledger.find_eq known, Option.bind_some, result]
    exact ⟨rfl, .inr (placed.mature result contractResult.logs)⟩
  rw [TransactionService.getTransactionByHash, respond_bind, first]
  change respond ledger.node (_ >>= _) = _
  rw [respond_bind, respond_resolveEvmAddress]
  change respond ledger.node (_ >>= _) = _
  rw [respond_bind, respond_resolveEvmAddress]
  rfl

/-- The only result in a list that a place selects. -/
theorem placed_results (known : transaction ∈ ledger.transactions) {contractResult : ContractResult}
    (result : transaction.result = some contractResult) (selected : LedgerTransaction → Bool)
    (self : selected transaction = true)
    (only : ∀ other ∈ ledger.transactions, other.result.isSome → selected other = true → other = transaction) :
    (ledger.transactions.filter selected).filterMap LedgerTransaction.entry = [{ contractResult with logs := [] }] := by
  rw [List.filterMap_filter, filterMap_eq_of_unique (Ledger.nodup_transactions ledger) known, if_pos self,
    LedgerTransaction.entry, result]
  · rfl
  · intro other otherKnown different
    by_cases chosen : selected other = true
    · rw [if_pos chosen, LedgerTransaction.entry]
      cases otherResult : other.result with
      | none => rfl
      | some found => exact absurd (only other otherKnown (by rw [otherResult]; rfl) chosen) different
    · rw [if_neg chosen]

/-- The transaction that the index path formats: its chain id is the one of the record. -/
def indexedTransactionOf (node : MirrorNode)
    (contractResult : ContractResult) : Except RelayError (Option Transaction) :=
  respond node (formatContractResult { contractResult with
    fromAddress := resolved node contractResult.fromAddress [.ACCOUNT]
    toAddress := resolved node contractResult.toAddress [.CONTRACT, .TOKEN, .ACCOUNT] })

theorem getTransactionByIndex_result (placed : Placed transaction blockNumber transactionIndex)
    {contractResult : ContractResult} (result : transaction.result = some contractResult)
    (params : ContractResultsParams)
    (listed : respond ledger.node (MirrorNodeClient.getContractResults params) = .ok [{ contractResult with logs := [] }]) :
    respond ledger.node (TransactionService.getTransactionByBlockHashOrBlockNumAndIndex relay params) =
      indexedTransactionOf ledger.node { contractResult with logs := [] } := by
  have first : respond ledger.node (MirrorNodeClient.getContractResultsWithRetry relay params) =
      .ok [{ contractResult with logs := [] }] := by
    apply (retrying_eq_ok_iff ledger.node).mpr
    refine ⟨listed, .inr ?_⟩
    simpa using placed.mature result []
  rw [TransactionService.getTransactionByBlockHashOrBlockNumAndIndex, respond_bind, first]
  change respond ledger.node (_ >>= _) = _
  rw [respond_bind, respond_resolveEvmAddress]
  change respond ledger.node (_ >>= _) = _
  rw [respond_bind, respond_resolveEvmAddress]
  rfl

/-- The transaction by the hash of its block and its index. -/
theorem getTransactionByBlockHashAndIndex_result (known : transaction ∈ ledger.transactions)
    (placed : Placed transaction blockNumber transactionIndex) {contractResult : ContractResult}
    (result : transaction.result = some contractResult) :
    respond ledger.node (TransactionService.getTransactionByBlockHashAndIndex relay transaction.blockHash transactionIndex) =
      indexedTransactionOf ledger.node { contractResult with logs := [] } := by
  apply getTransactionByIndex_result placed result
  change Except.ok _ = _
  rw [placed_results known result]
  · simp [placed.index]
  · intro other otherKnown otherResult selected
    obtain ⟨sameHash, sameIndex⟩ : other.blockHash = transaction.blockHash ∧
        other.transactionIndex = some transactionIndex := by simpa using selected
    exact ledger.indexed other otherKnown transaction known otherResult (by rw [result]; rfl)
      (.inl ⟨sameHash, sameHash ▸ placed.settled⟩) (sameIndex.trans placed.index.symm) (by rw [sameIndex]; rfl)

/-- The transaction by the number of its block and its index. -/
theorem getTransactionByBlockNumberAndIndex_result (known : transaction ∈ ledger.transactions)
    (placed : Placed transaction blockNumber transactionIndex) {contractResult : ContractResult}
    (result : transaction.result = some contractResult) :
    respond ledger.node (TransactionService.getTransactionByBlockNumberAndIndex relay (.hex (numberTo0x blockNumber))
      transactionIndex) = indexedTransactionOf ledger.node { contractResult with logs := [] } := by
  change respond ledger.node (TransactionService.getTransactionByBlockHashOrBlockNumAndIndex relay
    (.blockNumber blockNumber transactionIndex)) = _
  apply getTransactionByIndex_result placed result
  change Except.ok _ = _
  rw [placed_results known result]
  · simp [placed.index, placed.number]
  · intro other otherKnown otherResult selected
    obtain ⟨sameNumber, sameIndex⟩ : other.blockNumber = some blockNumber ∧
        other.transactionIndex = some transactionIndex := by simpa using selected
    exact ledger.indexed other otherKnown transaction known otherResult (by rw [result]; rfl)
      (.inr ⟨sameNumber.trans placed.number.symm, by rw [sameNumber]; rfl⟩) (sameIndex.trans placed.index.symm)
      (by rw [sameIndex]; rfl)

/-- The chain id of the record is there, and is not an empty text in the place of another one. -/
def KeepsChainId (relay : Relay) (contractResult : ContractResult) : Prop :=
  ∃ chainId, contractResult.chainId = some chainId ∧ (chainId = "" → relay.chain = "")

theorem formatChainId_some (chainId : String) :
    formatChainId (some chainId) = if chainId = EMPTY_HEX then .absent else .id chainId := rfl

private theorem formatChainId_ne_null (chainId : String) : formatChainId (some chainId) ≠ .null := by
  rw [formatChainId_some]
  split <;> simp

private theorem formatChainId_eq_empty_iff (chainId : String) : formatChainId
    (some chainId) = .id "" ↔ chainId = "" := by
  rw [formatChainId_some]
  by_cases absent : chainId = EMPTY_HEX
  · rw [if_pos absent, absent]
    simp [EMPTY_HEX]
  · rw [if_neg absent, ChainId.id.injEq]

private theorem formatChainId_eq_iff (relay : Relay) (contractResult : ContractResult) :
    formatChainId (some (orDefault contractResult.chainId relay.chain)) = formatChainId contractResult.chainId ↔
      KeepsChainId relay contractResult := by
  unfold KeepsChainId
  cases contractResult.chainId with
  | none =>
      constructor
      · intro same
        exact absurd same (formatChainId_ne_null _)
      · rintro ⟨_, absent, _⟩
        cases absent
  | some chainId =>
      by_cases empty : chainId = ""
      · subst empty
        change formatChainId (some relay.chain) = .id "" ↔ _
        rw [formatChainId_eq_empty_iff]
        constructor
        · intro none
          exact ⟨"", rfl, fun _ => none⟩
        · rintro ⟨other, same, none⟩
          exact none (Option.some.inj same).symm
      · simp only [orDefault, if_neg empty, true_iff]
        exact ⟨chainId, rfl, fun same => absurd same empty⟩

/-- The index path gives the transaction of the block exactly if the record keeps its chain id. -/
theorem indexedTransactionOf_eq_iff (node : MirrorNode) {contractResult : ContractResult} {sent : Transaction}
    (made : transactionOf relay node contractResult = .ok (some sent)) :
    indexedTransactionOf node contractResult = .ok (some sent) ↔ KeepsChainId relay contractResult := by
  rw [← formatChainId_eq_iff]
  obtain ⟨fromAddress, value, sender, amount, same⟩ := formatContractResult_returns node made
  have fields := TransactionFactory.createTransactionByType_fields same.symm
  have chain : sent.chainId = formatChainId (some (orDefault contractResult.chainId relay.chain)) := by
    rw [fields]
    rfl
  constructor
  · intro indexed
    obtain ⟨otherFrom, otherValue, _, _, otherSame⟩ := formatContractResult_returns node indexed
    have otherFields := TransactionFactory.createTransactionByType_fields otherSame.symm
    have otherChain : sent.chainId = formatChainId contractResult.chainId := by
      rw [otherFields]
      rfl
    exact chain.symm.trans otherChain
  · intro kept
    have returned := @formatContractResult_ok node { contractResult with
      fromAddress := resolved node contractResult.fromAddress [.ACCOUNT]
      toAddress := resolved node contractResult.toAddress [.CONTRACT, .TOKEN, .ACCOUNT] } _ _ sender amount
    rw [indexedTransactionOf, returned, same]
    simp only [commonFields, prepared, kept]

theorem Ledger.shortHashes (relay : Relay) (ledger : Ledger) (block : MirrorNodeBlock) :
    ShortHashes relay (ledger.blockResults block) := by
  intro contractResult listed
  obtain ⟨transaction, known, _, entry⟩ := Ledger.mem_blockResults.mp (List.mem_filter.mp listed).1
  rw [Ledger.hash_of_entry entry]
  exact ledger.short transaction known

/-- The results that a block over a ledger lists. -/
theorem Ledger.mem_accepted {block : MirrorNodeBlock} {contractResult : ContractResult} :
    contractResult ∈ accepted relay (ledger.blockResults block) ↔
      ∃ transaction ∈ ledger.transactions, transaction.inRange block.timestampFrom block.timestampTo = true ∧
        transaction.entry = some contractResult ∧ relay.isRevertedDueToHederaSpecificValidation contractResult = false := by
  rw [accepted, List.mem_filter, Ledger.mem_blockResults]
  simp only [Bool.not_eq_true']
  constructor
  · rintro ⟨⟨transaction, known, inside, entry⟩, passed⟩
    exact ⟨transaction, known, inside, entry, passed⟩
  · rintro ⟨transaction, known, inside, entry, passed⟩
    exact ⟨⟨transaction, known, inside, entry⟩, passed⟩

/-- A log that is sent for a range belongs to a transaction in the range. -/
theorem Ledger.transaction_of_log {block : MirrorNodeBlock}
    (logged : respond ledger.node (CommonService.getLogsWithParams relay .absent (BlockService.paramTimestamp block)) =
      .ok logs) {log : Log} (listed : log ∈ logs) :
    ∃ transaction ∈ ledger.transactions, transaction.inRange block.timestampFrom block.timestampTo = true ∧
      log.transactionHash = transaction.hash := by
  obtain ⟨records, answer, _, sent⟩ := getLogsWithParams_eq_ok_iff.mp logged
  obtain rfl : ledger.logsOf none (BlockService.paramTimestamp block) = records := Option.some.inj answer
  obtain ⟨record, inside, sends⟩ := exists_of_mem_right sent listed
  obtain ⟨_, _, _, _, _, _, _, _, hash⟩ := sends
  obtain ⟨transaction, known, own⟩ := List.mem_flatMap.mp inside
  obtain ⟨own, selected⟩ := List.mem_filter.mp own
  refine ⟨transaction, known, ?_, ?_⟩
  · simpa [selects, BlockService.paramTimestamp] using selected
  · rw [hash, Ledger.transactionHash_of_mem_records own, ledger.short transaction known]

/-- The result of a transaction, where the block lists it as such. -/
def Listed (relay : Relay) (transaction : LedgerTransaction) (contractResult : ContractResult) : Prop :=
  transaction.entry = some contractResult ∧ relay.isRevertedDueToHederaSpecificValidation contractResult = false

section Listing
variable {sent : Block} {transactions : List Transaction}
  (returned : respond ledger.node (BlockService.getBlock relay block true) = .ok (some sent))
  (shown : sent.transactions = .details transactions)
include returned shown

/-- What a block shows under the hash of a transaction: the transaction of its result if it
is listed, else the synthetic transaction of one of its logs. -/
theorem shown_transaction (known : transaction ∈ ledger.transactions) {entry : Transaction}
    (inside : entry ∈ transactions) (same : entry.hash = transaction.hash) :
    (∃ contractResult, Listed relay transaction contractResult ∧
        transactionOf relay ledger.node contractResult = .ok (some entry)) ∨
      (∀ contractResult, ¬ Listed relay transaction contractResult) ∧ ∃ log, syntheticObject relay.chain log = entry := by
  obtain ⟨response, contractResults, logs, fetched, array⟩ := getBlock_returns returned
  have results := fetched.results
  rw [Ledger.respond_getContractResults] at results
  cases results
  obtain ⟨regular, built, objects⟩ := transactionArray_details relay ledger.node array
  rw [populateSyntheticDetails_eq] at objects
  have list := TransactionArray.details.inj (shown.symm.trans objects)
  rw [list, mem_uniqWith, mem_listedDetails built (Ledger.shortHashes relay ledger response)] at inside
  rcases inside with inRegular | ⟨log, listed, synthetic, made⟩
  · obtain ⟨contractResult, kept, made⟩ := exists_of_mem_right built inRegular
    obtain ⟨other, otherKnown, _, entryOf, passed⟩ := Ledger.mem_accepted.mp kept
    have hash : other.hash = transaction.hash := by
      rw [← same, hash_of_transactionOf relay ledger.node made, Ledger.hash_of_entry entryOf, ledger.short other otherKnown]
    obtain rfl := Ledger.eq_of_hash otherKnown known hash
    exact .inl ⟨contractResult, ⟨entryOf, passed⟩, made⟩
  · refine .inr ⟨?_, log, made⟩
    rintro contractResult ⟨entryOf, passed⟩
    obtain ⟨other, otherKnown, inRange, hash⟩ := Ledger.transaction_of_log fetched.logged listed
    have logHash : log.transactionHash = transaction.hash := by
      rw [← same, ← made]
      rfl
    obtain rfl := Ledger.eq_of_hash otherKnown known (hash.symm.trans logHash)
    apply synthetic
    rw [logHash, ← Ledger.hash_of_entry entryOf]
    exact List.mem_map_of_mem (Ledger.mem_accepted.mpr ⟨other, known, inRange, entryOf, passed⟩)

end Listing

/-- The transaction is the same by its hash, by its index in the block and in the block. -/
structure ViewsAgree (relay : Relay) (ledger : Ledger) (transactions : List Transaction)
    (transaction : LedgerTransaction) (blockNumber transactionIndex : Nat) : Prop where
  byHash : ∀ entry ∈ transactions, entry.hash = transaction.hash →
    respond ledger.node (TransactionService.getTransactionByHash relay transaction.hash) = .ok (some entry)
  byBlockHash : transaction.result.isSome → ∀ entry ∈ transactions, entry.hash = transaction.hash →
    respond ledger.node (TransactionService.getTransactionByBlockHashAndIndex relay transaction.blockHash transactionIndex) =
      .ok (some entry)
  byBlockNumber : transaction.result.isSome → ∀ entry ∈ transactions, entry.hash = transaction.hash →
    respond ledger.node (TransactionService.getTransactionByBlockNumberAndIndex relay (.hex (numberTo0x blockNumber))
      transactionIndex) = .ok (some entry)

/-- By its hash a synthetic transaction is built from its first log. -/
theorem getTransactionByHash_synthetic (known : transaction ∈ ledger.transactions)
    (synthetic : transaction.result = none) {sent : Transaction}
    (returned : respond ledger.node (TransactionService.getTransactionByHash relay transaction.hash) = .ok (some sent)) :
    ∃ log, TransactionFactory.createTransactionFromLog relay.chain log = some sent := by
  rw [TransactionService.getTransactionByHash, respond_bind, bind_eq_ok_iff] at returned
  obtain ⟨result, polled, returned⟩ := returned
  obtain ⟨first, _⟩ := (retrying_eq_ok_iff ledger.node).mp polled
  rw [Ledger.respond_getContractResult, Ledger.find_eq known, Option.bind_some, synthetic] at first
  cases first
  change respond ledger.node (_ >>= _) = _ at returned
  rw [respond_bind, bind_eq_ok_iff] at returned
  obtain ⟨logs, _, returned⟩ := returned
  cases logs with
  | nil => cases returned
  | cons log rest => exact ⟨log, Except.ok.inj returned⟩

private theorem createTransactionFromLog_ne_synthetic (chain : String) (first second : Log) :
    TransactionFactory.createTransactionFromLog chain first ≠ some (syntheticObject chain second) := by
  intro same
  have signature : EMPTY_HEX = hexText ZERO_HEX :=
    congrArg (fun transaction => (transaction.map fun transaction => transaction.r).getD "") same
  exact absurd signature (by decide)

private theorem transactionOf_ne_synthetic (node : MirrorNode) (contractResult : ContractResult) (log : Log) :
    transactionOf relay node contractResult ≠ .ok (some (syntheticObject relay.chain log)) := by
  intro made
  obtain ⟨fromAddress, value, _, amount, same⟩ := formatContractResult_returns node made
  have fields := TransactionFactory.createTransactionByType_fields same.symm
  have worth : some ONE_TWO_THREE_FOUR_HEX = some (nanOrNumberInt64To0x value) :=
    congrArg TransactionFields.value fields
  have number : 0x1234 = (nanOrNumberInt64To0x value).value := congrArg HexNumber.value (Option.some.inj worth)
  rcases weibars_of_amount amount with zero | large
  · omega
  · omega

/-- The views of a transaction in a block agree exactly if it is listed with a contract
result that keeps its chain id. -/
theorem viewsAgree_iff_keepsChainId (relay : Relay) (ledger : Ledger) (block : BlockHashOrNumber) (sent : Block)
    (transactions : List Transaction) (transaction : LedgerTransaction) (blockNumber transactionIndex : Nat)
    (returned : respond ledger.node (BlockService.getBlock relay block true) = .ok (some sent))
    (shown : sent.transactions = .details transactions) (known : transaction ∈ ledger.transactions)
    (placed : Placed transaction blockNumber transactionIndex)
    (inBlock : ∃ entry ∈ transactions, entry.hash = transaction.hash) :
    ViewsAgree relay ledger transactions transaction blockNumber transactionIndex ↔
      ∃ contractResult, Listed relay transaction contractResult ∧ KeepsChainId relay contractResult := by
  constructor
  · intro agree
    obtain ⟨entry, inside, same⟩ := inBlock
    rcases shown_transaction returned shown known inside same with ⟨contractResult, listed, made⟩ | ⟨_, log, rfl⟩
    · obtain ⟨detail, result, rfl⟩ := Ledger.entry_eq_some_iff.mp listed.1
      have indexed := agree.byBlockHash (by rw [result]; rfl) entry inside same
      rw [getTransactionByBlockHashAndIndex_result known placed result] at indexed
      exact ⟨_, listed, (indexedTransactionOf_eq_iff ledger.node made).mp indexed⟩
    · have byHash := agree.byHash _ inside same
      cases result : transaction.result with
      | none =>
          obtain ⟨first, made⟩ := getTransactionByHash_synthetic known result byHash
          exact absurd made (createTransactionFromLog_ne_synthetic relay.chain first log)
      | some contractResult =>
          rw [getTransactionByHash_result known placed result] at byHash
          exact absurd byHash (transactionOf_ne_synthetic ledger.node _ log)
  · rintro ⟨contractResult, listed, kept⟩
    obtain ⟨detail, result, rfl⟩ := Ledger.entry_eq_some_iff.mp listed.1
    have made : ∀ entry ∈ transactions, entry.hash = transaction.hash →
        transactionOf relay ledger.node { detail with logs := [] } = .ok (some entry) := by
      intro entry inside same
      rcases shown_transaction returned shown known inside same with ⟨other, otherListed, made⟩ | ⟨unlisted, _⟩
      · obtain rfl := Option.some.inj (otherListed.1.symm.trans listed.1)
        exact made
      · exact absurd listed (unlisted _)
    exact {
      byHash := fun entry inside same => (getTransactionByHash_result known placed result).trans (made entry inside same)
      byBlockHash := fun _ entry inside same => (getTransactionByBlockHashAndIndex_result known placed result).trans
        ((indexedTransactionOf_eq_iff ledger.node (made entry inside same)).mpr kept)
      byBlockNumber := fun _ entry inside same => (getTransactionByBlockNumberAndIndex_result known placed result).trans
        ((indexedTransactionOf_eq_iff ledger.node (made entry inside same)).mpr kept) }

/-- A contract result with a chain id. -/
theorem viewsAgree_chainId : ∃ transactions, ViewsAgree exampleRelay
    (exampleLedger [exampleRegular (some "0x12a")] (fun _ => 100) (by decide) (by decide) (by decide))
    transactions (exampleRegular (some "0x12a")) 1 0 ∧ transactions ≠ [] := by
  let ledger := exampleLedger [exampleRegular (some "0x12a")] (fun _ => 100) (by decide) (by decide) (by decide)
  obtain ⟨sent, transactions, returned, shown, single⟩ : ∃ sent transactions,
    respond ledger.node (BlockService.getBlock exampleRelay (.hash "0xb1") true) = .ok (some sent) ∧
      sent.transactions = .details transactions ∧ (transactions.map fun transaction => transaction.hash) = ["0xt1"] :=
    ⟨_, _, rfl, rfl, rfl⟩
  obtain ⟨entry, rfl, same⟩ := List.map_eq_singleton_iff.mp single
  refine ⟨[entry], (viewsAgree_iff_keepsChainId exampleRelay ledger (.hash "0xb1") sent [entry]
    (exampleRegular (some "0x12a")) 1 0 returned shown List.mem_cons_self ⟨by decide, rfl, rfl⟩
    ⟨entry, List.mem_cons_self, same⟩).mpr ⟨_, ⟨rfl, by decide⟩, "0x12a", rfl, nofun⟩, List.cons_ne_nil _ _⟩

/-- The chain id in an answer. -/
def answeredChainId : Except RelayError (Option Transaction) → ChainId
  | .ok (some transaction) => transaction.chainId
  | _ => .absent

/-- Without a chain id in the record the index path answers null for it. -/
theorem viewsAgree_nullChainId_fails : ∃ sent transactions,
    respond (exampleLedger [exampleRegular none] (fun _ => 100) (by decide) (by decide) (by decide)).node
      (BlockService.getBlock exampleRelay (.hash "0xb1") true) = .ok (some sent) ∧
    sent.transactions = .details transactions ∧
    ¬ ViewsAgree exampleRelay (exampleLedger [exampleRegular none] (fun _ => 100) (by decide) (by decide) (by decide))
      transactions (exampleRegular none) 1 0 := by
  refine ⟨_, _, rfl, rfl, fun agree => ?_⟩
  have indexed := agree.byBlockHash rfl _ List.mem_cons_self rfl
  have chain := congrArg answeredChainId indexed
  exact absurd chain (by decide)

end HieroRelay.Blocks
