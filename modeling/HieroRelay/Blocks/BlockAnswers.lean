import HieroRelay.Blocks.Answers

/-! What a block and the receipts of a block are made of, over one set of records. -/

namespace HieroRelay.Blocks

open HieroRelay.Lib
open HieroRelay.Filters (AddressParam HexNumber Log numberTo0x toHash32)

variable (relay : Relay) (node : MirrorNode)

/-- The results that a block lists. -/
def accepted (contractResults : List ContractResult) : List ContractResult :=
  contractResults.filter fun contractResult => !relay.isRevertedDueToHederaSpecificValidation contractResult

/-- A result with its addresses resolved and a chain id, as the block formats it. -/
def prepared (contractResult : ContractResult) : ContractResult :=
  { contractResult with
    fromAddress := resolved node contractResult.fromAddress [.ACCOUNT]
    toAddress := resolved node contractResult.toAddress [.CONTRACT, .TOKEN, .ACCOUNT]
    chainId := some (orDefault contractResult.chainId relay.chain) }

/-- The transaction of a result in a block with details. -/
def transactionOf (contractResult : ContractResult) : Except RelayError (Option Transaction) :=
  respond node (formatContractResult (prepared relay node contractResult))

theorem respond_prepareTransactionArray (present : ContractResult → Throwing Entry)
    (contractResults : List ContractResult) :
    respond node (BlockService.prepareTransactionArray relay present contractResults) =
      (accepted relay contractResults).mapM fun contractResult =>
        respond node (present (prepared relay node contractResult)) := by
  induction contractResults with
  | nil => rfl
  | cons contractResult rest ih =>
      rw [BlockService.prepareTransactionArray]
      by_cases reverted : relay.isRevertedDueToHederaSpecificValidation contractResult = true
      · rw [if_pos reverted, ih, accepted, accepted, List.filter_cons_of_neg (by simp [reverted])]
      · rw [if_neg reverted, accepted, List.filter_cons_of_pos (by simp [reverted]), List.mapM_cons]
        simp only [respond_bind, respond_resolveEvmAddress, respond_pure, ih]
        rfl

theorem formatContractResult_ok {cr : ContractResult} {fromAddress : String} {value : Option Int}
    (sender : cr.fromAddress = some fromAddress) (amount : tinybarsToWeibars cr.amount = some value) :
    respond node (formatContractResult cr) =
      .ok (TransactionFactory.createTransactionByType cr.type (commonFields cr fromAddress value)
        cr.maxPriorityFeePerGas cr.maxFeePerGas) := by
  simp only [formatContractResult, sender, amount, respond_pure]

theorem formatContractResult_returns {cr : ContractResult} {transaction : Option Transaction}
    (returned : respond node (formatContractResult cr) = .ok transaction) :
    ∃ fromAddress value, cr.fromAddress = some fromAddress ∧ tinybarsToWeibars cr.amount = some value ∧
      transaction = TransactionFactory.createTransactionByType cr.type (commonFields cr fromAddress value)
        cr.maxPriorityFeePerGas cr.maxFeePerGas := by
  unfold formatContractResult at returned
  split at returned
  · cases returned
  · next fromAddress sender =>
      split at returned
      · cases returned
      · next value amount =>
          cases returned
          exact ⟨fromAddress, value, sender, amount, rfl⟩

/-- Every transaction that is built has the first 66 characters of the hash. -/
theorem hash_of_transactionOf {contractResult : ContractResult} {transaction : Transaction}
    (built : transactionOf relay node contractResult = .ok (some transaction)) :
    transaction.hash = toHash32 contractResult.hash := by
  obtain ⟨fromAddress, value, _, _, same⟩ := formatContractResult_returns node built
  rw [TransactionFactory.createTransactionByType_fields same.symm]
  exact substring_zero _ 66

private theorem withHash_returns {transaction : Option Transaction} {present : Transaction}
    (returned : respond node (BlockService.withHash transaction) = .ok present) : transaction = some present := by
  cases transaction with
  | none => cases returned
  | some transaction =>
      cases returned
      rfl

/-- The transactions of a block with details, before the synthetic ones. -/
theorem transactionArray_details {contractResults : List ContractResult} {logs : List Log} {txArray : TransactionArray}
    (returned : respond node (BlockService.transactionArray relay contractResults logs true) = .ok txArray) :
    ∃ transactions,
      List.Forall₂ (fun contractResult transaction => transactionOf relay node contractResult = .ok (some transaction))
        (accepted relay contractResults) transactions ∧
      txArray = .details (BlockService.populateSyntheticDetails relay logs transactions) := by
  rw [BlockService.transactionArray, respond_bind, respond_prepareTransactionArray, bind_eq_ok_iff] at returned
  obtain ⟨formatted, built, returned⟩ := returned
  rw [respond_bind, bind_eq_ok_iff] at returned
  obtain ⟨transactions, present, returned⟩ := returned
  cases returned
  rw [respond_mapM] at present
  refine ⟨transactions, ?_, rfl⟩
  have same : List.Forall₂ Eq formatted (transactions.map some) :=
    List.forall₂_map_right_iff.mpr ((mapM_eq_ok_iff.mp present).imp fun _ _ => withHash_returns node)
  rw [List.forall₂_eq_eq_eq] at same
  have built := mapM_eq_ok_iff.mp built
  rwa [same, List.forall₂_map_right_iff] at built

/-- The records of a block, as every endpoint for blocks fetches them. -/
structure Fetches (block : BlockHashOrNumber) (response : MirrorNodeBlock) (contractResults : List ContractResult)
    (logs : List Log) : Prop where
  found : respond node (CommonService.getHistoricalBlockResponse relay block) = .ok (some response)
  results : respond node (MirrorNodeClient.getContractResults (.timestamp response.timestampFrom response.timestampTo)) =
    .ok contractResults
  logged : respond node (CommonService.getLogsWithParams relay .absent (BlockService.paramTimestamp response)) = .ok logs

variable {relay node} {block : BlockHashOrNumber} {response : MirrorNodeBlock} {contractResults : List ContractResult}
  {logs : List Log}

/-- A block that is sent was built from the records it fetched. -/
theorem getBlock_returns {showDetails : Bool} {sent : Block}
    (returned : respond node (BlockService.getBlock relay block showDetails) = .ok (some sent)) :
    ∃ response contractResults logs, Fetches relay node block response contractResults logs ∧
      respond node (BlockService.transactionArray relay contractResults logs showDetails) = .ok sent.transactions := by
  rw [BlockService.getBlock, respond_bind, bind_eq_ok_iff] at returned
  obtain ⟨response | response, found, returned⟩ := returned
  · cases returned
  · rw [respond_bind, bind_eq_ok_iff] at returned
    obtain ⟨contractResults, polled, returned⟩ := returned
    obtain ⟨results, _⟩ := (retrying_eq_ok_iff node).mp polled
    rw [respond_bind, bind_eq_ok_iff] at returned
    obtain ⟨logs, logged, returned⟩ := returned
    rw [respond_bind, bind_eq_ok_iff] at returned
    obtain ⟨_, _, returned⟩ := returned
    rw [respond_bind, bind_eq_ok_iff] at returned
    obtain ⟨txArray, built, returned⟩ := returned
    rw [respond_bind, bind_eq_ok_iff] at returned
    obtain ⟨receipts, _, returned⟩ := returned
    rw [respond_bind, bind_eq_ok_iff] at returned
    obtain ⟨gasPrice, _, returned⟩ := returned
    cases returned
    exact ⟨response, contractResults, logs, ⟨found, results, logged⟩, built⟩

theorem Fetches.transactions (fetched : Fetches relay node block response contractResults logs) {showDetails : Bool}
    {sent : Block} (returned : respond node (BlockService.getBlock relay block showDetails) = .ok (some sent)) :
    respond node (BlockService.transactionArray relay contractResults logs showDetails) = .ok sent.transactions := by
  obtain ⟨_, _, _, other, built⟩ := getBlock_returns returned
  have found := fetched.found.symm.trans other.found
  cases found
  have results := fetched.results.symm.trans other.results
  cases results
  have logged := fetched.logged.symm.trans other.logged
  cases logged
  exact built

/-- The receipts of a block: none without a contract result, else one for each accepted
result and one for each synthetic transaction. -/
theorem getBlockReceipts_returns {sent : List TransactionReceipt}
    (returned : respond node (BlockService.getBlockReceipts relay block) = .ok (some sent)) :
    ∃ response contractResults,
      respond node (CommonService.getHistoricalBlockResponse relay block) = .ok (some response) ∧
      respond node (MirrorNodeClient.getContractResults (.timestamp response.timestampFrom response.timestampTo)) =
        .ok contractResults ∧
      (contractResults = [] ∧ sent = [] ∨
        contractResults ≠ [] ∧ ∃ price logs regular,
          respond node (CommonService.getGasPriceInWeibars none) = .ok price ∧
          respond node (CommonService.getLogsWithParams relay .absent (BlockService.paramTimestamp response)) = .ok logs ∧
          List.Forall₂ (fun contractResult receipt =>
            respond node (BlockService.regularReceipt relay (numberTo0x price) logs contractResult) = .ok receipt)
            contractResults regular ∧
          sent = regular.filterMap id ++ BlockService.syntheticReceipts relay (numberTo0x price) logs contractResults) := by
  rw [BlockService.getBlockReceipts, respond_bind, bind_eq_ok_iff] at returned
  obtain ⟨response | response, found, returned⟩ := returned
  · cases returned
  · rw [respond_bind, bind_eq_ok_iff] at returned
    obtain ⟨contractResults, results, returned⟩ := returned
    refine ⟨response, contractResults, found, results, ?_⟩
    by_cases none : contractResults = []
    · rw [if_pos none] at returned
      cases returned
      exact .inl ⟨none, rfl⟩
    · rw [if_neg none, respond_bind, bind_eq_ok_iff] at returned
      obtain ⟨price, priced, returned⟩ := returned
      rw [respond_bind, bind_eq_ok_iff] at returned
      obtain ⟨logs, logged, returned⟩ := returned
      rw [respond_bind, bind_eq_ok_iff, respond_mapM] at returned
      obtain ⟨regular, built, returned⟩ := returned
      cases returned
      exact .inr ⟨none, price, logs, regular, priced, logged, mapM_eq_ok_iff.mp built, rfl⟩

theorem Fetches.receipts (fetched : Fetches relay node block response contractResults logs)
    {sent : List TransactionReceipt}
    (returned : respond node (BlockService.getBlockReceipts relay block) = .ok (some sent)) :
    contractResults = [] ∧ sent = [] ∨
      contractResults ≠ [] ∧ ∃ price regular,
        List.Forall₂ (fun contractResult receipt =>
          respond node (BlockService.regularReceipt relay (numberTo0x price) logs contractResult) = .ok receipt)
          contractResults regular ∧
        sent = regular.filterMap id ++ BlockService.syntheticReceipts relay (numberTo0x price) logs contractResults := by
  obtain ⟨same, sameResults, found, results, outcome⟩ := getBlockReceipts_returns returned
  rw [fetched.found] at found
  cases found
  rw [fetched.results] at results
  cases results
  rcases outcome with silent | ⟨some, price, sameLogs, regular, _, logged, built, sent⟩
  · exact .inl silent
  · rw [fetched.logged] at logged
    cases logged
    exact .inr ⟨some, price, regular, built, sent⟩

theorem createRegularReceipt_transactionHash {contractResult : ContractResult} {effectiveGas : HexNumber}
    {fromAddress toAddress : Option String} {sent : TransactionReceipt}
    (returned : respond node (TransactionReceiptFactory.createRegularReceipt contractResult effectiveGas fromAddress logs
      toAddress) = .ok sent) : sent.transactionHash = toHash32 contractResult.hash := by
  rw [TransactionReceiptFactory.createRegularReceipt, respond_bind, bind_eq_ok_iff] at returned
  obtain ⟨blockNumber, _, returned⟩ := returned
  rw [respond_bind, bind_eq_ok_iff] at returned
  obtain ⟨transactionIndex, _, returned⟩ := returned
  cases returned
  rfl

/-- A result that passed the validation has a receipt, the others have none. -/
theorem respond_regularReceipt (relay : Relay) (node : MirrorNode) (effectiveGas : HexNumber) (logs : List Log)
    (contractResult : ContractResult) :
    respond node (BlockService.regularReceipt relay effectiveGas logs contractResult) =
      if relay.isRevertedDueToHederaSpecificValidation contractResult then .ok none
      else some <$> respond node (TransactionReceiptFactory.createRegularReceipt contractResult effectiveGas
        (resolved node contractResult.fromAddress [.CONTRACT, .TOKEN, .ACCOUNT])
        (BlockService.logsByHash logs contractResult.hash)
        (resolved node contractResult.toAddress [.CONTRACT, .TOKEN, .ACCOUNT])) := by
  rw [BlockService.regularReceipt, respond_ite]
  simp only [respond_bind, respond_resolveEvmAddress, respond_pure]
  rfl

theorem regularReceipts_filterMap {effectiveGas : HexNumber} {regular : List (Option TransactionReceipt)}
    (built : List.Forall₂ (fun contractResult receipt =>
      respond node (BlockService.regularReceipt relay effectiveGas logs contractResult) = .ok receipt)
      contractResults regular) :
    List.Forall₂ (fun contractResult sent =>
      respond node (TransactionReceiptFactory.createRegularReceipt contractResult effectiveGas
        (resolved node contractResult.fromAddress [.CONTRACT, .TOKEN, .ACCOUNT])
        (BlockService.logsByHash logs contractResult.hash)
        (resolved node contractResult.toAddress [.CONTRACT, .TOKEN, .ACCOUNT])) = .ok sent)
      (accepted relay contractResults) (regular.filterMap id) := by
  induction built with
  | nil => exact .nil
  | @cons contractResult receipt rest others first _ ih =>
      rw [respond_regularReceipt] at first
      by_cases reverted : relay.isRevertedDueToHederaSpecificValidation contractResult = true
      · rw [if_pos reverted] at first
        cases first
        rw [accepted, List.filter_cons_of_neg (by simp [reverted])]
        exact ih
      · rw [if_neg reverted] at first
        rw [accepted, List.filter_cons_of_pos (by simp [reverted])]
        cases created : respond node (TransactionReceiptFactory.createRegularReceipt contractResult effectiveGas
          (resolved node contractResult.fromAddress [.CONTRACT, .TOKEN, .ACCOUNT])
          (BlockService.logsByHash logs contractResult.hash)
          (resolved node contractResult.toAddress [.CONTRACT, .TOKEN, .ACCOUNT])) with
        | error error =>
            rw [created] at first
            cases first
        | ok sent =>
            rw [created] at first
            cases first
            exact .cons created ih

theorem mem_logsByHash {hash : String} {log : Log} :
    log ∈ BlockService.logsByHash logs hash ↔ log ∈ logs ∧ log.transactionHash = hash := by
  rw [BlockService.logsByHash, List.mem_filter, beq_iff_eq]

/-- The synthetic receipts are those of the logs whose hash no contract result has. -/
theorem mem_syntheticReceipts {effectiveGas : HexNumber} {receipt : TransactionReceipt} :
    receipt ∈ BlockService.syntheticReceipts relay effectiveGas logs contractResults ↔
      ∃ hash, hash ∉ contractResults.map ContractResult.hash ∧
        ∃ present : BlockService.logsByHash logs hash ≠ [],
          receipt = TransactionReceiptFactory.createSyntheticReceipt relay.keccak256 (BlockService.logsByHash logs hash)
            present effectiveGas := by
  rw [BlockService.syntheticReceipts, List.mem_filterMap]
  constructor
  · rintro ⟨hash, _, built⟩
    split at built
    · cases built
    · next synthetic =>
        split at built
        · next present =>
            cases built
            exact ⟨hash, synthetic, present, rfl⟩
        · cases built
  · rintro ⟨hash, synthetic, present, rfl⟩
    obtain ⟨listed, same⟩ := mem_logsByHash.mp (List.head_mem present)
    refine ⟨hash, (mem_uniqWith ..).mpr (List.mem_map.mpr ⟨_, listed, same⟩), ?_⟩
    rw [if_neg synthetic, dif_pos present]

theorem createSyntheticReceipt_transactionHash {keccak256 : String → Digest} {hash : String}
    (present : BlockService.logsByHash logs hash ≠ []) (effectiveGas : HexNumber) :
    (TransactionReceiptFactory.createSyntheticReceipt keccak256 (BlockService.logsByHash logs hash) present
      effectiveGas).transactionHash = hash :=
  (mem_logsByHash.mp (List.head_mem present)).2

def exampleRelay : Relay where
  chain := "0x12a"
  hederaSpecificRevertStatuses := ["WRONG_NONCE", "INVALID_ACCOUNT_ID"]
  mirrorNodeRequestRetryCount := 10
  gasPricePercentageBuffer := 0
  transactionCountMaxBlockRange := 1000
  maxBlockRange := 5
  blockRangeLimit := 1000
  exceedsTimestampRange := fun _ _ => false
  keccak256 := fun _ => Vector.replicate 32 0
  getRootHash := fun _ => DEFAULT_ROOT_HASH
  uniqTransactions := .firstKept
  uniqHashes := .firstKept

def exampleBlock : MirrorNodeBlock where
  count := 1
  gasUsed := 21000
  hash := "0xb1"
  logsBloom := "0x"
  number := 1
  previousHash := "0xb0"
  size := 100
  timestampFrom := 1700000000000000000
  timestampTo := 1700000001999999999

def exampleResult : ContractResult where
  address := some "0xc1"
  amount := some 0
  blockGasUsed := 21000
  blockHash := "0xb1"
  blockNumber := some 1
  bloom := "0x"
  callResult := "0x"
  chainId := some "0x12a"
  contractId := none
  createdContractIds := []
  errorMessage := none
  fromAddress := some "0xa1"
  functionParameters := "0x"
  gasPrice := some "0x"
  gasUsed := some 21000
  hash := "0xt1"
  logs := []
  maxFeePerGas := none
  maxPriorityFeePerGas := none
  nonce := some 0
  r := none
  result := "SUCCESS"
  root := none
  s := none
  status := "0x1"
  toAddress := some "0xc1"
  transactionIndex := some 0
  type := some 0
  v := none

def exampleLog : ContractLog where
  address := "0xe1"
  blockHash := "0xb1"
  blockNumber := some 1
  data := "0x"
  index := some 0
  timestamp := 1700000000500000000
  topics := []
  transactionHash := "0xs1"
  transactionIndex := some 1

/-- A mirror node with one block. -/
def exampleNode (contractResults : List ContractResult) (logs : List ContractLog) : MirrorNode
  | .getLatestBlock => some [exampleBlock]
  | .getBlockByHash _ => some (some exampleBlock)
  | .getBlockByNumber _ => some (some exampleBlock)
  | .getContractResults _ => some contractResults
  | .getContractResult _ => some contractResults.head?
  | .getContractResultsLogs _ _ => some logs
  | .getContract _ => none
  | .getAccount _ => none
  | .getTokenById _ => none
  | .getNetworkFees _ => some [{ gas := 100, transactionType := "EthereumTransaction" }]

end HieroRelay.Blocks
