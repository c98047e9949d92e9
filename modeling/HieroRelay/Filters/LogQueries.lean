import HieroRelay.Filters.Reading
import HieroRelay.Lib.Transcript

/-! What a query of logs from a block to the head answers while blocks are produced: at
least the logs that match in the blocks that it covered. -/

namespace HieroRelay.Filters

open HieroRelay.Lib

namespace FilterParams

variable {mirrorNode : MirrorNode} {params : FilterParams} {chain : Chain} {first last : Nat} {change : Change}

theorem mem_changes : change ∈ params.changes mirrorNode chain first last ↔
    ∃ number block, first ≤ number ∧ number < last ∧ chain.blocks[number]? = some block ∧
      change ∈ params.changesOf mirrorNode block := by
  simp only [changes, List.mem_flatMap, Chain.mem_between]
  constructor
  · rintro ⟨block, ⟨number, above, below, found⟩, brought⟩
    exact ⟨number, block, above, below, found, brought⟩
  · rintro ⟨number, block, above, below, found, brought⟩
    exact ⟨block, ⟨number, above, below, found⟩, brought⟩

/-- A change is before or after any block. -/
theorem mem_changes_split (middle : Nat) (member : change ∈ params.changes mirrorNode chain first last) :
    change ∈ params.changes mirrorNode chain first middle ∨ change ∈ params.changes mirrorNode chain middle last := by
  obtain ⟨number, block, above, below, found, brought⟩ := mem_changes.mp member
  rcases Nat.lt_or_ge number middle with before | after
  · exact .inl (mem_changes.mpr ⟨number, block, above, before, found, brought⟩)
  · exact .inr (mem_changes.mpr ⟨number, block, after, below, found, brought⟩)

theorem changes_subset {wideFirst wideLast : Nat} (above : wideFirst ≤ first) (below : last ≤ wideLast) :
    params.changes mirrorNode chain first last ⊆ params.changes mirrorNode chain wideFirst wideLast := by
  intro change member
  obtain ⟨number, block, fromFirst, toLast, found, brought⟩ := mem_changes.mp member
  exact mem_changes.mpr ⟨number, block, above.trans fromFirst, toLast.trans_le below, found, brought⟩

end FilterParams

section Queries

variable {mirrorNode : MirrorNode} {params : LogFilterParams} {origin state : FilterState} {query : LogsParams}
  {first last : Nat} {firstBlock lastBlock : MirrorNodeBlock}

/-- The logs that match in a range of blocks are among the answers for the addresses. -/
theorem changes_subset_of_mem (atFirst : origin.chain.blocks[first]? = some firstBlock)
    (atLast : origin.chain.blocks[last]? = some lastBlock) (above : query.timestampGte = firstBlock.timestampFrom)
    (upTo : query.timestampLte = lastBlock.timestampTo)
    (topics : query.topics = CommonService.addTopicsToParams params.topics) {logs : List MirrorNodeLog}
    (answers : ∀ log ∈ origin.chain.logs, query.selects log = true → params.matchesLog mirrorNode log = true →
      log ∈ logs) :
    (FilterParams.log params).changes mirrorNode origin.chain first (last + 1) ⊆
      (logs.map Log.ofMirrorNode).map Change.log := by
  intro change member
  rw [FilterParams.changes_log] at member
  obtain ⟨log, kept, rfl⟩ := List.mem_map.mp member
  obtain ⟨inRange, isMatch⟩ := List.mem_filter.mp kept
  obtain ⟨inChain, start, stop⟩ := (Chain.mem_between_logs atFirst atLast).mp inRange
  have ofTopics : topicsMatch (CommonService.addTopicsToParams params.topics) log = true :=
    (Bool.and_eq_true_iff.mp isMatch).1
  have selected : query.selects log = true := by
    simp only [LogsParams.selects, Bool.and_eq_true, decide_eq_true_eq, above, upTo, topics]
    exact ⟨⟨start, stop⟩, ofTopics⟩
  exact List.mem_map_of_mem (List.mem_map_of_mem (answers log inChain selected isMatch))

/-- The answer of a query has what matches in the blocks that it covered. -/
def Covered (mirrorNode : MirrorNode) (params : LogFilterParams) (first : Nat) (logs : List Log)
    (later : FilterState) : Prop :=
  ∀ covered, later.queried = some covered → covered ≤ later.chain.blocks.length ∧
    (FilterParams.log params).changes mirrorNode later.chain first covered ⊆ logs.map Change.log

theorem Covered.later {logs : List Log} {before after : FilterState}
    (covers : Covered mirrorNode params first logs before)
    (interfered : before.Interferes after) : Covered mirrorNode params first logs after := by
  intro covered queried
  rw [interfered.queried] at queried
  obtain ⟨inside, among⟩ := covers covered queried
  refine ⟨inside.trans interfered.toObserves.length_le, ?_⟩
  rw [FilterParams.changes_grown interfered.chain inside]
  exact among

theorem reads_matchingOfAddresses {addresses : List String}
    (own : ∀ log, params.matchesLog mirrorNode log = true → ∃ address ∈ addresses, mirrorNode.isLogOf address log = true)
    (atFirst : origin.chain.blocks[first]? = some firstBlock)
    (atLast : origin.chain.blocks[last]? = some lastBlock) (above : query.timestampGte = firstBlock.timestampFrom)
    (upTo : query.timestampLte = lastBlock.timestampTo)
    (topics : query.topics = CommonService.addTopicsToParams params.topics) (observed : origin.Observes state)
    (asked : state.queried = none) :
    Reads mirrorNode (Covered mirrorNode params first)
      (CommonService.getLogsByAddress addresses query >>= fun logs => pure (logs.map Log.ofMirrorNode)) state := by
  have learn : ∀ (address : String) (later : FilterState), origin.Observes later →
      Unskipping mirrorNode later (.getContractResultsLogs (some address) query) → True := fun _ _ _ _ => trivial
  rw [CommonService.getLogsByAddress, bind_assoc]
  apply (reads_logsOfAddresses atLast upTo learn addresses observed).bind
  intro logs later reached ⟨same, outcome⟩
  rw [pure_bind]
  apply reads_pure
  intro after interfered covered queried
  have stays := (observed.trans reached).trans interfered.toObserves
  rw [interfered.queried] at queried
  rcases outcome with ⟨queriedTo, _⟩ | ⟨unasked, _⟩
  · obtain rfl : last + 1 = covered := Option.some.inj (queriedTo.symm.trans queried)
    obtain ⟨inside, _⟩ := List.getElem?_eq_some_iff.mp atLast
    refine ⟨Nat.succ_le_of_lt (inside.trans_le stays.length_le), ?_⟩
    rw [FilterParams.changes_grown stays.chain inside]
    apply changes_subset_of_mem atFirst atLast above upTo topics
    intro log inChain selected isMatch
    obtain ⟨address, listed, isLog⟩ := own log isMatch
    rw [CommonService.sortedByTimestamp, List.mem_mergeSort, same]
    exact List.mem_flatMap.mpr ⟨address, listed, mem_logsOf.mpr ⟨inChain, selected, isLog⟩⟩
  · rw [unasked, asked] at queried
    cases queried

private theorem reads_matching (atFirst : origin.chain.blocks[first]? = some firstBlock)
    (atLast : origin.chain.blocks[last]? = some lastBlock) (above : query.timestampGte = firstBlock.timestampFrom)
    (upTo : query.timestampLte = lastBlock.timestampTo)
    (topics : query.topics = CommonService.addTopicsToParams params.topics) (observed : origin.Observes state)
    (asked : state.queried = none) :
    Reads mirrorNode (Covered mirrorNode params first) (CommonService.getLogsWithParams params.address query) state := by
  unfold CommonService.getLogsWithParams
  cases addressed : params.address.orAbsent with
  | absent =>
      have learn : ∀ later, origin.Observes later → Unskipping mirrorNode later (.getContractResultsLogs none query) →
        True := fun _ _ _ => trivial
      apply (reads_logs none atLast upTo learn observed).bind
      intro logs later reached ⟨same, queriedTo, _⟩
      apply reads_pure
      intro after interfered covered queried
      have stays := (observed.trans reached).trans interfered.toObserves
      rw [interfered.queried] at queried
      obtain rfl : last + 1 = covered := Option.some.inj (queriedTo.symm.trans queried)
      obtain ⟨inside, _⟩ := List.getElem?_eq_some_iff.mp atLast
      refine ⟨Nat.succ_le_of_lt (inside.trans_le stays.length_le), ?_⟩
      rw [FilterParams.changes_grown stays.chain inside]
      apply changes_subset_of_mem atFirst atLast above upTo topics
      intro log inChain selected _
      rw [same]
      simp [MirrorNode.logsOf, inChain, selected]
  | one address =>
      apply reads_matchingOfAddresses _ atFirst atLast above upTo topics observed asked
      intro log isMatch
      rw [LogFilterParams.matchesLog, addressed] at isMatch
      exact ⟨address, List.mem_singleton_self address, (Bool.and_eq_true_iff.mp isMatch).2⟩
  | many addresses =>
      apply reads_matchingOfAddresses _ atFirst atLast above upTo topics observed asked
      intro log isMatch
      rw [LogFilterParams.matchesLog, addressed] at isMatch
      exact List.any_eq_true.mp (Bool.and_eq_true_iff.mp isMatch).2

/-- The query of a poll: from a block that is there to the head. -/
theorem reads_getLogsToHead (service : CommonService) (params : LogFilterParams) (number : HexNumber)
    (first : state.start = number.value) (asked : state.queried = none)
    (there : number.value < state.chain.blocks.length) :
    Reads mirrorNode (Covered mirrorNode params number.value)
      (service.getLogs (.hex number) .latest params.address params.topics) state := by
  have nothing : (FilterParams.log params).changes mirrorNode state.chain state.start number.value = [] :=
    FilterParams.changes_eq_nil (by omega)
  have resumes : Resumes mirrorNode state (.log params) (.hex number) [] := by
    constructor
    · rintro _ ⟨⟩
      exact ⟨nothing.symm, Nat.le_of_eq first, Nat.le_of_lt there⟩
    · rintro _ ⟨⟩
      exact there
    · rintro ⟨⟩
  apply (reads_blockRange service params.address rfl asked resumes).bind
  intro result later observed range
  cases result with
  | none =>
      obtain ⟨covered, upToDate⟩ := range
      apply reads_pure
      intro after interfered other queried
      rw [interfered.queried, upToDate.queried] at queried
      obtain rfl := Option.some.inj queried
      refine ⟨upToDate.inside.trans interfered.toObserves.length_le, ?_⟩
      rw [FilterParams.changes_grown interfered.chain upToDate.inside, ← first, ← upToDate.delivered]
      exact List.nil_subset _
  | some timestamps =>
      obtain ⟨timestampGte, timestampLte⟩ := timestamps
      obtain ⟨start, last, ranged⟩ := range
      obtain ⟨firstBlock, atFirst, above⟩ := ranged.firstBlock
      obtain ⟨lastBlock, atLast, upTo⟩ := ranged.lastBlock
      apply (reads_matching atFirst atLast above upTo rfl (FilterState.Observes.refl later) ranged.queried).weaken
      intro logs after observedAgain covers covered queried
      obtain ⟨inside, among⟩ := covers covered queried
      refine ⟨inside, ?_⟩
      intro change member
      rcases FilterParams.mem_changes_split start member with before | since
      · obtain ⟨known, _⟩ := List.getElem?_eq_some_iff.mp atFirst
        rw [FilterParams.changes_grown observedAgain.chain (Nat.le_of_lt known), ← first, ← ranged.delivered] at before
        exact absurd before List.not_mem_nil
      · exact among since

end Queries

/-- The operations that do not touch the entry of a filter. -/
def FilterOp.IsQuery : FilterOp → Prop
  | .getFilter | .setFilter _ => False
  | _ => True

theorem FilterState.record_filter {op : FilterOp} (query : op.IsQuery) (state : FilterState) :
    (state.record op).filter = state.filter := by
  cases op with
  | getFilter | setFilter => exact query.elim
  | getLatestBlock | getBlock | getBlocks | getContractResultsLogs => rfl

/-- Where there is no filter, every query may be asked. -/
theorem unskipping_of_none {mirrorNode : MirrorNode} {state : FilterState} {op : FilterOp}
    (absent : state.filter = none) :
    Unskipping mirrorNode state op := by
  unfold Unskipping
  split
  · intro _
    constructor
    · intro _ _ filter present
      rw [absent] at present
      cases present
    · intro filter present
      rw [absent] at present
      cases present
  · intro filter _ _ present
    rw [absent] at present
    cases present
  · trivial

/-- The call only queries. -/
def Queries {Result : Type} (program : Throwing Result) : Prop := program.run.Asks FilterOp.IsQuery

section Queries

variable {Result Next : Type}

theorem queries_pure (result : Result) : Queries (pure result) := trivial

theorem queries_throw (error : FilterError) : Queries (throw error : Throwing Result) := trivial

theorem queries_await (op : FilterOp) (query : op.IsQuery) : Queries (await op) := ⟨query, fun _ => trivial⟩

theorem queries_answered (answer : Option Result) : Queries (answered answer) := by
  cases answer <;> trivial

theorem Queries.bind {program : Throwing Result} {next : Result → Throwing Next} (first : Queries program)
    (second : ∀ result, Queries (next result)) : Queries (program >>= next) := asks_bindExcept first second

theorem queries_getLatestBlock : Queries MirrorNodeClient.getLatestBlock :=
  (queries_await .getLatestBlock trivial).bind queries_answered

theorem queries_getBlock (number : Nat) : Queries (MirrorNodeClient.getBlock number) :=
  (queries_await (.getBlock number) trivial).bind queries_answered

end Queries

namespace CommonService

variable (service : CommonService) (address : AddressParam)

private theorem queries_getLatestBlockNumber : Queries getLatestBlockNumber := by
  apply queries_getLatestBlock.bind
  intro blocks
  cases blocks with
  | nil => exact queries_throw _
  | cons => exact queries_pure _

theorem queries_getHistoricalBlockResponse (block : BlockParam) :
    Queries (service.getHistoricalBlockResponse block) := by
  cases block with
  | hex number =>
      apply queries_getLatestBlock.bind
      intro blocks
      cases blocks with
      | nil => exact queries_throw _
      | cons latestBlock =>
          dsimp only
          split_ifs
          · exact queries_pure _
          · exact queries_getBlock _
  | number value => exact queries_getBlock value
  | earliest => exact queries_getBlock 0
  | latest | pending | safe | finalized => exact queries_getLatestBlock.bind fun _ => queries_pure _

private theorem queries_checkMissingFromBlock (fromBlock toBlock : BlockParam) :
    Queries (checkMissingFromBlock fromBlock toBlock) := by
  unfold checkMissingFromBlock
  split_ifs
  · apply queries_getLatestBlockNumber.bind
    intro number
    split_ifs
    · exact queries_throw _
    · exact queries_pure _
  · exact queries_pure _

private theorem queries_blockRange (fromBlock toBlock : BlockParam) :
    Queries (service.validateBlockRangeAndAddTimestampToParams fromBlock toBlock address) := by
  apply (queries_checkMissingFromBlock fromBlock toBlock).bind
  intro _
  apply (queries_getHistoricalBlockResponse service _).bind
  intro fromBlockResponse
  cases fromBlockResponse with
  | none => exact queries_pure _
  | some fromBlockResponse =>
      dsimp only
      split_ifs
      · exact queries_pure _
      · apply (queries_getHistoricalBlockResponse service _).bind
        intro toBlockResponse
        cases toBlockResponse with
        | none => exact queries_pure _
        | some toBlockResponse =>
            dsimp only
            split_ifs
            · exact queries_throw _
            · exact queries_throw _
            · exact queries_throw _
            · exact queries_pure _

private theorem queries_logsOfAddresses (params : LogsParams) (addresses : List String) :
    Queries (logsOfAddresses params addresses) := by
  induction addresses with
  | nil => exact queries_pure _
  | cons address rest ih =>
      have one : Queries (MirrorNodeClient.getContractResultsLogsByAddress address params) := by
        unfold MirrorNodeClient.getContractResultsLogsByAddress
        split_ifs
        · exact queries_pure _
        · exact (queries_await (.getContractResultsLogs (some address) params) trivial).bind queries_answered
      exact one.bind fun _ => ih.bind fun _ => queries_pure _

private theorem queries_getLogsWithParams (params : LogsParams) : Queries (getLogsWithParams address params) := by
  have byAddress : ∀ addresses, Queries (getLogsByAddress addresses params) := fun addresses =>
    (queries_logsOfAddresses params addresses).bind fun _ => queries_pure _
  unfold getLogsWithParams
  cases address.orAbsent with
  | absent =>
    exact ((queries_await (.getContractResultsLogs none params) trivial).bind queries_answered).bind
      fun _ => queries_pure _
  | one address => exact (byAddress [address]).bind fun _ => queries_pure _
  | many addresses => exact (byAddress addresses).bind fun _ => queries_pure _

theorem queries_getLogs (fromBlock toBlock : BlockParam) (topics : Option (List (Option (List String)))) :
    Queries (service.getLogs fromBlock toBlock address topics) := by
  apply (queries_blockRange service address fromBlock toBlock).bind
  intro timestamps
  cases timestamps with
  | none => exact queries_pure _
  | some => exact queries_getLogsWithParams address _

end CommonService

end HieroRelay.Filters
