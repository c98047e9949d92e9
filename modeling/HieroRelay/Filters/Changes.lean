import HieroRelay.Filters.FilterService

/-! What the blocks of the chain bring to a filter, and that the logs of several addresses,
sorted by their timestamps, come in this order. -/

namespace HieroRelay.Filters

open HieroRelay.Lib

/-- The logs that a filter is about. -/
def LogFilterParams.matchesLog (mirrorNode : MirrorNode) (params : LogFilterParams) (log : MirrorNodeLog) : Bool :=
  topicsMatch (CommonService.addTopicsToParams params.topics) log &&
    match params.address.orAbsent with
    | .absent => true
    | .one address => mirrorNode.isLogOf address log
    | .many addresses => addresses.any (mirrorNode.isLogOf · log)

/-- What a block brings to a filter. -/
def FilterParams.changesOf (mirrorNode : MirrorNode) (params : FilterParams) (block : MirrorNodeBlock) :
    List Change :=
  match params with
  | .log params => (block.logs.filter (params.matchesLog mirrorNode)).map fun log => .log (.ofMirrorNode log)
  | .newBlock _ => [.blockHash block.hash]

/-- What the blocks from one number on and below another one bring, in chain order. -/
def FilterParams.changes (mirrorNode : MirrorNode) (params : FilterParams) (chain : Chain) (first last : Nat) :
    List Change :=
  (chain.between first last).flatMap (params.changesOf mirrorNode)

/-- Where a transaction has logs for two of the addresses, the address that comes first
has the earlier logs. -/
def InLogOrder (mirrorNode : MirrorNode) (params : LogsParams) (chain : Chain) (addresses : List String) : Prop :=
  addresses.Pairwise fun first second => ∀ log ∈ chain.logs, ∀ other ∈ chain.logs,
    params.selects log = true → params.selects other = true →
    mirrorNode.isLogOf first log = true → mirrorNode.isLogOf second other = true →
    log.timestamp = other.timestamp → log.index < other.index

namespace FilterParams

variable {mirrorNode : MirrorNode} {params : FilterParams} {chain later : Chain} {first middle last : Nat}

theorem changes_append (above : first ≤ middle) (below : middle ≤ last) :
    params.changes mirrorNode chain first middle ++ params.changes mirrorNode chain middle last =
      params.changes mirrorNode chain first last := by
  unfold changes
  rw [← List.flatMap_append, Chain.between_append above below]

theorem changes_eq_nil (order : last ≤ first) : params.changes mirrorNode chain first last = [] := by
  rw [changes, Chain.between_eq_nil order, List.flatMap_nil]

theorem changes_grown (grown : chain.blocks <+: later.blocks) (inside : last ≤ chain.blocks.length) :
    params.changes mirrorNode later first last = params.changes mirrorNode chain first last := by
  rw [changes, changes, Chain.between_grown grown inside]

/-- The changes of a log filter are the logs that match, in chain order. -/
theorem changes_log (params : LogFilterParams) :
    (FilterParams.log params).changes mirrorNode chain first last =
      (((chain.between first last).flatMap MirrorNodeBlock.logs).filter (params.matchesLog mirrorNode)).map
        fun log => .log (.ofMirrorNode log) := by
  rw [List.filter_flatMap, List.map_flatMap]
  rfl

theorem mem_changes_log {params : LogFilterParams} {log : Log}
    (member : Change.log log ∈ (FilterParams.log params).changes mirrorNode chain first last) :
    first ≤ log.blockNumber.value ∧ log.blockNumber.value < last := by
  rw [changes_log] at member
  obtain ⟨source, kept, same⟩ := List.mem_map.mp member
  obtain ⟨block, between, inBlock⟩ := List.mem_flatMap.mp (List.mem_filter.mp kept).1
  obtain ⟨number, above, below, found⟩ := Chain.mem_between.mp between
  have ofBlock := (block.inside source inBlock).1
  have ofChain := chain.numbered number block found
  cases same
  simp only [Log.ofMirrorNode, numberTo0x]
  omega

/-- After the block of the last log there is none. -/
theorem changes_log_getLast {params : LogFilterParams} {log : Log}
    (isLast : ((FilterParams.log params).changes mirrorNode chain first last).getLast? = some (.log log)) :
    (FilterParams.log params).changes mirrorNode chain (log.blockNumber.value + 1) last = [] := by
  obtain ⟨above, below⟩ := mem_changes_log (List.mem_of_getLast? isLast)
  by_contra more
  have split : (FilterParams.log params).changes mirrorNode chain first (log.blockNumber.value + 1) ++
      (FilterParams.log params).changes mirrorNode chain (log.blockNumber.value + 1) last =
        (FilterParams.log params).changes mirrorNode chain first last :=
    changes_append (by omega) below
  rw [← split, List.getLast?_append_of_ne_nil _ more] at isLast
  have beyond := (mem_changes_log (List.mem_of_getLast? isLast)).1
  omega

/-- The changes of a block filter are the hashes. -/
theorem changes_newBlock (blockAtCreation : HexNumber) :
    (FilterParams.newBlock blockAtCreation).changes mirrorNode chain first last =
      (chain.between first last).map fun block => .blockHash block.hash := by
  unfold changes
  induction chain.between first last with
  | nil => rfl
  | cons block rest ih =>
    rw [List.flatMap_cons, ih]
    rfl

end FilterParams

section Ranges

variable {mirrorNode : MirrorNode} {params : LogsParams} {chain later : Chain} {first last : Nat}
  {firstBlock lastBlock : MirrorNodeBlock}

/-- New blocks are beyond the range of a query. -/
theorem logsOf_grown (atLast : chain.blocks[last]? = some lastBlock)
    (upTo : params.timestampLte = lastBlock.timestampTo) (grown : chain.blocks <+: later.blocks)
    (address : Option String) : mirrorNode.logsOf address params later = mirrorNode.logsOf address params chain := by
  obtain ⟨rest, same⟩ := grown
  have beyond : (rest.flatMap MirrorNodeBlock.logs).filter
      (fun log => params.selects log && address.all (mirrorNode.isLogOf · log)) = [] := by
    apply List.filter_eq_nil_iff.mpr
    intro log member
    obtain ⟨block, new, inBlock⟩ := List.mem_flatMap.mp member
    have ordered := later.ordered
    rw [← same] at ordered
    have apart := (List.pairwise_append.mp ordered).2.2 lastBlock (List.mem_of_getElem? atLast) block new
    have above := (block.inside log inBlock).2.1
    simp only [LogsParams.selects, Bool.and_eq_true, decide_eq_true_eq]
    omega
  unfold MirrorNode.logsOf Chain.logs
  rw [← same, List.flatMap_append, List.filter_append, beyond, List.append_nil]

/-- The logs of a range that match, in chain order, are one list. -/
theorem logs_eq_of_ordered (atFirst : chain.blocks[first]? = some firstBlock)
    (atLast : chain.blocks[last]? = some lastBlock) (above : params.timestampGte = firstBlock.timestampFrom)
    (upTo : params.timestampLte = lastBlock.timestampTo) {ofAddress : MirrorNodeLog → Bool}
    {logs : List MirrorNodeLog} (ordered : logs.Pairwise MirrorNodeLog.Before)
    (same : ∀ log, log ∈ logs ↔ log ∈ chain.logs ∧ params.selects log = true ∧ ofAddress log = true) :
    logs = ((chain.between first (last + 1)).flatMap MirrorNodeBlock.logs).filter
      fun log => topicsMatch params.topics log && ofAddress log := by
  apply eq_of_fine_of_mem_iff MirrorNodeLog.Before.irrefl MirrorNodeLog.Before.asymm ordered
  · exact (chain.between_logs_ordered first (last + 1)).filter _
  · intro log
    rw [same log, List.mem_filter, Chain.mem_between_logs atFirst atLast]
    simp only [LogsParams.selects, Bool.and_eq_true, decide_eq_true_eq, above, upTo]
    tauto

theorem mem_logsOf {address : String} {log : MirrorNodeLog} :
    log ∈ mirrorNode.logsOf (some address) params chain ↔
      log ∈ chain.logs ∧ params.selects log = true ∧ mirrorNode.isLogOf address log = true := by
  simp [MirrorNode.logsOf]

/-- The logs of several addresses are in chain order after the sort, each once. -/
theorem sortedByTimestamp_ordered {addresses : List String}
    (inOrder : InLogOrder mirrorNode params chain addresses) :
    (CommonService.sortedByTimestamp (addresses.flatMap fun address =>
      mirrorNode.logsOf (some address) params chain)).Pairwise MirrorNodeLog.Before := by
  have tied : (addresses.flatMap fun address => mirrorNode.logsOf (some address) params chain).Pairwise
      fun log other => log.timestamp = other.timestamp → log.Before other := by
    apply List.pairwise_flatMap.mpr
    constructor
    · intro address _
      apply (chain.logs_ordered.filter _).imp
      intro log other before _
      exact before
    · apply inOrder.imp
      intro one two separate log inOne other inTwo same
      obtain ⟨there, selected, ofOne⟩ := mem_logsOf.mp inOne
      obtain ⟨otherThere, otherSelected, ofTwo⟩ := mem_logsOf.mp inTwo
      exact Or.inr ⟨same, separate log there other otherThere selected otherSelected ofOne ofTwo same⟩
  have nodup : (addresses.flatMap fun address => mirrorNode.logsOf (some address) params chain).Nodup := by
    apply tied.imp
    intro log other before same
    subst same
    exact MirrorNodeLog.Before.irrefl log (before rfl)
  apply pairwise_mergeSort_fine
  · intro one two three
    simp only [decide_eq_true_eq]
    exact Nat.le_trans
  · intro one two
    simp only [Bool.or_eq_true, decide_eq_true_eq]
    exact Nat.le_total _ _
  · exact nodup
  · intro one two later
    exact Or.inl (by simpa using later)
  · apply tied.imp
    intro log other before below above
    exact before (Nat.le_antisymm (by simpa using below) (by simpa using above))

end Ranges

end HieroRelay.Filters
