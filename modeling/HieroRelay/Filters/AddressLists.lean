import HieroRelay.Filters.BlockRanges

/-! The logs of a list of addresses, one query for each of them, against those of the query
without an address: when the sort by timestamp gives every log once and in chain order. -/

namespace HieroRelay.Filters

open HieroRelay.Lib

section Ordered

variable {logs others : List MirrorNodeLog}

/-- Two lists of the same length, where one is in chain order and has no log that is
not in the other, have the same logs. -/
theorem perm_of_subset (ordered : logs.Pairwise MirrorNodeLog.Before) (subset : logs ⊆ others)
    (length : others.length = logs.length) : logs.Perm others :=
  (List.subperm_of_subset (nodup_of_fine MirrorNodeLog.Before.irrefl ordered) subset).perm_of_length_le length.le

theorem getElem_eq_of_map_eq {key : MirrorNodeLog → Nat} (same : logs.map key = others.map key) {position : Nat}
    (inside : position < logs.length) (insideToo : position < others.length) :
    key logs[position] = key others[position] := by
  have atPosition := congrArg (·[position]?) same
  simpa [inside, insideToo] using atPosition

/-- The chain order shows in the timestamps and indexes alone. -/
theorem pairwise_before_congr (ordered : logs.Pairwise MirrorNodeLog.Before)
    (timestamps : logs.map MirrorNodeLog.timestamp = others.map MirrorNodeLog.timestamp)
    (indexes : logs.map MirrorNodeLog.index = others.map MirrorNodeLog.index) :
    others.Pairwise MirrorNodeLog.Before := by
  have length : logs.length = others.length := by simpa using congrArg List.length timestamps
  apply List.pairwise_iff_getElem.mpr
  intro first second insideFirst insideSecond order
  have before := List.pairwise_iff_getElem.mp ordered first second (by omega) (by omega) order
  rwa [MirrorNodeLog.Before, getElem_eq_of_map_eq timestamps (by omega) insideFirst,
    getElem_eq_of_map_eq timestamps (by omega) insideSecond, getElem_eq_of_map_eq indexes (by omega) insideFirst,
    getElem_eq_of_map_eq indexes (by omega) insideSecond] at before

private theorem timestamps_eq (ordered : logs.Pairwise MirrorNodeLog.Before)
    (sorted : others.Pairwise fun first second => first.timestamp ≤ second.timestamp) (same : logs.Perm others) :
    logs.map MirrorNodeLog.timestamp = others.map MirrorNodeLog.timestamp := by
  have ascending : logs.Pairwise fun first second => first.timestamp ≤ second.timestamp := by
    apply ordered.imp
    rintro first second (earlier | ⟨equal, -⟩)
    · exact earlier.le
    · exact equal.le
  apply (same.map MirrorNodeLog.timestamp).eq_of_pairwise
  · intro first second _ _ below above
    exact Nat.le_antisymm below above
  · exact List.pairwise_map.mpr ascending
  · exact List.pairwise_map.mpr sorted

end Ordered

section Lists

variable {mirrorNode : MirrorNode} {params : LogsParams} {chain : Chain} {addresses : List String}

/-- The logs of the query without an address that are of one of the addresses. -/
def MirrorNode.logsOfList (mirrorNode : MirrorNode) (addresses : List String) (params : LogsParams) (chain : Chain) :
    List MirrorNodeLog :=
  (mirrorNode.logsOf none params chain).filter fun log => addresses.any (mirrorNode.isLogOf · log)

theorem logsOfList_ordered : (mirrorNode.logsOfList addresses params chain).Pairwise MirrorNodeLog.Before :=
  (chain.logs_ordered.filter _).filter _

/-- The answers for the addresses, one after the other. -/
def MirrorNode.concatenated (mirrorNode : MirrorNode) (addresses : List String) (params : LogsParams) (chain : Chain) :
    List MirrorNodeLog :=
  addresses.flatMap fun address => mirrorNode.logsOf (some address) params chain

theorem mem_concatenated {log : MirrorNodeLog} :
    log ∈ mirrorNode.concatenated addresses params chain ↔ log ∈ mirrorNode.logsOfList addresses params chain := by
  simp only [MirrorNode.concatenated, List.mem_flatMap, MirrorNode.logsOfList, MirrorNode.logsOf, List.mem_filter,
    Bool.and_eq_true, List.any_eq_true, Option.all_none, Option.all_some]
  tauto

private theorem outcome_logsOfAddresses :
    chain.outcome mirrorNode (CommonService.logsOfAddresses params addresses) =
      .ok (mirrorNode.concatenated addresses params chain) := by
  induction addresses with
  | nil => rfl
  | cons address rest ih =>
    have one : chain.outcome mirrorNode (MirrorNodeClient.getContractResultsLogsByAddress address params) =
        .ok (mirrorNode.logsOf (some address) params chain) := by
      unfold MirrorNodeClient.getContractResultsLogsByAddress
      split
      · rename_i zero
        have silent : mirrorNode.logsOf (some address) params chain = [] := by
          simp [MirrorNode.logsOf, beq_iff_eq.mp zero, mirrorNode.zeroAddress_silent]
        rw [silent]
        rfl
      · rfl
    rw [CommonService.logsOfAddresses, Chain.outcome_bind one, Chain.outcome_bind ih]
    rfl

theorem outcome_getLogsWithParams :
    chain.outcome mirrorNode (CommonService.getLogsWithParams (.many addresses) params) =
      .ok ((CommonService.sortedByTimestamp (mirrorNode.concatenated addresses params chain)).map Log.ofMirrorNode) := by
  have sorted : chain.outcome mirrorNode (CommonService.getLogsByAddress addresses params) =
      .ok (CommonService.sortedByTimestamp (mirrorNode.concatenated addresses params chain)) := by
    rw [CommonService.getLogsByAddress, Chain.outcome_bind outcome_logsOfAddresses]
    rfl
  exact (Chain.outcome_bind sorted).trans rfl

theorem timestamp_le_trans (first second third : MirrorNodeLog)
    (below : decide (first.timestamp ≤ second.timestamp) = true)
    (above : decide (second.timestamp ≤ third.timestamp) = true) : decide (first.timestamp ≤ third.timestamp) = true := by
  rw [decide_eq_true_eq] at *
  exact below.trans above

theorem timestamp_le_total (first second : MirrorNodeLog) :
    (decide (first.timestamp ≤ second.timestamp) || decide (second.timestamp ≤ first.timestamp)) = true := by
  simp [Nat.le_total]

private theorem sortedByTimestamp_sorted (logs : List MirrorNodeLog) :
    (CommonService.sortedByTimestamp logs).Pairwise fun first second => first.timestamp ≤ second.timestamp := by
  apply (List.pairwise_mergeSort timestamp_le_trans timestamp_le_total logs).imp
  intro first second below
  exact of_decide_eq_true below

/-- Logs that stand in chain order after the sort came from queries in that order. -/
theorem inLogOrder_of_ordered
    (ordered : (CommonService.sortedByTimestamp (mirrorNode.concatenated addresses params chain)).Pairwise
      MirrorNodeLog.Before) : InLogOrder mirrorNode params chain addresses := by
  have tied : (mirrorNode.concatenated addresses params chain).Pairwise fun log other =>
      log.timestamp = other.timestamp → log.Before other := by
    apply List.pairwise_iff_forall_sublist.mpr
    intro log other inOrder same
    have kept := List.pair_sublist_mergeSort timestamp_le_trans timestamp_le_total (decide_eq_true same.le) inOrder
    exact List.pairwise_iff_forall_sublist.mp ordered kept
  apply (List.pairwise_flatMap.mp tied).2.imp
  intro first second apart log there other otherThere selected otherSelected ofFirst ofSecond same
  rcases apart log (mem_logsOf.mpr ⟨there, selected, ofFirst⟩) other
    (mem_logsOf.mpr ⟨otherThere, otherSelected, ofSecond⟩) same with earlier | ⟨-, below⟩
  · exact absurd same earlier.ne
  · exact below

/-- The answers are the logs of the addresses, each once and in chain order. -/
def Listed (chain : Chain) (mirrorNode : MirrorNode) (addresses : List String) (params : LogsParams)
    (call : Throwing (List Log)) : Prop :=
  chain.outcome mirrorNode call = .ok ((mirrorNode.logsOfList addresses params chain).map Log.ofMirrorNode)

/-- The logs of a list of addresses are listed exactly if none of its later addresses has a
log of a transaction before or at one of an earlier address. -/
theorem listed_getLogsWithParams :
    Listed chain mirrorNode addresses params (CommonService.getLogsWithParams (.many addresses) params) ↔
      InLogOrder mirrorNode params chain addresses := by
  rw [Listed, outcome_getLogsWithParams, Except.ok.injEq]
  have subset : mirrorNode.logsOfList addresses params chain ⊆
      CommonService.sortedByTimestamp (mirrorNode.concatenated addresses params chain) := by
    intro log member
    exact List.mem_mergeSort.mpr (mem_concatenated.mpr member)
  constructor
  · intro same
    have length := congrArg List.length same
    rw [List.length_map, List.length_map] at length
    have permuted := perm_of_subset logsOfList_ordered subset length
    have indexes := congrArg (List.map fun log => log.logIndex.value) same
    rw [List.map_map, List.map_map] at indexes
    apply inLogOrder_of_ordered
    exact pairwise_before_congr logsOfList_ordered
      (timestamps_eq logsOfList_ordered (sortedByTimestamp_sorted _) permuted) indexes.symm
  · intro inOrder
    congr 1
    apply eq_of_fine_of_mem_iff MirrorNodeLog.Before.irrefl MirrorNodeLog.Before.asymm
      (sortedByTimestamp_ordered inOrder) logsOfList_ordered
    intro log
    exact List.mem_mergeSort.trans mem_concatenated

end Lists

/-- The timestamps of a block by its hash, or of a range; nothing where a block is missing.
The lookup of a hash is a parameter. -/
def ContractService.timestampsOf (service : CommonService) (getBlockByHash : String → Throwing (Option MirrorNodeBlock))
    (blockHash : Option String) (fromBlock toBlock : BlockParam) (address : AddressParam) :
    Throwing (Option (Nat × Nat)) := do
  match blockHash.filter (· ≠ "") with
  | some blockHash => return (← getBlockByHash blockHash).map fun block => (block.timestampFrom, block.timestampTo)
  | none => service.validateBlockRangeAndAddTimestampToParams fromBlock toBlock address

def ContractService.getLogs (service : CommonService) (getBlockByHash : String → Throwing (Option MirrorNodeBlock))
    (blockHash : Option String) (fromBlock toBlock : BlockParam) (address : AddressParam)
    (topics : Option (List (Option (List String)))) : Throwing (List Log) := do
  match ← timestampsOf service getBlockByHash blockHash fromBlock toBlock address with
  | none => return []
  | some (timestampGte, timestampLte) =>
      CommonService.getLogsWithParams address
        { timestampGte, timestampLte, topics := CommonService.addTopicsToParams topics }

section Examples

def transfer (address : String) (index : Nat) : MirrorNodeLog where
  address
  blockHash := "0xa"
  blockNumber := 0
  data := "0x"
  index
  topics := []
  transactionHash := "0xc"
  transactionIndex := 0
  timestamp := 1700000000000000000

private theorem transfer_spans : 1700000000000000000 ≤ 1700000001000000000 := by decide

/-- A block with one transaction, in which two contracts have a log each. -/
def transferBlock : MirrorNodeBlock where
  number := 0
  hash := "0xa"
  timestampFrom := 1700000000000000000
  timestampTo := 1700000001000000000
  logs := [transfer "0x1" 0, transfer "0x2" 1]
  spans := transfer_spans
  ordered := by decide
  inside := by decide

def transferChain : Chain where
  blocks := [transferBlock]
  started := by simp
  numbered := by
    intro number block present
    rcases number with _ | number
    · cases present
      rfl
    · cases present
  ordered := .cons (List.forall_mem_nil _) .nil

/-- A mirror node that lists the logs by the address they carry. -/
def carriedNode : MirrorNode where
  isLogOf address log := decide (address ≠ zeroAddress ∧ log.address = address)
  zeroAddress_silent log := by simp

def limits : CommonService := .new 5 1000

def noHash (_ : String) : Throwing (Option MirrorNodeBlock) := return none

end Examples

end HieroRelay.Filters
