import HieroRelay.Lib.StableSort

/-! The chain as the mirror node shows it, and its answers to the queries about blocks
and logs. Timestamps are numbers: their texts have one length and the same order. -/

namespace HieroRelay.Filters

open HieroRelay.Lib

structure MirrorNodeLog where
  address : String
  blockHash : String
  blockNumber : Nat
  data : String
  index : Nat
  topics : List String
  transactionHash : String
  transactionIndex : Nat
  timestamp : Nat
  deriving Repr, DecidableEq

/-- The order of the chain: by transaction, and in a transaction by index. -/
def MirrorNodeLog.Before (first second : MirrorNodeLog) : Prop :=
  first.timestamp < second.timestamp ∨ first.timestamp = second.timestamp ∧ first.index < second.index

instance (first second : MirrorNodeLog) : Decidable (first.Before second) :=
  inferInstanceAs (Decidable (_ ∨ _))

theorem MirrorNodeLog.Before.irrefl (log : MirrorNodeLog) : ¬ log.Before log := by
  simp [MirrorNodeLog.Before]

theorem MirrorNodeLog.Before.asymm (first second : MirrorNodeLog) (before : first.Before second) :
    ¬ second.Before first := by
  unfold MirrorNodeLog.Before at *
  omega

/-- A block with the logs of its transactions, in their order. -/
structure MirrorNodeBlock where
  number : Nat
  hash : String
  timestampFrom : Nat
  timestampTo : Nat
  logs : List MirrorNodeLog
  spans : timestampFrom ≤ timestampTo
  ordered : logs.Pairwise MirrorNodeLog.Before
  inside : ∀ log ∈ logs, log.blockNumber = number ∧ timestampFrom ≤ log.timestamp ∧ log.timestamp ≤ timestampTo

/-- The blocks from block 0 on, which is always there, each with its position as number. -/
structure Chain where
  blocks : List MirrorNodeBlock
  started : blocks ≠ []
  numbered : ∀ (number : Nat) (block : MirrorNodeBlock), blocks[number]? = some block → block.number = number
  ordered : blocks.Pairwise fun (earlier later : MirrorNodeBlock) => earlier.timestampTo < later.timestampFrom

namespace Chain

/-- A new block follows the last one. -/
def produce (chain : Chain) (block : MirrorNodeBlock) : Option Chain :=
  if follows : block.number = chain.blocks.length ∧
      ∀ earlier ∈ chain.blocks, earlier.timestampTo < block.timestampFrom then
    some {
      blocks := chain.blocks ++ [block]
      started := by simp
      numbered := by
        intro number found present
        by_cases last : number < chain.blocks.length
        · rw [List.getElem?_append_left last] at present
          exact chain.numbered number found present
        · rw [List.getElem?_append_right (Nat.le_of_not_lt last)] at present
          have position : number - chain.blocks.length = 0 := by
            by_contra beyond
            rw [List.getElem?_singleton, if_neg beyond] at present
            cases present
          rw [position] at present
          obtain rfl := Option.some.inj present
          omega
      ordered := by
        apply List.pairwise_append.mpr
        refine ⟨chain.ordered, List.pairwise_singleton _ _, ?_⟩
        intro earlier present later new
        rw [List.mem_singleton.mp new]
        exact follows.2 earlier present }
  else none

/-- The blocks from a number on and below another one. -/
def between (chain : Chain) (first last : Nat) : List MirrorNodeBlock :=
  (chain.blocks.take last).drop first

def logs (chain : Chain) : List MirrorNodeLog :=
  chain.blocks.flatMap MirrorNodeBlock.logs

end Chain

def zeroAddress : String := "0x0000000000000000000000000000000000000000"

/-- Which logs the mirror node lists for an address. -/
structure MirrorNode where
  isLogOf : String → MirrorNodeLog → Bool
  zeroAddress_silent : ∀ log, isLogOf zeroAddress log = false

/-- The query parameters: a range of timestamps, and for some positions the topics that
may stand there. -/
structure LogsParams where
  timestampGte : Nat
  timestampLte : Nat
  topics : List (Nat × List String)
  deriving Repr, DecidableEq

def topicsMatch (topics : List (Nat × List String)) (log : MirrorNodeLog) : Bool :=
  topics.all fun (position, alternatives) =>
    match log.topics[position]? with
    | some topic => alternatives.contains topic
    | none => false

def LogsParams.selects (params : LogsParams) (log : MirrorNodeLog) : Bool :=
  params.timestampGte ≤ log.timestamp && log.timestamp ≤ params.timestampLte && topicsMatch params.topics log

/-- The logs of a query, in the order of the chain. -/
def MirrorNode.logsOf (mirrorNode : MirrorNode) (address : Option String) (params : LogsParams) (chain : Chain) :
    List MirrorNodeLog :=
  chain.logs.filter fun log => params.selects log && address.all (mirrorNode.isLogOf · log)

/-- The blocks that end within the range of a query. -/
def LogsParams.covered (params : LogsParams) (chain : Chain) : Nat :=
  (chain.blocks.filter fun block => block.timestampTo ≤ params.timestampLte).length

theorem pairwise_logs {blocks : List MirrorNodeBlock}
    (ordered : blocks.Pairwise fun (earlier later : MirrorNodeBlock) => earlier.timestampTo < later.timestampFrom) :
    (blocks.flatMap MirrorNodeBlock.logs).Pairwise MirrorNodeLog.Before := by
  apply List.pairwise_flatMap.mpr
  constructor
  · intro block _
    exact block.ordered
  · apply ordered.imp
    intro earlier later before first inEarlier second inLater
    have above := (earlier.inside first inEarlier).2.2
    have below := (later.inside second inLater).2.1
    exact Or.inl (by omega)

namespace Chain

variable {chain : Chain} {first last : Nat} {firstBlock lastBlock : MirrorNodeBlock}

theorem logs_ordered (chain : Chain) : chain.logs.Pairwise MirrorNodeLog.Before :=
  pairwise_logs chain.ordered

theorem between_logs_ordered (chain : Chain) (first last : Nat) :
    ((chain.between first last).flatMap MirrorNodeBlock.logs).Pairwise MirrorNodeLog.Before := by
  apply pairwise_logs
  exact (chain.ordered.sublist (List.take_sublist last chain.blocks)).sublist (List.drop_sublist first _)

theorem timestampTo_lt (chain : Chain) {earlier later : Nat} {earlierBlock laterBlock : MirrorNodeBlock}
    (atEarlier : chain.blocks[earlier]? = some earlierBlock) (atLater : chain.blocks[later]? = some laterBlock)
    (before : earlier < later) : earlierBlock.timestampTo < laterBlock.timestampFrom := by
  obtain ⟨earlierInside, rfl⟩ := List.getElem?_eq_some_iff.mp atEarlier
  obtain ⟨laterInside, rfl⟩ := List.getElem?_eq_some_iff.mp atLater
  exact List.pairwise_iff_getElem.mp chain.ordered earlier later earlierInside laterInside before

theorem grown_of_produce {later : Chain} {block : MirrorNodeBlock} (produced : chain.produce block = some later) :
    chain.blocks <+: later.blocks := by
  unfold produce at produced
  split_ifs at produced
  obtain rfl := Option.some.inj produced
  exact List.prefix_append chain.blocks [block]

theorem mem_between {block : MirrorNodeBlock} :
    block ∈ chain.between first last ↔
      ∃ number, first ≤ number ∧ number < last ∧ chain.blocks[number]? = some block := by
  unfold between
  constructor
  · intro member
    obtain ⟨position, found⟩ := List.mem_iff_getElem?.mp member
    rw [List.getElem?_drop, List.getElem?_take] at found
    split_ifs at found with below
    exact ⟨first + position, Nat.le_add_right _ _, below, found⟩
  · intro ⟨number, above, below, found⟩
    apply List.mem_iff_getElem?.mpr
    refine ⟨number - first, ?_⟩
    rw [List.getElem?_drop, List.getElem?_take, Nat.add_sub_cancel' above, if_pos below]
    exact found

theorem between_append {middle : Nat} (above : first ≤ middle) (below : middle ≤ last) :
    chain.between first middle ++ chain.between middle last = chain.between first last := by
  unfold between
  have split : chain.blocks.take last = chain.blocks.take middle ++ (chain.blocks.take last).drop middle := by
    have parts := List.take_append_drop middle (chain.blocks.take last)
    rwa [List.take_take, Nat.min_eq_left below, eq_comm] at parts
  conv_rhs => rw [split, List.drop_append]
  by_cases short : first ≤ (chain.blocks.take middle).length
  · rw [Nat.sub_eq_zero_of_le short, List.drop_zero]
  · have ended : (chain.blocks.take last).drop middle = [] := by
      apply List.drop_eq_nil_of_le
      simp only [List.length_take] at short ⊢
      omega
    rw [ended, List.drop_nil]

theorem between_eq_nil (order : last ≤ first) : chain.between first last = [] := by
  apply List.drop_eq_nil_of_le
  rw [List.length_take]
  omega

/-- The blocks that are there stay. -/
theorem between_grown {later : Chain} (grown : chain.blocks <+: later.blocks)
    (inside : last ≤ chain.blocks.length) : later.between first last = chain.between first last := by
  obtain ⟨rest, same⟩ := grown
  unfold between
  rw [← same, List.take_append_of_le_length inside]

/-- The blocks with a greater number. -/
theorem filter_number (chain : Chain) (number : Nat) :
    chain.blocks.filter (fun block => number < block.number) = chain.between (number + 1) chain.blocks.length := by
  unfold between
  rw [List.take_length]
  conv_lhs => rw [← List.take_append_drop (number + 1) chain.blocks, List.filter_append]
  have none : (chain.blocks.take (number + 1)).filter (fun block => number < block.number) = [] := by
    apply List.filter_eq_nil_iff.mpr
    intro block member
    have listed : block ∈ chain.between 0 (number + 1) := member
    obtain ⟨position, -, below, found⟩ := mem_between.mp listed
    have own := chain.numbered position block found
    simp only [decide_eq_true_eq]
    omega
  have all : (chain.blocks.drop (number + 1)).filter (fun block => number < block.number) =
      chain.blocks.drop (number + 1) := by
    apply List.filter_eq_self.mpr
    intro block member
    obtain ⟨position, found⟩ := List.mem_iff_getElem?.mp member
    rw [List.getElem?_drop] at found
    have own := chain.numbered _ block found
    simp only [decide_eq_true_eq]
    omega
  rw [none, all, List.nil_append]

/-- The last block carries the number before the length. -/
theorem getLast_number {block : MirrorNodeBlock} (found : chain.blocks.getLast? = some block) :
    chain.blocks[block.number]? = some block ∧ chain.blocks.length = block.number + 1 := by
  rw [List.getLast?_eq_getElem?] at found
  have own := chain.numbered _ block found
  obtain ⟨inside, -⟩ := List.getElem?_eq_some_iff.mp found
  rw [own]
  exact ⟨found, by omega⟩

theorem between_getLast_number (inside : last ≤ chain.blocks.length) {block : MirrorNodeBlock}
    (isLast : (chain.between first last).getLast? = some block) : block.number + 1 = last := by
  have nonempty : first < last := by
    by_contra order
    rw [between_eq_nil (Nat.le_of_not_lt order)] at isLast
    cases isLast
  have length : (chain.between first last).length = last - first := by
    rw [between, List.length_drop, List.length_take, Nat.min_eq_left inside]
  rw [List.getLast?_eq_getElem?, length, between, List.getElem?_drop, List.getElem?_take,
    if_pos (by omega)] at isLast
  have own := chain.numbered _ block isLast
  omega

/-- The logs with a timestamp in the span of some blocks are the logs of these blocks. -/
theorem mem_between_logs (atFirst : chain.blocks[first]? = some firstBlock)
    (atLast : chain.blocks[last]? = some lastBlock) {log : MirrorNodeLog} :
    log ∈ (chain.between first (last + 1)).flatMap MirrorNodeBlock.logs ↔
      log ∈ chain.logs ∧ firstBlock.timestampFrom ≤ log.timestamp ∧ log.timestamp ≤ lastBlock.timestampTo := by
  rw [logs, List.mem_flatMap, List.mem_flatMap]
  constructor
  · intro ⟨block, member, inBlock⟩
    obtain ⟨number, above, below, found⟩ := mem_between.mp member
    obtain ⟨-, start, stop⟩ := block.inside log inBlock
    refine ⟨⟨block, List.mem_of_getElem? found, inBlock⟩, ?_, ?_⟩
    · rcases Nat.eq_or_lt_of_le above with same | before
      · subst same
        rw [Option.some.inj (atFirst.symm.trans found)]
        exact start
      · have apart := chain.timestampTo_lt atFirst found before
        have spans := firstBlock.spans
        omega
    · rcases Nat.eq_or_lt_of_le (Nat.le_of_lt_succ below) with same | before
      · subst same
        rw [Option.some.inj (atLast.symm.trans found)]
        exact stop
      · have apart := chain.timestampTo_lt found atLast before
        have spans := lastBlock.spans
        omega
  · intro ⟨⟨block, member, inBlock⟩, start, stop⟩
    obtain ⟨number, found⟩ := List.mem_iff_getElem?.mp member
    obtain ⟨-, blockStart, blockStop⟩ := block.inside log inBlock
    refine ⟨block, mem_between.mpr ⟨number, ?_, ?_, found⟩, inBlock⟩
    · by_contra before
      have apart := chain.timestampTo_lt found atFirst (Nat.lt_of_not_le before)
      omega
    · by_contra after
      have apart := chain.timestampTo_lt atLast found (by omega)
      omega

/-- A range that ends with a block covers the blocks up to it. -/
theorem covered_eq (atLast : chain.blocks[last]? = some lastBlock) {params : LogsParams}
    (upTo : params.timestampLte = lastBlock.timestampTo) : params.covered chain = last + 1 := by
  obtain ⟨inside, found⟩ := List.getElem?_eq_some_iff.mp atLast
  have counted : (chain.blocks.take (last + 1)).filter (fun block => block.timestampTo ≤ params.timestampLte) =
      chain.blocks.take (last + 1) := by
    apply List.filter_eq_self.mpr
    intro block member
    have listed : block ∈ chain.between 0 (last + 1) := member
    obtain ⟨number, -, below, present⟩ := mem_between.mp listed
    rcases Nat.eq_or_lt_of_le (Nat.le_of_lt_succ below) with same | before
    · subst same
      rw [upTo, Option.some.inj (atLast.symm.trans present)]
      simp
    · have apart := chain.timestampTo_lt present atLast before
      have spans := lastBlock.spans
      simp only [decide_eq_true_eq]
      omega
  have dropped : (chain.blocks.drop (last + 1)).filter (fun block => block.timestampTo ≤ params.timestampLte) =
      [] := by
    apply List.filter_eq_nil_iff.mpr
    intro block member
    obtain ⟨position, present⟩ := List.mem_iff_getElem?.mp member
    rw [List.getElem?_drop] at present
    have apart := chain.timestampTo_lt atLast present (by omega)
    have spans := block.spans
    simp only [decide_eq_true_eq]
    omega
  unfold LogsParams.covered
  rw [← List.take_append_drop (last + 1) chain.blocks, List.filter_append, counted, dropped, List.append_nil,
    List.length_take]
  omega

end Chain

end HieroRelay.Filters
