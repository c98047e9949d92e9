import HieroRelay.Filters.Polling

/-! What a call learns from each query while blocks are produced: the rules for programs
that only read, and one rule for each function of the services. -/

namespace HieroRelay.Filters

open HieroRelay.Lib

namespace FilterState

/-- What a call finds unchanged at any later point: the chain only grew, and the filter is
the same. -/
structure Observes (before after : FilterState) : Prop where
  chain : before.chain.blocks <+: after.chain.blocks
  filter : after.filter = before.filter
  start : after.start = before.start

theorem Observes.refl (state : FilterState) : state.Observes state :=
  { chain := List.prefix_rfl, filter := rfl, start := rfl }

theorem Observes.trans {first second third : FilterState} (one : first.Observes second)
    (two : second.Observes third) : first.Observes third where
  chain := one.chain.trans two.chain
  filter := two.filter.trans one.filter
  start := two.start.trans one.start

theorem Observes.length_le {before after : FilterState} (observes : before.Observes after) :
    before.chain.blocks.length ≤ after.chain.blocks.length := observes.chain.length_le

theorem Observes.present {before after : FilterState} (observes : before.Observes after) {number : Nat}
    {block : MirrorNodeBlock} (found : before.chain.blocks[number]? = some block) :
    after.chain.blocks[number]? = some block := by
  obtain ⟨inside, rfl⟩ := List.getElem?_eq_some_iff.mp found
  exact List.prefix_iff_getElem?.mp observes.chain number inside

/-- The environment produces blocks and takes the mirror node away. -/
structure Interferes (before after : FilterState) : Prop extends Observes before after where
  queried : after.queried = before.queried

end FilterState

open FilterState

/-- A poll among blocks that are produced, as the only party with operations. -/
def polling (mirrorNode : MirrorNode) : Protocol Unit FilterOp FilterOp.Answer FilterState where
  perform _ := FilterState.perform mirrorNode
  permit _ op state := Unskipping mirrorNode state op
  invariant _ := True
  rely _ := Interferes
  guarantee _ before after := ∀ filter, before.filter = some filter →
    ∃ next, after.filter = some next ∧ next.params = filter.params ∧ after.start = before.start
  rely_refl _ state := { Observes.refl state with queried := rfl }
  rely_trans _ _ _ _ one two :=
    { one.toObserves.trans two.toObserves with queried := two.queried.trans one.queried }
  compatible _ _ _ _ different := absurd rfl different

variable {mirrorNode : MirrorNode} {Result Next : Type}

/-- The call only reads, and its result has the property. -/
def Reads (mirrorNode : MirrorNode) (goal : Result → FilterState → Prop) (program : Throwing Result)
    (state : FilterState) : Prop :=
  (polling mirrorNode).Keeps ()
    (fun outcome later => state.Observes later ∧ ∀ result, outcome = .ok result → goal result later)
    program.run state

theorem reads_pure {goal : Result → FilterState → Prop} {result : Result} {state : FilterState}
    (holds : ∀ later, state.Interferes later → goal result later) : Reads mirrorNode goal (pure result) state := by
  intro later interfered
  refine ⟨interfered.toObserves, ?_⟩
  intro other same
  cases same
  exact holds later interfered

theorem reads_throw {goal : Result → FilterState → Prop} {error : FilterError} {state : FilterState} :
    Reads mirrorNode goal (throw error) state := by
  intro later interfered
  refine ⟨interfered.toObserves, ?_⟩
  intro other same
  cases same

/-- After a part that only reads comes the rest of the call. -/
theorem Reads.finish {middle : Result → FilterState → Prop} {post : Except FilterError Next → FilterState → Prop}
    {program : Throwing Result} {next : Result → Throwing Next} {state : FilterState}
    (first : Reads mirrorNode middle program state)
    (failed : ∀ error later, state.Observes later → post (.error error) later)
    (second : ∀ result later, state.Observes later → middle result later →
      (polling mirrorNode).Keeps () post (next result).run later) :
    (polling mirrorNode).Keeps () post (program >>= next).run state := by
  apply Protocol.Keeps.bindExcept fun result later => state.Observes later ∧ middle result later
  · apply Protocol.Keeps.weaken first
    intro outcome later ⟨observed, holds⟩
    cases outcome with
    | ok result => exact ⟨observed, holds result rfl⟩
    | error error => exact fun after interfered => failed error after (observed.trans interfered.toObserves)
  · intro result later ⟨observed, holds⟩
    exact second result later observed holds

theorem Reads.bind {middle : Result → FilterState → Prop} {goal : Next → FilterState → Prop}
    {program : Throwing Result} {next : Result → Throwing Next} {state : FilterState}
    (first : Reads mirrorNode middle program state)
    (second : ∀ result later, state.Observes later → middle result later → Reads mirrorNode goal (next result) later) :
    Reads mirrorNode goal (program >>= next) state := by
  apply first.finish
  · intro error later observed
    exact ⟨observed, nofun⟩
  · intro result later observed holds
    apply Protocol.Keeps.weaken (second result later observed holds)
    intro outcome after ⟨again, reached⟩
    exact ⟨observed.trans again, reached⟩

theorem Reads.weaken {strong weak : Result → FilterState → Prop} {program : Throwing Result} {state : FilterState}
    (reads : Reads mirrorNode strong program state)
    (weaker : ∀ result later, state.Observes later → strong result later → weak result later) :
    Reads mirrorNode weak program state := by
  apply Protocol.Keeps.weaken reads
  intro outcome later ⟨observed, holds⟩
  exact ⟨observed, fun result same => weaker result later observed (holds result same)⟩

/-- One query: its answer, unless it fails, has the property. -/
theorem reads_query {Answer : Type} {goal : Answer → FilterState → Prop} {op : FilterOp}
    {read : op.Answer → Throwing Answer} {state : FilterState}
    (readOnly : ∀ later : FilterState, later.Observes (later.record op))
    (follows : ∀ later, state.Interferes later → Unskipping mirrorNode later op →
      Reads mirrorNode goal (read (later.answer mirrorNode op)) (later.record op)) :
    Reads mirrorNode goal (await op >>= read) state := by
  intro later interfered _ permitted
  have observed := interfered.toObserves.trans (readOnly later)
  refine ⟨?_, trivial, ?_⟩
  · intro filter present
    exact ⟨filter, (readOnly later).filter.trans present, rfl, (readOnly later).start⟩
  · apply Protocol.Keeps.weaken (follows later interfered permitted)
    intro outcome after ⟨again, holds⟩
    exact ⟨observed.trans again, holds⟩

theorem reads_answered {Answer : Type} {goal : Answer → FilterState → Prop} {answer : Option Answer}
    {state : FilterState}
    (holds : ∀ value, answer = some value → ∀ later, state.Interferes later → goal value later) :
    Reads mirrorNode goal (answered answer) state := by
  cases answer with
  | none => exact reads_throw
  | some value => exact reads_pure (holds value rfl)

theorem ifAvailable_eq_some {Answer : Type} {state : FilterState} {answer value : Answer}
    (given : state.ifAvailable answer = some value) : state.available = true ∧ answer = value := by
  unfold ifAvailable at given
  split_ifs at given with available
  exact ⟨available, Option.some.inj given⟩

/-- The block was the head at some point after a state, and nothing was skipped up to it. -/
structure SeenHead (mirrorNode : MirrorNode) (before later : FilterState) (block : MirrorNodeBlock) : Prop where
  present : later.chain.blocks[block.number]? = some block
  atLeast : before.chain.blocks.length ≤ block.number + 1
  queried : later.queried = before.queried
  quiet : ∀ covered, before.queried = some covered → ∀ filter, before.filter = some filter →
    filter.params.changes mirrorNode later.chain covered (block.number + 1) = []
  quietStart : ∀ filter, before.filter = some filter → filter.FollowsHead → before.queried = none →
    filter.params.changes mirrorNode later.chain before.start block.number = []

theorem SeenHead.later {before after last : FilterState} {block : MirrorNodeBlock}
    (seen : SeenHead mirrorNode before after block) (interfered : after.Interferes last) :
    SeenHead mirrorNode before last block := by
  obtain ⟨inside, -⟩ := List.getElem?_eq_some_iff.mp seen.present
  constructor
  · exact interfered.present seen.present
  · exact seen.atLeast
  · exact interfered.queried.trans seen.queried
  · intro covered asked filter there
    rw [FilterParams.changes_grown interfered.chain inside]
    exact seen.quiet covered asked filter there
  · intro filter there follows asked
    rw [FilterParams.changes_grown interfered.chain (Nat.le_of_lt inside)]
    exact seen.quietStart filter there follows asked

theorem reads_getLatestBlock (state : FilterState) :
    Reads mirrorNode (fun blocks later => ∃ block, blocks = [block] ∧ SeenHead mirrorNode state later block)
      MirrorNodeClient.getLatestBlock state := by
  have readOnly : ∀ later : FilterState, later.Observes (later.record .getLatestBlock) := Observes.refl
  apply reads_query readOnly
  intro later interfered permitted
  apply reads_answered
  intro blocks given last interferedAgain
  obtain ⟨available, same⟩ := ifAvailable_eq_some given
  subst same
  obtain ⟨quiet, quietStart⟩ := permitted available
  cases found : later.chain.blocks.getLast? with
  | none => exact absurd (List.getLast?_eq_none_iff.mp found) later.chain.started
  | some block =>
    obtain ⟨present, length⟩ := Chain.getLast_number found
    have grown : later.chain.blocks <+: last.chain.blocks := interferedAgain.chain
    refine ⟨block, rfl, ?_⟩
    constructor
    · exact interferedAgain.present present
    · rw [← length]
      exact interfered.length_le
    · exact interferedAgain.queried.trans interfered.queried
    · intro covered asked filter there
      have nothing := quiet covered (interfered.queried.trans asked) filter (interfered.filter.trans there)
      rw [FilterParams.changes_grown grown (Nat.le_of_eq length.symm), ← length]
      exact nothing
    · intro filter there follows asked
      have nothing := quietStart filter (interfered.filter.trans there) follows (interfered.queried.trans asked) filter
        (interfered.filter.trans there)
      rw [FilterParams.changes_grown grown (by omega)]
      rw [interfered.start, length, Nat.add_sub_cancel] at nothing
      exact nothing

theorem reads_getLatestBlockNumber (state : FilterState) :
    Reads mirrorNode (fun number later => ∃ block, number.value = block.number ∧ SeenHead mirrorNode state later block)
      CommonService.getLatestBlockNumber state := by
  apply (reads_getLatestBlock state).bind
  intro blocks later _ ⟨block, same, seen⟩
  subst same
  apply reads_pure
  intro last interfered
  exact ⟨block, rfl, seen.later interfered⟩

/-- A block that is missing at its number is beyond the blocks that are there. -/
def LookedUp (before : FilterState) (number : Nat) (result : Option MirrorNodeBlock) (later : FilterState) : Prop :=
  match result with
  | some block => later.chain.blocks[number]? = some block ∧ later.queried = before.queried
  | none => ∃ covered, later.queried = some covered ∧ covered ≤ number ∧
      before.chain.blocks.length ≤ covered ∧ covered ≤ later.chain.blocks.length

theorem reads_getBlock (number : Nat) (state : FilterState) :
    Reads mirrorNode (LookedUp state number) (MirrorNodeClient.getBlock number) state := by
  have readOnly : ∀ later : FilterState, later.Observes (later.record (.getBlock number)) :=
    fun _ => { chain := List.prefix_rfl, filter := rfl, start := rfl }
  apply reads_query readOnly
  intro later interfered _
  apply reads_answered
  intro result given last interferedAgain
  obtain ⟨available, same⟩ := ifAvailable_eq_some given
  subst same
  have queried : last.queried = if later.chain.blocks[number]?.isNone then some later.chain.blocks.length
      else later.queried := by
    rw [interferedAgain.queried]
    simp [FilterState.record, available]
  cases found : later.chain.blocks[number]? with
  | some block =>
    rw [found] at queried
    exact ⟨interferedAgain.present found, queried.trans interfered.queried⟩
  | none =>
    rw [found] at queried
    exact ⟨later.chain.blocks.length, queried, List.getElem?_eq_none_iff.mp found, interfered.length_le,
      interferedAgain.length_le⟩

/-- The number that a parameter stands for; the tags of the head stand for none. -/
def BlockParam.position : BlockParam → Option Nat
  | .hex text => some text.value
  | .number value => some value
  | .earliest => some 0
  | _ => none

private theorem reads_historicalBlock_known (service : CommonService) {block : BlockParam} {number : Nat}
    (known : block.position = some number) (state : FilterState)
    (there : ∀ text, block = .hex text → number < state.chain.blocks.length) :
    Reads mirrorNode (LookedUp state number) (service.getHistoricalBlockResponse block) state := by
  cases block with
  | hex text =>
    obtain rfl := Option.some.inj known
    have inside := there text rfl
    apply (reads_getLatestBlock state).bind
    intro blocks later observed ⟨latestBlock, same, seen⟩
    subst same
    have near : ¬ text.value > latestBlock.number + service.maxBlockRange := by
      have atLeast := seen.atLeast
      omega
    simp only [if_neg near]
    apply (reads_getBlock text.value later).weaken
    intro result last _ found
    cases result with
    | some block => exact ⟨found.1, found.2.trans seen.queried⟩
    | none =>
      obtain ⟨covered, asked, below, above, inside⟩ := found
      exact ⟨covered, asked, below, observed.length_le.trans above, inside⟩
  | number value =>
    obtain rfl := Option.some.inj known
    exact reads_getBlock value state
  | earliest =>
    obtain rfl := Option.some.inj known
    exact reads_getBlock 0 state
  | latest => cases known
  | pending => cases known
  | safe => cases known
  | finalized => cases known

/-- A block that is found has the number that was asked for. -/
theorem reads_historicalBlock_numbered (service : CommonService) {block : BlockParam} {number : Nat}
    (known : block.position = some number) (state : FilterState) :
    Reads mirrorNode (fun result _ => ∀ found, result = some found → found.number = number)
      (service.getHistoricalBlockResponse block) state := by
  have numbered : ∀ position state, Reads mirrorNode
      (fun result _ => ∀ found, result = some found → found.number = position)
      (MirrorNodeClient.getBlock position) state := by
    intro position state
    apply (reads_getBlock position state).weaken
    intro result later _ found block same
    subst same
    exact later.chain.numbered position block found.1
  cases block with
  | hex text =>
    obtain rfl := Option.some.inj known
    apply (reads_getLatestBlock state).bind
    intro blocks later _ ⟨latestBlock, same, _⟩
    subst same
    dsimp only
    split_ifs with far
    · apply reads_pure
      intro _ _ found impossible
      cases impossible
    · exact numbered text.value later
  | number value =>
    obtain rfl := Option.some.inj known
    exact numbered value state
  | earliest =>
    obtain rfl := Option.some.inj known
    exact numbered 0 state
  | latest => cases known
  | pending => cases known
  | safe => cases known
  | finalized => cases known

theorem BlockParam.orLatest_of_position {block : BlockParam} {number : Nat} (known : block.position = some number) :
    block.orLatest = block := by
  cases block <;> first | rfl | cases known

theorem BlockParam.orLatest_of_tag {block : BlockParam} (tag : block.position = none) : block.orLatest = .latest := by
  cases block <;> first | rfl | cases tag

theorem reads_historicalBlock_latest (service : CommonService) (state : FilterState) :
    Reads mirrorNode (fun result later => ∃ block, result = some block ∧ SeenHead mirrorNode state later block)
      (service.getHistoricalBlockResponse .latest) state := by
  apply (reads_getLatestBlock state).bind
  intro blocks later _ ⟨block, same, seen⟩
  subst same
  apply reads_pure
  intro last interfered
  exact ⟨block, rfl, seen.later interfered⟩

/-- What was delivered when a poll begins, and the parameter from which the poll resumes. -/
structure Resumes (mirrorNode : MirrorNode) (state : FilterState) (params : FilterParams) (block : BlockParam)
    (delivered : List Change) : Prop where
  known : ∀ number, block.position = some number →
    delivered = params.changes mirrorNode state.chain state.start number ∧ state.start ≤ number ∧
      number ≤ state.chain.blocks.length
  there : ∀ text, block = .hex text → text.value < state.chain.blocks.length
  head : block.position = none → delivered = [] ∧ state.start ≤ state.chain.blocks.length - 1 ∧
    ∃ filter, state.filter = some filter ∧ filter.FollowsHead ∧ filter.params = params

/-- The number of blocks that the queries covered, all of them delivered. -/
structure UpToDate (mirrorNode : MirrorNode) (params : FilterParams) (before later : FilterState)
    (delivered : List Change) (covered : Nat) : Prop where
  queried : later.queried = some covered
  atLeast : before.chain.blocks.length ≤ covered
  inside : covered ≤ later.chain.blocks.length
  delivered : delivered = params.changes mirrorNode later.chain before.start covered

/-- A range of blocks, the changes before which were delivered. -/
structure RangeOf (mirrorNode : MirrorNode) (params : FilterParams) (before later : FilterState)
    (delivered : List Change) (first last : Nat) (timestamps : Nat × Nat) : Prop where
  firstBlock : ∃ block, later.chain.blocks[first]? = some block ∧ timestamps.1 = block.timestampFrom
  lastBlock : ∃ block, later.chain.blocks[last]? = some block ∧ timestamps.2 = block.timestampTo
  order : first ≤ last
  atLeast : before.chain.blocks.length ≤ last + 1
  queried : later.queried = none
  delivered : delivered = params.changes mirrorNode later.chain before.start first
  start : before.start ≤ first

theorem checkMissingFromBlock_unbounded {fromBlock toBlock : BlockParam}
    (unbounded : toBlock.blockTagIsLatestOrPending = true) :
    CommonService.checkMissingFromBlock fromBlock toBlock = pure () := by
  simp [CommonService.checkMissingFromBlock, unbounded]

theorem BlockParam.position_of_tag {block : BlockParam} (tag : block.blockTagIsLatestOrPending = true) :
    block.position = none := by
  cases block <;> first | rfl | cases tag

/-- What a range of blocks is found to be: one that begins where the deliveries end, or none
where they reach the head. -/
def RangeFound (mirrorNode : MirrorNode) (params : FilterParams) (state : FilterState) (delivered : List Change)
    (range : Option (Nat × Nat)) (later : FilterState) : Prop :=
  match range with
  | some timestamps => ∃ first last, RangeOf mirrorNode params state later delivered first last timestamps
  | none => ∃ covered, UpToDate mirrorNode params state later delivered covered

section BlockRange
variable (service : CommonService) {params : FilterParams} {fromBlock toBlock : BlockParam} {delivered : List Change}
  {state : FilterState} (address : AddressParam) (unbounded : toBlock.blockTagIsLatestOrPending = true)
  (asked : state.queried = none) (resumes : Resumes mirrorNode state params fromBlock delivered)

include unbounded asked resumes

/-- A range that begins at the head is the head. -/
theorem reads_headRange (known : fromBlock.position = none) :
    Reads mirrorNode (RangeFound mirrorNode params state delivered)
      (service.validateBlockRangeAndAddTimestampToParams fromBlock toBlock address) state := by
  rw [CommonService.validateBlockRangeAndAddTimestampToParams, checkMissingFromBlock_unbounded unbounded, pure_bind,
    toBlock.orLatest_of_tag (BlockParam.position_of_tag unbounded)]
  obtain ⟨empty, below, filter, there, follows, own⟩ := resumes.head known
  rw [fromBlock.orLatest_of_tag known]
  apply (reads_historicalBlock_latest service state).bind
  intro result later observed ⟨block, same, seen⟩
  subst same
  simp only [if_true]
  apply reads_pure
  intro last interfered
  have head := seen.later interfered
  have atLeast := head.atLeast
  have order : state.start ≤ block.number := by
    have nonempty := List.length_pos_iff.mpr state.chain.started
    omega
  refine ⟨block.number, block.number, ?_⟩
  constructor
  · exact ⟨block, head.present, rfl⟩
  · exact ⟨block, head.present, rfl⟩
  · exact Nat.le_refl _
  · exact atLeast
  · exact head.queried.trans asked
  · rw [empty, ← own]
    exact (head.quietStart filter there follows asked).symm
  · exact order

/-- A range that begins at a block ends at the head that is seen then. -/
theorem reads_knownRange {number : Nat} (known : fromBlock.position = some number) :
    Reads mirrorNode (RangeFound mirrorNode params state delivered)
      (service.validateBlockRangeAndAddTimestampToParams fromBlock toBlock address) state := by
  rw [CommonService.validateBlockRangeAndAddTimestampToParams, checkMissingFromBlock_unbounded unbounded, pure_bind,
    toBlock.orLatest_of_tag (BlockParam.position_of_tag unbounded)]
  obtain ⟨before, start, inside⟩ := resumes.known number known
  have there : ∀ text, fromBlock = .hex text → number < state.chain.blocks.length := by
    intro text same
    subst same
    obtain rfl := Option.some.inj known
    exact resumes.there text rfl
  rw [fromBlock.orLatest_of_position known]
  apply (reads_historicalBlock_known service known state there).bind
  intro result later observed found
  cases result with
  | none =>
    obtain ⟨covered, queried, below, above, covers⟩ := found
    apply reads_pure
    intro last interfered
    refine ⟨covered, ?_⟩
    constructor
    · exact interfered.queried.trans queried
    · exact above
    · exact covers.trans interfered.length_le
    · have same : covered = number := by omega
      rw [same, FilterParams.changes_grown (observed.trans interfered.toObserves).chain inside]
      exact before
  | some fromBlockResponse =>
    obtain ⟨present, queried⟩ := found
    have different : fromBlock ≠ .latest := by
      intro same
      subst same
      cases known
    simp only [if_neg different]
    apply (reads_historicalBlock_latest service later).bind
    intro toResult last observedAgain ⟨toBlockResponse, same, head⟩
    subst same
    dsimp only
    split_ifs with tooLong backwards tooMany
    · exact reads_throw
    · exact reads_throw
    · exact reads_throw
    · apply reads_pure
      intro final interfered
      have head := head.later interfered
      have stays := observedAgain.trans interfered.toObserves
      obtain ⟨known, -⟩ := List.getElem?_eq_some_iff.mp present
      have ahead := head.atLeast
      have grown := observed.length_le
      refine ⟨number, toBlockResponse.number, ?_⟩
      constructor
      · exact ⟨fromBlockResponse, stays.present present, rfl⟩
      · exact ⟨toBlockResponse, head.present, rfl⟩
      · omega
      · omega
      · exact head.queried.trans (queried.trans asked)
      · rw [FilterParams.changes_grown (observed.trans stays).chain inside]
        exact before
      · exact start

theorem reads_blockRange :
    Reads mirrorNode (RangeFound mirrorNode params state delivered)
      (service.validateBlockRangeAndAddTimestampToParams fromBlock toBlock address) state := by
  cases known : fromBlock.position with
  | none => exact reads_headRange service address unbounded asked resumes known
  | some number => exact reads_knownRange service address unbounded asked resumes known

end BlockRange

theorem BlockParam.tag_of_position {block : BlockParam} (tag : block.position = none) :
    block.blockTagIsLatestOrPending = true := by
  cases block <;> first | rfl | cases tag

theorem FilterParams.startOf_of_position {chain : Chain} {params : LogFilterParams} {number : Nat}
    (known : params.fromBlock.position = some number) : (FilterParams.log params).startOf chain = number := by
  cases params with
  | mk fromBlock toBlock address topics => cases fromBlock <;> first | exact Option.some.inj known | cases known

theorem FilterParams.startOf_of_tag {chain : Chain} {params : LogFilterParams}
    (tag : params.fromBlock.position = none) : (FilterParams.log params).startOf chain = chain.blocks.length - 1 := by
  cases params with
  | mk fromBlock toBlock address topics => cases fromBlock <;> first | rfl | cases tag

theorem BlockParam.toNumber_of_position {block : BlockParam} {number : Nat} (known : block.position = some number) :
    block.toNumber = some number ∨ block.toNumber = none ∧ number = 0 := by
  cases block with
  | hex text => exact Or.inl known
  | number value => exact Or.inl known
  | earliest => exact Or.inr ⟨rfl, (Option.some.inj known).symm⟩
  | latest => cases known
  | pending => cases known
  | safe => cases known
  | finalized => cases known

/-- The numbers of a range without an upper bound: the second is one of a head. -/
theorem reads_blockRangeNumbers (service : CommonService) {fromBlock toBlock : BlockParam}
    (unbounded : toBlock.blockTagIsLatestOrPending = true) (state : FilterState) :
    Reads mirrorNode
      (fun (fromBlockNumber, toBlockNumber) later => ∃ head, toBlockNumber = some head ∧
        head < later.chain.blocks.length ∧ ∀ number, fromBlock.position = some number →
          fromBlockNumber = some number ∨ fromBlockNumber = none ∧ number = 0)
      (service.blockRangeNumbers fromBlock toBlock) state := by
  unfold CommonService.blockRangeNumbers
  simp only [unbounded, if_true, CommonService.unknown, Option.getD_some, beq_self_eq_true, Bool.or_true]
  rw [toBlock.orLatest_of_tag (BlockParam.position_of_tag unbounded)]
  have first : Reads mirrorNode
      (fun result _ => ∀ number, fromBlock.position = some number → ∀ found, result = some found →
        found.number = number) (service.getHistoricalBlockResponse fromBlock.orLatest) state := by
    cases known : fromBlock.position with
    | none =>
      rw [fromBlock.orLatest_of_tag known]
      apply (reads_historicalBlock_latest service state).weaken
      intro _ _ _ _ number impossible
      cases impossible
    | some number =>
      rw [fromBlock.orLatest_of_position known]
      apply (reads_historicalBlock_numbered service known state).weaken
      intro result _ _ numbered other same
      obtain rfl := Option.some.inj same
      exact numbered
  apply first.bind
  intro fromBlockResponse later _ numbered
  apply (reads_historicalBlock_latest service later).bind
  intro toBlockResponse last _ ⟨head, same, seen⟩
  subst same
  apply reads_pure
  intro after interfered
  obtain ⟨inside, -⟩ := List.getElem?_eq_some_iff.mp (seen.later interfered).present
  refine ⟨head.number, rfl, inside, ?_⟩
  intro number known
  have notTag : fromBlock.blockTagIsLatestOrPending = false := by
    by_contra tag
    rw [BlockParam.position_of_tag (by simpa using tag)] at known
    cases known
  cases fromBlockResponse with
  | some found => exact Or.inl (congrArg some (numbered number known found rfl))
  | none =>
    simp only [notTag, Bool.false_eq_true, if_false, Option.map_none, Option.none_or]
    exact BlockParam.toNumber_of_position known

/-- A range that is valid begins with a block that is there. -/
theorem reads_validateBlockRange (service : CommonService) {fromBlock toBlock : BlockParam}
    (unbounded : toBlock.blockTagIsLatestOrPending = true) (state : FilterState) :
    Reads mirrorNode
      (fun _ later => ∀ number, fromBlock.position = some number → number < later.chain.blocks.length)
      (service.validateBlockRange fromBlock toBlock) state := by
  rw [CommonService.validateBlockRange, checkMissingFromBlock_unbounded unbounded, pure_bind]
  apply (reads_blockRangeNumbers service unbounded state).bind
  intro (fromBlockNumber, toBlockNumber) later _ ⟨head, same, inside, numbers⟩
  subst same
  dsimp only
  split_ifs with backwards
  · exact reads_throw
  · apply reads_pure
    intro after interfered number known
    have grown := interfered.length_le
    rcases numbers number known with given | ⟨-, zero⟩
    · subst given
      have order : ¬ number > head := by simpa [CommonService.exceeds] using backwards
      omega
    · omega

section Logs

variable {origin state : FilterState} {query : LogsParams} {first last : Nat} {firstBlock lastBlock : MirrorNodeBlock}

/-- A query of logs, whose range ends with a block that is there. -/
theorem reads_logs (address : Option String) (atLast : origin.chain.blocks[last]? = some lastBlock)
    (upTo : query.timestampLte = lastBlock.timestampTo) {learnt : Prop}
    (learn : ∀ later, origin.Observes later → Unskipping mirrorNode later (.getContractResultsLogs address query) →
      learnt)
    (observed : origin.Observes state) :
    Reads mirrorNode
      (fun logs later => logs = mirrorNode.logsOf address query origin.chain ∧ later.queried = some (last + 1) ∧ learnt)
      (await (.getContractResultsLogs address query) >>= answered) state := by
  have readOnly : ∀ later : FilterState, later.Observes (later.record (.getContractResultsLogs address query)) :=
    fun _ => { chain := List.prefix_rfl, filter := rfl, start := rfl }
  apply reads_query readOnly
  intro later interfered permitted
  have reached := observed.trans interfered.toObserves
  apply reads_answered
  intro logs given after interferedAgain
  obtain ⟨-, same⟩ := ifAvailable_eq_some given
  subst same
  refine ⟨logsOf_grown atLast upTo reached.chain address, ?_, learn later reached permitted⟩
  rw [interferedAgain.queried, ← Chain.covered_eq (reached.present atLast) upTo]
  rfl

/-- The logs of all addresses; if none is asked for, every address is the zero address. -/
theorem reads_logsOfAddresses (atLast : origin.chain.blocks[last]? = some lastBlock)
    (upTo : query.timestampLte = lastBlock.timestampTo) {learnt : Prop}
    (learn : ∀ address later, origin.Observes later →
      Unskipping mirrorNode later (.getContractResultsLogs (some address) query) → learnt)
    (addresses : List String) (observed : origin.Observes state) :
    Reads mirrorNode
      (fun logs later =>
        logs = addresses.flatMap (fun address => mirrorNode.logsOf (some address) query origin.chain) ∧
          (later.queried = some (last + 1) ∧ learnt ∨
            later.queried = state.queried ∧ ∀ address ∈ addresses, address = zeroAddress))
      (CommonService.logsOfAddresses query addresses) state := by
  induction addresses generalizing state with
  | nil =>
    apply reads_pure
    intro later interfered
    exact ⟨rfl, Or.inr ⟨interfered.queried, by simp⟩⟩
  | cons address rest ih =>
    have one : Reads mirrorNode
        (fun logs later => logs = mirrorNode.logsOf (some address) query origin.chain ∧
          (later.queried = some (last + 1) ∧ learnt ∨ later.queried = state.queried ∧ address = zeroAddress))
        (MirrorNodeClient.getContractResultsLogsByAddress address query) state := by
      unfold MirrorNodeClient.getContractResultsLogsByAddress
      by_cases zero : address = zeroAddress
      · rw [if_pos (beq_iff_eq.mpr zero)]
        apply reads_pure
        intro later interfered
        refine ⟨?_, Or.inr ⟨interfered.queried, zero⟩⟩
        simp [MirrorNode.logsOf, zero, mirrorNode.zeroAddress_silent]
      · rw [if_neg (fun same => zero (beq_iff_eq.mp same))]
        apply (reads_logs (some address) atLast upTo (learn address) observed).weaken
        rintro logs later _ ⟨same, queried, known⟩
        exact ⟨same, Or.inl ⟨queried, known⟩⟩
    apply one.bind
    rintro logs later reached ⟨same, outcome⟩
    apply (ih (observed.trans reached)).bind
    rintro more after _ ⟨sameMore, outcomeMore⟩
    apply reads_pure
    intro final interfered
    refine ⟨by rw [same, sameMore, List.flatMap_cons], ?_⟩
    rw [interfered.queried]
    rcases outcomeMore with ⟨queriedMore, known⟩ | ⟨queriedMore, zeros⟩
    · exact Or.inl ⟨queriedMore, known⟩
    · rcases outcome with ⟨queried, known⟩ | ⟨queried, zero⟩
      · exact Or.inl ⟨queriedMore.trans queried, known⟩
      · refine Or.inr ⟨queriedMore.trans queried, ?_⟩
        intro other member
        rcases List.mem_cons.mp member with same | later
        · exact same.trans zero
        · exact zeros other later

/-- The answer of a poll's query of logs, or no query at all as nothing can match. -/
def LogsRead (mirrorNode : MirrorNode) (params : LogFilterParams) (origin state : FilterState) (first last : Nat)
    (result : List Log) (later : FilterState) : Prop :=
  later.queried = some (last + 1) ∧
      result.map Change.log = (FilterParams.log params).changes mirrorNode origin.chain first (last + 1) ∨
    later.queried = state.queried ∧ result = [] ∧
      ∀ chain start stop, (FilterParams.log params).changes mirrorNode chain start stop = []

private theorem reads_logsByAddress (atFirst : origin.chain.blocks[first]? = some firstBlock)
    (atLast : origin.chain.blocks[last]? = some lastBlock) (above : query.timestampGte = firstBlock.timestampFrom)
    (upTo : query.timestampLte = lastBlock.timestampTo) {addresses : List String}
    (learn : ∀ address later, origin.Observes later →
      Unskipping mirrorNode later (.getContractResultsLogs (some address) query) →
        InLogOrder mirrorNode query origin.chain addresses)
    (observed : origin.Observes state) :
    Reads mirrorNode
      (fun logs later => later.queried = some (last + 1) ∧
          logs = ((origin.chain.between first (last + 1)).flatMap MirrorNodeBlock.logs).filter
            (fun log => topicsMatch query.topics log && addresses.any (mirrorNode.isLogOf · log)) ∨
        later.queried = state.queried ∧ logs = [] ∧ ∀ address ∈ addresses, address = zeroAddress)
      (CommonService.getLogsByAddress addresses query) state := by
  apply (reads_logsOfAddresses atLast upTo learn addresses observed).bind
  intro logs later _ ⟨same, outcome⟩
  apply reads_pure
  intro after interfered
  rw [interfered.queried]
  rcases outcome with ⟨queried, inOrder⟩ | ⟨queried, zeros⟩
  · refine Or.inl ⟨queried, ?_⟩
    apply logs_eq_of_ordered atFirst atLast above upTo
    · rw [same]
      exact sortedByTimestamp_ordered inOrder
    · intro log
      rw [same, CommonService.sortedByTimestamp, List.mem_mergeSort, List.mem_flatMap]
      simp only [mem_logsOf, List.any_eq_true]
      tauto
  · refine Or.inr ⟨queried, ?_, zeros⟩
    have silent : addresses.flatMap (fun address => mirrorNode.logsOf (some address) query origin.chain) = [] := by
      apply List.flatMap_eq_nil_iff.mpr
      intro address member
      simp [MirrorNode.logsOf, zeros address member, mirrorNode.zeroAddress_silent]
    rw [same, silent]
    exact List.mergeSort_nil

/-- The answer is made of the logs that match. -/
theorem map_logs_eq_changes {params : LogFilterParams} {ofAddress : MirrorNodeLog → Bool} {logs : List MirrorNodeLog}
    (same : logs = ((origin.chain.between first (last + 1)).flatMap MirrorNodeBlock.logs).filter
      fun log => topicsMatch (CommonService.addTopicsToParams params.topics) log && ofAddress log)
    (own : ∀ log, params.matchesLog mirrorNode log =
      (topicsMatch (CommonService.addTopicsToParams params.topics) log && ofAddress log)) :
    (logs.map Log.ofMirrorNode).map Change.log =
      (FilterParams.log params).changes mirrorNode origin.chain first (last + 1) := by
  rw [FilterParams.changes_log, funext own, same, List.map_map]
  rfl

private theorem changes_eq_nil_of_zero {params : LogFilterParams} {addresses : List String}
    (zeros : ∀ address ∈ addresses, address = zeroAddress)
    (own : ∀ log, params.matchesLog mirrorNode log =
      (topicsMatch (CommonService.addTopicsToParams params.topics) log &&
        addresses.any (mirrorNode.isLogOf · log)))
    (chain : Chain) (start stop : Nat) :
    (FilterParams.log params).changes mirrorNode chain start stop = [] := by
  have silent : ∀ log, addresses.any (mirrorNode.isLogOf · log) = false := by
    intro log
    apply List.any_eq_false.mpr
    intro address member
    simp [zeros address member, mirrorNode.zeroAddress_silent]
  rw [FilterParams.changes_log, funext own]
  simp [silent]

theorem reads_logsOfFilterAddresses {params : LogFilterParams} {addresses : List String}
    (own : ∀ log, params.matchesLog mirrorNode log =
      (topicsMatch (CommonService.addTopicsToParams params.topics) log &&
        addresses.any (mirrorNode.isLogOf · log)))
    (atFirst : origin.chain.blocks[first]? = some firstBlock) (atLast : origin.chain.blocks[last]? = some lastBlock)
    (above : query.timestampGte = firstBlock.timestampFrom) (upTo : query.timestampLte = lastBlock.timestampTo)
    (topics : query.topics = CommonService.addTopicsToParams params.topics)
    (learn : ∀ address later, origin.Observes later →
      Unskipping mirrorNode later (.getContractResultsLogs (some address) query) →
        InLogOrder mirrorNode query origin.chain addresses)
    (observed : origin.Observes state) :
    Reads mirrorNode (LogsRead mirrorNode params origin state first last)
      (CommonService.getLogsByAddress addresses query >>= fun logs => pure (logs.map Log.ofMirrorNode)) state := by
  apply (reads_logsByAddress atFirst atLast above upTo learn observed).bind
  intro logs later _ outcome
  apply reads_pure
  intro after interfered
  unfold LogsRead
  rw [interfered.queried]
  rcases outcome with ⟨queried, same⟩ | ⟨queried, none, zeros⟩
  · rw [topics] at same
    exact Or.inl ⟨queried, map_logs_eq_changes same own⟩
  · subst none
    exact Or.inr ⟨queried, rfl, changes_eq_nil_of_zero zeros own⟩

theorem reads_logsWithParams {params : LogFilterParams} {filter : Filter} (there : origin.filter = some filter)
    (isLog : filter.params = .log params) (atFirst : origin.chain.blocks[first]? = some firstBlock)
    (atLast : origin.chain.blocks[last]? = some lastBlock) (above : query.timestampGte = firstBlock.timestampFrom)
    (upTo : query.timestampLte = lastBlock.timestampTo)
    (topics : query.topics = CommonService.addTopicsToParams params.topics) (observed : origin.Observes state) :
    Reads mirrorNode (LogsRead mirrorNode params origin state first last)
      (CommonService.getLogsWithParams params.address query) state := by
  unfold CommonService.getLogsWithParams
  cases addressed : params.address.orAbsent with
  | absent =>
    have learn : ∀ later, origin.Observes later → Unskipping mirrorNode later (.getContractResultsLogs none query) →
      True := fun _ _ _ => trivial
    apply (reads_logs none atLast upTo learn observed).bind
    intro logs later _ ⟨same, queried, _⟩
    apply reads_pure
    intro after interfered
    have inOrder : logs = ((origin.chain.between first (last + 1)).flatMap MirrorNodeBlock.logs).filter
        fun log => topicsMatch query.topics log && true := by
      apply logs_eq_of_ordered atFirst atLast above upTo
      · rw [same]
        exact origin.chain.logs_ordered.filter _
      · intro log
        rw [same]
        simp [MirrorNode.logsOf]
    rw [topics] at inOrder
    refine Or.inl ⟨interfered.queried.trans queried, map_logs_eq_changes inOrder ?_⟩
    intro log
    simp [LogFilterParams.matchesLog, addressed]
  | one address =>
    apply reads_logsOfFilterAddresses _ atFirst atLast above upTo topics _ observed
    · intro log
      simp [LogFilterParams.matchesLog, addressed]
    · intro _ _ _ _
      exact List.pairwise_singleton _ _
  | many addresses =>
    apply reads_logsOfFilterAddresses _ atFirst atLast above upTo topics _ observed
    · intro log
      simp [LogFilterParams.matchesLog, addressed]
    · intro address later reached permitted
      have inOrder := permitted filter params addresses (reached.filter.trans there) isLog
        (AddressParam.eq_of_orAbsent_eq_many addressed)
      apply inOrder.imp
      intro one two separate log inside other otherInside
      have grown : ∀ {log}, log ∈ origin.chain.logs → log ∈ later.chain.logs := by
        intro log member
        obtain ⟨block, inChain, inBlock⟩ := List.mem_flatMap.mp member
        exact List.mem_flatMap.mpr ⟨block, reached.chain.subset inChain, inBlock⟩
      exact separate log (grown inside) other (grown otherInside)

end Logs

end HieroRelay.Filters
