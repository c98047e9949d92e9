import HieroRelay.Filters.Reading

/-! What the polls of a filter deliver, along every run of a session. -/

namespace HieroRelay.Filters

open HieroRelay.Lib

variable {mirrorNode : MirrorNode} {service : FilterService} {delivered : List Change} {seen : Nat}

/-- The parameter from which the next poll of a filter resumes. -/
def Filter.resumesFrom (filter : Filter) : BlockParam :=
  match filter.params with
  | .log params => FilterService.lastQueriedOr filter.lastQueried params.fromBlock
  | .newBlock blockAtCreation => .number (FilterService.lastBlockOr filter.lastQueried blockAtCreation + 1)

def FilterParams.Unbounded : FilterParams → Prop
  | .log params => params.toBlock.blockTagIsLatestOrPending = true
  | .newBlock _ => True

/-- Between two polls: what was delivered is right, and the next poll resumes behind it. -/
structure Synced (mirrorNode : MirrorNode) (state : FilterState) (delivered : List Change) (seen : Nat) : Prop where
  absent : state.filter = none → delivered = [] ∧ seen = 0
  inside : seen ≤ state.chain.blocks.length
  exact : ∀ filter, state.filter = some filter →
    delivered = filter.params.changes mirrorNode state.chain state.start seen
  unbounded : ∀ filter, state.filter = some filter → filter.params.Unbounded
  startsAfter : ∀ filter blockAtCreation, state.filter = some filter → filter.params = .newBlock blockAtCreation →
    state.start = blockAtCreation.value + 1
  resumes : ∀ filter, state.filter = some filter →
    Resumes mirrorNode state filter.params filter.resumesFrom delivered

theorem Resumes.start_le {state : FilterState} {params : FilterParams} {block : BlockParam}
    (resumes : Resumes mirrorNode state params block delivered) : state.start ≤ state.chain.blocks.length := by
  cases known : block.position with
  | none =>
    obtain ⟨-, below, -⟩ := resumes.head known
    omega
  | some number =>
    obtain ⟨-, below, inside⟩ := resumes.known number known
    omega

theorem Resumes.later {before after : FilterState} {params : FilterParams} {block : BlockParam}
    (resumes : Resumes mirrorNode before params block delivered) (observed : before.Observes after) :
    Resumes mirrorNode after params block delivered := by
  have grown := observed.length_le
  constructor
  · intro number known
    obtain ⟨same, start, inside⟩ := resumes.known number known
    rw [observed.start, FilterParams.changes_grown observed.chain inside]
    exact ⟨same, start, inside.trans grown⟩
  · intro text same
    exact Nat.lt_of_lt_of_le (resumes.there text same) grown
  · intro tag
    obtain ⟨empty, below, filter, there, follows, own⟩ := resumes.head tag
    rw [observed.start]
    exact ⟨empty, by omega, filter, observed.filter.trans there, follows, own⟩

theorem Synced.later {before after : FilterState} (synced : Synced mirrorNode before delivered seen)
    (observed : before.Observes after) : Synced mirrorNode after delivered seen := by
  constructor
  · intro absent
    exact synced.absent (observed.filter.symm.trans absent)
  · exact synced.inside.trans observed.length_le
  · intro filter there
    rw [observed.start, FilterParams.changes_grown observed.chain synced.inside]
    exact synced.exact filter (observed.filter.symm.trans there)
  · intro filter there
    exact synced.unbounded filter (observed.filter.symm.trans there)
  · intro filter blockAtCreation there isBlock
    rw [observed.start]
    exact synced.startsAfter filter blockAtCreation (observed.filter.symm.trans there) isBlock
  · intro filter there
    exact (synced.resumes filter (observed.filter.symm.trans there)).later observed

/-- What a poll got: it continues what was delivered, up to the head that was seen and up
to the block from which the next poll resumes. -/
structure Continues (mirrorNode : MirrorNode) (params : FilterParams) (later : FilterState) (delivered : List Change)
    (seen : Nat) (result : List Change) (next : Nat) : Prop where
  toSeen : delivered ++ result = params.changes mirrorNode later.chain later.start (later.queried.getD seen)
  seenInside : later.queried.getD seen ≤ later.chain.blocks.length
  toNext : delivered ++ result = params.changes mirrorNode later.chain later.start next
  start : later.start ≤ next
  nextInside : next ≤ later.chain.blocks.length

section Covered
variable {params : FilterParams} {after : FilterState} {result : List Change} {covered next : Nat}
  (exact : delivered ++ result = params.changes mirrorNode after.chain after.start covered)
  (queried : after.queried = some covered) (inside : covered ≤ after.chain.blocks.length)

include exact queried inside

/-- The next poll may resume before the head that was seen, where nothing is between. -/
theorem continues_before (start : after.start ≤ next) (below : next ≤ covered)
    (nothing : params.changes mirrorNode after.chain next covered = []) :
    Continues mirrorNode params after delivered seen result next := by
  constructor
  · rw [queried]
    exact exact
  · rw [queried]
    exact inside
  · rw [exact, ← FilterParams.changes_append start below, nothing, List.append_nil]
  · exact start
  · exact below.trans inside

/-- The next poll may resume at a later head, where nothing is between. -/
theorem continues_beyond (start : after.start ≤ covered) (above : covered ≤ next)
    (nextInside : next ≤ after.chain.blocks.length)
    (nothing : params.changes mirrorNode after.chain covered next = []) :
    Continues mirrorNode params after delivered seen result next := by
  constructor
  · rw [queried]
    exact exact
  · rw [queried]
    exact inside
  · rw [← FilterParams.changes_append start above, nothing, List.append_nil]
    exact exact
  · exact start.trans above
  · exact nextInside

end Covered

/-- What the query of the logs got. -/
structure LogsContinue (mirrorNode : MirrorNode) (params : LogFilterParams) (before later : FilterState)
    (delivered : List Change) (result : List Log) (covered : Nat) : Prop where
  queried : later.queried = some covered
  atLeast : before.chain.blocks.length ≤ covered
  inside : covered ≤ later.chain.blocks.length
  exact : delivered ++ result.map Change.log =
    (FilterParams.log params).changes mirrorNode later.chain before.start covered
  last : ∀ log, result.getLast? = some log →
    before.start ≤ log.blockNumber.value + 1 ∧ log.blockNumber.value + 1 ≤ covered ∧
      (FilterParams.log params).changes mirrorNode later.chain (log.blockNumber.value + 1) covered = []

private theorem reads_getLogs {state : FilterState} {params : LogFilterParams} {filter : Filter}
    {fromBlock : BlockParam}
    (there : state.filter = some filter) (isLog : filter.params = .log params)
    (unbounded : params.toBlock.blockTagIsLatestOrPending = true) (asked : state.queried = none)
    (resumes : Resumes mirrorNode state (.log params) fromBlock delivered) :
    Reads mirrorNode
      (fun result later => (∃ covered, LogsContinue mirrorNode params state later delivered result covered) ∨
        later.queried = none ∧ result = [] ∧
          ∀ chain start stop, (FilterParams.log params).changes mirrorNode chain start stop = [])
      (service.common.getLogs fromBlock params.toBlock params.address params.topics) state := by
  apply (reads_blockRange service.common params.address unbounded asked resumes).bind
  intro range later observed outcome
  cases range with
  | none =>
    obtain ⟨covered, upToDate⟩ := outcome
    apply reads_pure
    intro after interfered
    left
    refine ⟨covered, ?_⟩
    constructor
    · exact interfered.queried.trans upToDate.queried
    · exact upToDate.atLeast
    · exact upToDate.inside.trans interfered.length_le
    · rw [FilterParams.changes_grown interfered.chain upToDate.inside, List.map_nil, List.append_nil]
      exact upToDate.delivered
    · intro log isLast
      cases isLast
  | some timestamps =>
    obtain ⟨first, last, range⟩ := outcome
    obtain ⟨firstBlock, atFirst, above⟩ := range.firstBlock
    obtain ⟨lastBlock, atLast, upTo⟩ := range.lastBlock
    obtain ⟨inside, -⟩ := List.getElem?_eq_some_iff.mp atLast
    apply (reads_logsWithParams (observed.filter.trans there) isLog atFirst atLast above upTo rfl
      (FilterState.Observes.refl later)).weaken
    intro result after again read
    rcases read with ⟨queried, same⟩ | ⟨queried, empty, nothing⟩
    · left
      refine ⟨last + 1, ?_⟩
      have stays : (FilterParams.log params).changes mirrorNode after.chain first (last + 1) =
          (FilterParams.log params).changes mirrorNode later.chain first (last + 1) :=
        FilterParams.changes_grown again.chain inside
      constructor
      · exact queried
      · exact range.atLeast
      · exact Nat.le_trans inside again.length_le
      · rw [same, range.delivered, FilterParams.changes_grown again.chain inside]
        exact FilterParams.changes_append range.start (Nat.le_succ_of_le range.order)
      · intro log isLast
        have isLastChange : ((FilterParams.log params).changes mirrorNode later.chain first (last + 1)).getLast? =
            some (.log log) := by
          rw [← same, List.getLast?_map, isLast]
          rfl
        obtain ⟨above, below⟩ := FilterParams.mem_changes_log (List.mem_of_getLast? isLastChange)
        have start := range.start
        refine ⟨by omega, below, ?_⟩
        rw [FilterParams.changes_grown again.chain inside]
        exact FilterParams.changes_log_getLast isLastChange
    · right
      exact ⟨queried.trans range.queried, empty, nothing⟩

private theorem reads_logChanges {state : FilterState} {params : LogFilterParams} {filter : Filter}
    (there : state.filter = some filter) (isLog : filter.params = .log params)
    (asked : state.queried = none) (synced : Synced mirrorNode state delivered seen) :
    Reads mirrorNode
      (fun (result, next) later => 0 < next ∧ Continues mirrorNode (.log params) later delivered seen result next)
      (service.logChanges params filter.lastQueried) state := by
  have unbounded := synced.unbounded filter there
  have exactly := synced.exact filter there
  have resumes := synced.resumes filter there
  simp only [Filter.resumesFrom, isLog] at unbounded exactly resumes
  have started := resumes.start_le
  apply (reads_getLogs there isLog unbounded asked resumes).bind
  intro result later observed outcome
  cases isLast : result.getLast? with
  | some log =>
    rcases outcome with ⟨covered, logs⟩ | ⟨-, empty, -⟩
    · apply reads_pure
      intro after interfered
      have stays := observed.trans interfered.toObserves
      obtain ⟨start, below, nothing⟩ := logs.last log isLast
      refine ⟨Nat.succ_pos _, continues_before ?_ (interfered.queried.trans logs.queried) ?_ ?_ below ?_⟩
      · rw [FilterParams.changes_grown interfered.chain logs.inside, stays.start]
        exact logs.exact
      · exact logs.inside.trans interfered.length_le
      · rw [stays.start]
        exact start
      · rw [FilterParams.changes_grown interfered.chain logs.inside]
        exact nothing
    · subst empty
      cases isLast
  | none =>
    have empty := List.getLast?_eq_none_iff.mp isLast
    subst empty
    apply (reads_getLatestBlockNumber later).bind
    intro number last observedAgain ⟨block, value, head⟩
    apply reads_pure
    intro after interfered
    have head := head.later interfered
    have stays := (observed.trans observedAgain).trans interfered.toObserves
    have ahead := head.atLeast
    obtain ⟨inside, -⟩ := List.getElem?_eq_some_iff.mp head.present
    have grown := observed.length_le
    rw [value]
    refine ⟨Nat.succ_pos _, ?_⟩
    rcases outcome with ⟨covered, logs⟩ | ⟨queried, -, nothing⟩
    · have quiet := head.quiet covered logs.queried filter (observed.filter.trans there)
      rw [isLog] at quiet
      have above := logs.atLeast
      have below := logs.inside
      refine continues_beyond ?_ (head.queried.trans logs.queried) ?_ ?_ ?_ ?_ quiet
      · rw [stays.start, FilterParams.changes_grown (observedAgain.trans interfered.toObserves).chain logs.inside]
        exact logs.exact
      · omega
      · rw [stays.start]
        omega
      · omega
      · omega
    · have none : delivered = [] := by rw [exactly, nothing]
      have shown : after.queried.getD seen = seen := by
        rw [head.queried, queried]
        rfl
      subst none
      constructor
      · rw [nothing]
        rfl
      · rw [shown]
        exact synced.inside.trans stays.length_le
      · rw [nothing]
        rfl
      · rw [stays.start]
        omega
      · omega

/-- The new blocks, when the query was answered. -/
theorem reads_getBlocks (gt : Nat) (state : FilterState) :
    Reads mirrorNode
      (fun blocks later => ∃ covered, later.queried = some covered ∧ state.chain.blocks.length ≤ covered ∧
        covered ≤ later.chain.blocks.length ∧ blocks = later.chain.between (gt + 1) covered)
      (MirrorNodeClient.getBlocks gt) state := by
  have readOnly : ∀ later : FilterState, later.Observes (later.record (.getBlocks gt)) :=
    fun _ => { chain := List.prefix_rfl, filter := rfl, start := rfl }
  apply reads_query readOnly
  intro later interfered _
  apply reads_answered
  intro blocks given after interferedAgain
  obtain ⟨-, same⟩ := ifAvailable_eq_some given
  have grown : later.chain.blocks <+: after.chain.blocks := interferedAgain.chain
  refine ⟨later.chain.blocks.length, interferedAgain.queried, interfered.length_le, grown.length_le, ?_⟩
  rw [← same, Chain.between_grown grown (Nat.le_refl _)]
  exact later.chain.filter_number gt

private theorem reads_blockChanges {state : FilterState} {blockAtCreation : HexNumber} {filter : Filter}
    (there : state.filter = some filter) (isBlock : filter.params = .newBlock blockAtCreation)
    (synced : Synced mirrorNode state delivered seen) :
    Reads mirrorNode
      (fun (result, number) later =>
        Continues mirrorNode (.newBlock blockAtCreation) later delivered seen result (number + 1))
      (FilterService.blockChanges blockAtCreation filter.lastQueried) state := by
  have resumes := synced.resumes filter there
  simp only [Filter.resumesFrom, isBlock] at resumes
  obtain ⟨before, start, inside⟩ := resumes.known _ rfl
  generalize resumed : FilterService.lastBlockOr filter.lastQueried blockAtCreation = gt at before start inside
  unfold FilterService.blockChanges
  rw [resumed]
  apply (reads_getBlocks gt state).bind
  intro blocks later observed ⟨covered, queried, above, below, same⟩
  have exactLater : ∀ after, later.Observes after →
      delivered ++ blocks.map (fun block => Change.blockHash block.hash) =
        (FilterParams.newBlock blockAtCreation).changes mirrorNode after.chain state.start covered := by
    intro after observedAgain
    have stays := observed.trans observedAgain
    rw [before, same, ← FilterParams.changes_newBlock,
      ← FilterParams.changes_grown observedAgain.chain below,
      ← FilterParams.changes_grown stays.chain inside]
    exact FilterParams.changes_append start (inside.trans above)
  cases isLast : blocks.getLast? with
  | some block =>
    apply reads_pure
    intro after interfered
    have stays := observed.trans interfered.toObserves
    have last : block.number + 1 = covered := by
      rw [same] at isLast
      exact Chain.between_getLast_number below isLast
    have within := below.trans interfered.length_le
    dsimp only
    rw [last]
    refine continues_beyond ?_ (interfered.queried.trans queried) within ?_ (Nat.le_refl _) within ?_
    · rw [stays.start]
      exact exactLater after interfered.toObserves
    · rw [stays.start]
      exact start.trans (inside.trans above)
    · exact FilterParams.changes_eq_nil (Nat.le_refl _)
  | none =>
    dsimp only
    rw [bind_map_left]
    apply (reads_getLatestBlockNumber later).bind
    intro number last observedAgain ⟨block, value, head⟩
    apply reads_pure
    intro after interfered
    have head := head.later interfered
    have stays := (observed.trans observedAgain).trans interfered.toObserves
    have ahead := head.atLeast
    have quiet := head.quiet covered queried filter (observed.filter.trans there)
    rw [isBlock] at quiet
    obtain ⟨headInside, -⟩ := List.getElem?_eq_some_iff.mp head.present
    dsimp only
    rw [value]
    refine continues_beyond ?_ (head.queried.trans queried) ?_ ?_ ?_ ?_ quiet
    · rw [stays.start]
      exact exactLater after (observedAgain.trans interfered.toObserves)
    · omega
    · rw [stays.start]
      omega
    · omega
    · omega

private theorem reads_getFilter (state : FilterState) :
    Reads mirrorNode (fun filter later => filter = state.filter ∧ later.queried = state.queried)
      (await .getFilter) state := by
  intro later interfered _ _
  refine ⟨fun filter there => ⟨filter, there, rfl, rfl⟩, trivial, ?_⟩
  intro after interferedAgain
  refine ⟨interfered.toObserves.trans interferedAgain.toObserves, ?_⟩
  intro filter same
  cases same
  exact ⟨interfered.filter, interferedAgain.queried.trans interfered.queried⟩

/-- What holds when a call is done. -/
def Answers (mirrorNode : MirrorNode) (delivered : List Change) (seen : Nat)
    (outcome : Except FilterError Response) (later : FilterState) : Prop :=
  match outcome with
  | .ok (.changes changes) => Synced mirrorNode later (delivered ++ changes) (later.queried.getD seen)
  | _ => Synced mirrorNode later delivered seen

/-- The entry that a poll writes makes the next poll resume behind its result. -/
theorem Synced.setFilter {state : FilterState} {filter : Filter} (synced : Synced mirrorNode state delivered seen)
    (there : state.filter = some filter) {result : List Change} {number next : Nat}
    (resumes : ({ filter with lastQueried := some number } : Filter).resumesFrom = .number next)
    (continues : Continues mirrorNode filter.params state delivered seen result next) :
    Synced mirrorNode (state.record (.setFilter { filter with lastQueried := some number })) (delivered ++ result)
      (state.queried.getD seen) := by
  have kept : (state.record (.setFilter { filter with lastQueried := some number })).start = state.start := by
    simp [FilterState.record, there]
  constructor
  · intro absent
    cases absent
  · exact continues.seenInside
  · intro other same
    cases same
    rw [kept]
    exact continues.toSeen
  · intro other same
    cases same
    exact synced.unbounded filter there
  · intro other blockAtCreation same isBlock
    cases same
    rw [kept]
    exact synced.startsAfter filter blockAtCreation there isBlock
  · intro other same
    cases same
    rw [resumes]
    constructor
    · intro position known
      obtain rfl := Option.some.inj known
      rw [kept]
      exact ⟨continues.toNext, continues.start, continues.nextInside⟩
    · intro text impossible
      cases impossible
    · intro tag
      cases tag

/-- A poll writes the entry of its filter and returns. -/
theorem keeps_write {state : FilterState} {filter : Filter} (synced : Synced mirrorNode state delivered seen)
    (there : state.filter = some filter) {program : Throwing (List Change × Nat)}
    (reads : Reads mirrorNode
      (fun (result, number) later => ∃ next,
        ({ filter with lastQueried := some number } : Filter).resumesFrom = .number next ∧
          Continues mirrorNode filter.params later delivered seen result next) program state) :
    (polling mirrorNode).Keeps ()
      (fun outcome later => Answers mirrorNode delivered seen (outcome.map Response.changes) later)
      (program >>= fun (result, number) => do
        await (.setFilter { filter with lastQueried := some number })
        return result).run state := by
  apply reads.finish
  · intro error later observed
    exact synced.later observed
  · intro (result, number) later observed ⟨next, resumes, continues⟩ after interfered _ _
    have reached := observed.trans interfered.toObserves
    have thereAfter := reached.filter.trans there
    have continuesAfter : Continues mirrorNode filter.params after delivered seen result next := by
      have toSeen := continues.toSeen
      constructor
      · rw [interfered.start, interfered.queried,
          FilterParams.changes_grown interfered.chain continues.seenInside]
        exact continues.toSeen
      · rw [interfered.queried]
        exact continues.seenInside.trans interfered.length_le
      · rw [interfered.start, FilterParams.changes_grown interfered.chain continues.nextInside]
        exact continues.toNext
      · rw [interfered.start]
        exact continues.start
      · exact continues.nextInside.trans interfered.length_le
    have written := (synced.later reached).setFilter thereAfter resumes continuesAfter
    refine ⟨?_, trivial, ?_⟩
    · intro other same
      obtain rfl := Option.some.inj (thereAfter.symm.trans same)
      refine ⟨_, rfl, rfl, ?_⟩
      show (if after.filter.isNone then _ else after.start) = after.start
      simp [thereAfter]
    · intro last interferedAgain
      have final := written.later interferedAgain.toObserves
      have shown : last.queried = after.queried := interferedAgain.queried
      rw [← shown] at final
      exact final

/-- A poll between two others. -/
theorem keeps_getFilterChanges {state : FilterState} (synced : Synced mirrorNode state delivered seen)
    (asked : state.queried = none) :
    (polling mirrorNode).Keeps () (Answers mirrorNode delivered seen)
      (Response.changes <$> service.getFilterChanges).run state := by
  rw [ExceptT.run_map]
  apply Protocol.Keeps.map
  unfold FilterService.getFilterChanges FilterService.requireFiltersEnabled
  cases service.filterApiEnabled with
  | false =>
    intro later interfered
    exact synced.later interfered.toObserves
  | true =>
    simp only [Bool.not_true, Bool.false_eq_true, if_false, pure_bind]
    apply (reads_getFilter state).finish
    · intro error later observed
      exact synced.later observed
    · intro found later observed ⟨same, queried⟩
      have syncedLater := synced.later observed
      rw [same]
      cases there : state.filter with
      | none =>
        intro after interfered
        exact syncedLater.later interfered.toObserves
      | some filter =>
        have thereLater := observed.filter.trans there
        apply keeps_write syncedLater thereLater
        cases kind : filter.params with
        | log params =>
          apply (reads_logChanges thereLater kind (queried.trans asked) syncedLater).weaken
          intro (result, next) _ _ ⟨positive, continues⟩
          refine ⟨next, ?_, continues⟩
          simp only [Filter.resumesFrom, FilterService.lastQueriedOr]
          cases next with
          | zero => cases positive
          | succ number => rfl
        | newBlock blockAtCreation =>
          apply (reads_blockChanges thereLater kind syncedLater).weaken
          intro (result, number) last observedAgain continues
          refine ⟨number + 1, ?_, continues⟩
          have starts := syncedLater.startsAfter filter blockAtCreation thereLater kind
          have start := continues.start
          rw [observedAgain.start, starts] at start
          simp only [Filter.resumesFrom, FilterService.lastBlockOr]
          cases number with
          | zero =>
            have zero : blockAtCreation.value = 0 := by omega
            simp [zero]
          | succ number => rfl

def FilterRequest.Unbounded : FilterRequest → Prop
  | .newFilter params => (params.toBlock.getD .latest).blockTagIsLatestOrPending = true
  | .newBlockFilter => True

/-- A new filter has nothing behind it. -/
theorem synced_createFilter {state : FilterState} {params : FilterParams} (none : state.filter = none)
    (unbounded : params.Unbounded)
    (known : ∀ logParams number, params = .log logParams → logParams.fromBlock.position = some number →
      number < state.chain.blocks.length)
    (head : ∀ blockAtCreation, params = .newBlock blockAtCreation →
      blockAtCreation.value < state.chain.blocks.length) :
    Synced mirrorNode (state.record (.setFilter { params, lastQueried := Option.none })) [] 0 := by
  have start : (state.record (.setFilter { params, lastQueried := Option.none })).start =
      params.startOf state.chain := by
    simp [FilterState.record, none]
  constructor
  · intro absent
    cases absent
  · exact Nat.zero_le _
  · intro filter same
    cases same
    rw [FilterParams.changes_eq_nil (Nat.zero_le _)]
  · intro filter same
    cases same
    exact unbounded
  · intro filter blockAtCreation same isBlock
    cases same
    dsimp only at isBlock
    subst isBlock
    exact start
  · intro filter same
    cases same
    cases params with
    | newBlock blockAtCreation =>
      have inside := head blockAtCreation rfl
      constructor
      · intro number same
        obtain rfl := Option.some.inj same
        rw [start]
        exact ⟨(FilterParams.changes_eq_nil (Nat.le_refl _)).symm, Nat.le_refl _, inside⟩
      · intro text impossible
        cases impossible
      · intro tag
        cases tag
    | log logParams =>
      have inside := known logParams
      constructor
      · intro number position
        rw [start, FilterParams.startOf_of_position position]
        exact ⟨(FilterParams.changes_eq_nil (Nat.le_refl _)).symm, Nat.le_refl _,
          Nat.le_of_lt (inside number rfl position)⟩
      · intro text same
        exact inside text.value rfl (congrArg BlockParam.position same)
      · intro tag
        rw [start, FilterParams.startOf_of_tag tag]
        refine ⟨rfl, Nat.le_refl _, _, rfl, ⟨rfl, logParams, rfl, ?_⟩, rfl⟩
        exact BlockParam.tag_of_position tag

theorem keeps_createFilter {state : FilterState} {params : FilterParams} (absent : state.filter = none)
    (unbounded : params.Unbounded)
    (known : ∀ logParams number, params = .log logParams → logParams.fromBlock.position = some number →
      number < state.chain.blocks.length)
    (head : ∀ blockAtCreation, params = .newBlock blockAtCreation →
      blockAtCreation.value < state.chain.blocks.length) :
    (polling mirrorNode).Keeps ()
      (fun outcome later => Answers mirrorNode [] 0 (outcome.map fun _ => Response.created) later)
      (FilterService.createFilter params).run state := by
  intro later interfered _ _
  have grown := interfered.length_le
  refine ⟨?_, trivial, ?_⟩
  · intro filter there
    cases (interfered.filter.trans absent).symm.trans there
  · intro after interferedAgain
    have created : Synced mirrorNode (later.record (.setFilter { params, lastQueried := none })) [] 0 := by
      apply synced_createFilter (interfered.filter.trans absent) unbounded
      · intro logParams number isLog position
        exact Nat.lt_of_lt_of_le (known logParams number isLog position) grown
      · intro blockAtCreation isBlock
        exact Nat.lt_of_lt_of_le (head blockAtCreation isBlock) grown
    exact created.later interferedAgain.toObserves

theorem synced_absent {state : FilterState} (absent : state.filter = none) : Synced mirrorNode state [] 0 := by
  constructor
  · exact fun _ => ⟨rfl, rfl⟩
  · exact Nat.zero_le _
  · intro filter there
    cases absent.symm.trans there
  · intro filter there
    cases absent.symm.trans there
  · intro filter _ there
    cases absent.symm.trans there
  · intro filter there
    cases absent.symm.trans there

private theorem keeps_newBlockFilter {state : FilterState} (absent : state.filter = none) :
    (polling mirrorNode).Keeps () (Answers mirrorNode [] 0) (Session.creation service .newBlockFilter) state := by
  dsimp only [Session.creation]
  rw [ExceptT.run_map]
  apply Protocol.Keeps.map
  unfold FilterService.newBlockFilter FilterService.requireFiltersEnabled
  cases service.filterApiEnabled with
  | false =>
    intro later interfered
    exact synced_absent (interfered.toObserves.filter.trans absent)
  | true =>
    simp only [Bool.not_true, Bool.false_eq_true, if_false, pure_bind]
    apply (reads_getLatestBlockNumber state).finish
    · intro error later observed
      exact synced_absent (observed.filter.trans absent)
    · intro number later observed ⟨block, value, head⟩
      apply keeps_createFilter (observed.filter.trans absent)
      · trivial
      · intro _ _ impossible
        cases impossible
      · intro blockAtCreation same
        cases same
        obtain ⟨inside, -⟩ := List.getElem?_eq_some_iff.mp head.present
        rw [value]
        exact inside

/-- The block that a filter is stored with is there. -/
theorem reads_storedFromBlock {state : FilterState} {fromBlock : BlockParam}
    (inside : ∀ number, fromBlock.position = some number → number < state.chain.blocks.length) :
    Reads mirrorNode
      (fun fromBlock last => ∀ number, fromBlock.position = some number → number < last.chain.blocks.length)
      (if fromBlock = .latest then BlockParam.hex <$> CommonService.getLatestBlockNumber else pure fromBlock) state := by
  split_ifs with isLatest
  · rw [map_eq_pure_bind]
    apply (reads_getLatestBlockNumber state).bind
    intro number last _ ⟨block, value, head⟩
    apply reads_pure
    intro after interfered position same
    obtain rfl := Option.some.inj same
    obtain ⟨within, -⟩ := List.getElem?_eq_some_iff.mp (head.later interfered).present
    rw [value]
    exact within
  · apply reads_pure
    intro after interfered position same
    exact Nat.lt_of_lt_of_le (inside position same) interfered.length_le

private theorem keeps_newFilter {state : FilterState} {params : INewFilterParams} (absent : state.filter = none)
    (unbounded : (FilterRequest.newFilter params).Unbounded) :
    (polling mirrorNode).Keeps () (Answers mirrorNode [] 0) (Session.creation service (.newFilter params)) state := by
  dsimp only [Session.creation]
  rw [ExceptT.run_map]
  apply Protocol.Keeps.map
  unfold FilterService.newFilter FilterService.requireFiltersEnabled
  cases service.filterApiEnabled with
  | false =>
    intro later interfered
    exact synced_absent (interfered.toObserves.filter.trans absent)
  | true =>
    simp only [Bool.not_true, Bool.false_eq_true, if_false, pure_bind]
    apply (reads_validateBlockRange service.common unbounded state).finish
    · intro error later observed
      exact synced_absent (observed.filter.trans absent)
    · intro _ later observed inside
      apply (reads_storedFromBlock inside).finish
      · intro error last observedAgain
        exact synced_absent ((observed.trans observedAgain).filter.trans absent)
      · intro fromBlock last observedAgain known
        apply keeps_createFilter ((observed.trans observedAgain).filter.trans absent)
        · exact unbounded
        · intro logParams number same position
          cases same
          exact known number position
        · intro _ impossible
          cases impossible

/-- The creation, before any poll. -/
theorem keeps_creation {state : FilterState} {request : FilterRequest} (absent : state.filter = none)
    (unbounded : request.Unbounded) :
    (polling mirrorNode).Keeps () (Answers mirrorNode [] 0) (Session.creation service request) state := by
  cases request with
  | newBlockFilter => exact keeps_newBlockFilter absent
  | newFilter params => exact keeps_newFilter absent unbounded

/-- What holds in every state of a session. -/
structure Consistent (mirrorNode : MirrorNode) (session : Session) : Prop where
  absent : session.state.filter = none → session.delivered = [] ∧ session.seen = 0
  inside : session.seen ≤ session.state.chain.blocks.length
  exact : session.ExactlyOnce mirrorNode
  idle : session.call = none → Synced mirrorNode session.state session.delivered session.seen
  running : ∀ call, session.call = some call →
    (polling mirrorNode).Keeps () (Answers mirrorNode session.delivered session.seen) call session.state

/-- A call that came to a state leaves a consistent session. -/
theorem consistent_advance {session : Session} {state : FilterState} {call : Call}
    (absent : state.filter = none → session.delivered = [] ∧ session.seen = 0)
    (inside : session.seen ≤ state.chain.blocks.length)
    (exact : ∀ filter, state.filter = some filter →
      session.delivered = filter.params.changes mirrorNode state.chain state.start session.seen)
    (keeps : (polling mirrorNode).Keeps () (Answers mirrorNode session.delivered session.seen) call state) :
    Consistent mirrorNode (session.advance state call) := by
  cases call with
  | call op next =>
    constructor
    · exact absent
    · exact inside
    · exact exact
    · intro impossible
      cases impossible
    · intro call same
      cases same
      exact keeps
  | done outcome =>
    have answers := keeps state ((polling mirrorNode).rely_refl () state)
    have idle : ∀ {delivered seen}, Synced mirrorNode state delivered seen →
        Consistent mirrorNode { state, call := none, delivered, seen } := by
      intro delivered seen synced
      constructor
      · exact synced.absent
      · exact synced.inside
      · exact synced.exact
      · exact fun _ => synced
      · intro call impossible
        cases impossible
    cases outcome with
    | error error => exact idle answers
    | ok response =>
      cases response with
      | created => exact idle answers
      | changes changes => exact idle answers

theorem consistent_initial (chain : Chain) {request : FilterRequest} (unbounded : request.Unbounded) :
    Consistent mirrorNode (Session.initial service chain request) := by
  apply consistent_advance
  · exact fun _ => ⟨rfl, rfl⟩
  · exact Nat.zero_le _
  · intro filter impossible
    cases impossible
  · exact keeps_creation rfl unbounded

theorem Consistent.interfere {session : Session} {state : FilterState}
    (consistent : Consistent mirrorNode session) (interferes : session.state.Interferes state) :
    Consistent mirrorNode { session with state } := by
  constructor
  · intro absent
    exact consistent.absent (interferes.filter.symm.trans absent)
  · exact consistent.inside.trans interferes.length_le
  · intro filter there
    dsimp only
    rw [interferes.start, FilterParams.changes_grown interferes.chain consistent.inside]
    exact consistent.exact filter (interferes.filter.symm.trans there)
  · intro idle
    exact (consistent.idle idle).later interferes.toObserves
  · intro call running
    exact (consistent.running call running).interfere interferes

theorem Synced.withoutQueries {state : FilterState} (synced : Synced mirrorNode state delivered seen) :
    Synced mirrorNode { state with queried := none } delivered seen :=
  synced.later { chain := List.prefix_rfl, filter := rfl, start := rfl }

/-- A step under the condition leaves a consistent session. -/
theorem Consistent.step {session after : Session} (consistent : Consistent mirrorNode session)
    {label : SessionLabel} (unskipping : session.NextUnskipping mirrorNode label)
    (taken : session.serve service mirrorNode label = some after) : Consistent mirrorNode after := by
  cases label with
  | produce block =>
    obtain ⟨chain, grown, rfl⟩ := Option.map_eq_some_iff.mp taken
    have longer : session.state.chain.blocks <+: chain.blocks := Chain.grown_of_produce grown
    have interferes : session.state.Interferes { session.state with chain } :=
      { chain := longer, filter := rfl, start := rfl, queried := rfl }
    exact consistent.interfere interferes
  | outage restored =>
    obtain rfl := Option.some.inj taken
    have interferes : session.state.Interferes { session.state with available := restored } :=
      { chain := List.prefix_rfl, filter := rfl, start := rfl, queried := rfl }
    exact consistent.interfere interferes
  | getFilterChanges =>
    unfold Session.serve at taken
    cases running : session.call with
    | some call => simp [running] at taken
    | none =>
      simp only [running] at taken
      obtain rfl := Option.some.inj taken
      have synced := (consistent.idle running).withoutQueries
      apply consistent_advance
      · exact consistent.absent
      · exact consistent.inside
      · exact consistent.exact
      · exact keeps_getFilterChanges synced rfl
  | operate =>
    unfold Session.serve at taken
    cases running : session.call with
    | none => simp [running] at taken
    | some call =>
      cases call with
      | done outcome => simp [running] at taken
      | call op next =>
        simp only [running] at taken
        obtain rfl := Option.some.inj taken
        have permitted := unskipping op next running
        obtain ⟨guaranteed, -, keeps⟩ := consistent.running _ running session.state
          ((polling mirrorNode).rely_refl () session.state) trivial permitted
        have sameChain : (session.state.perform mirrorNode op).2.chain = session.state.chain :=
          session.state.record_chain op
        apply consistent_advance
        · intro absent
          cases there : session.state.filter with
          | none => exact consistent.absent there
          | some filter =>
            obtain ⟨next, kept, -, -⟩ := guaranteed filter there
            cases kept.symm.trans absent
        · rw [sameChain]
          exact consistent.inside
        · intro filter there
          rw [sameChain]
          cases before : session.state.filter with
          | none =>
            obtain ⟨empty, unseen⟩ := consistent.absent before
            rw [empty, unseen, FilterParams.changes_eq_nil (Nat.zero_le _)]
          | some older =>
            obtain ⟨next, kept, sameParams, sameStart⟩ := guaranteed older before
            obtain rfl := Option.some.inj (kept.symm.trans there)
            rw [sameParams, consistent.exact older before]
            exact congrArg (fun start => older.params.changes mirrorNode session.state.chain start session.seen)
              sameStart.symm
        · exact keeps

def exampleService : FilterService where
  common := { maxBlockRange := 5, blockRangeLimit := 1000, exceedsTimestampRange := fun _ _ => false }
  filterApiEnabled := true

def exampleMirrorNode : MirrorNode where
  isLogOf address log := address == log.address && address != zeroAddress
  zeroAddress_silent := by simp

/-- A block of ten time units without logs. -/
def quietBlock (number : Nat) : MirrorNodeBlock where
  number
  hash := ""
  timestampFrom := 10 * number
  timestampTo := 10 * number + 9
  logs := []
  spans := Nat.le_add_right _ _
  ordered := List.Pairwise.nil
  inside := by simp

def genesisChain : Chain where
  blocks := [quietBlock 0]
  started := by simp
  numbered := by
    intro number block found
    obtain ⟨inside, same⟩ := List.getElem?_eq_some_iff.mp found
    have first : number = 0 := by simpa using inside
    subst first
    exact same ▸ rfl
  ordered := List.pairwise_singleton _ _

/-- A block filter is created, a block is produced, and the filter is polled. -/
def oneBlock : List SessionLabel :=
  [.operate, .operate, .produce { quietBlock 1 with hash := "0x1" }, .getFilterChanges, .operate, .operate, .operate]

def exampleLog : MirrorNodeLog where
  address := "0xa"
  blockHash := "0x1"
  blockNumber := 1
  data := "0x"
  index := 0
  topics := []
  transactionHash := "0xb"
  transactionIndex := 0
  timestamp := 11

/-- A log filter is polled, and a block with a log comes between the query of the logs and
that of the head; another block comes, and the filter is polled again. -/
def blockDuringPoll : List SessionLabel :=
  [.operate, .operate, .operate, .operate, .getFilterChanges, .operate, .operate, .operate, .operate, .operate,
    .produce { quietBlock 1 with
      logs := [exampleLog]
      ordered := List.pairwise_singleton _ _
      inside := by decide },
    .operate, .operate, .produce (quietBlock 2), .getFilterChanges, .operate, .operate, .operate, .operate, .operate,
    .operate]

end HieroRelay.Filters
