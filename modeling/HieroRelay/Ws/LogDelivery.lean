import HieroRelay.Filters.ExactlyOnce
import HieroRelay.Filters.LogQueries
import HieroRelay.Ws.LogPolling

/-! A subscription to logs misses none exactly as long as no poll goes on from a block
before which there are matching logs that no poll has covered. -/

namespace HieroRelay.Ws

open HieroRelay.Filters
open HieroRelay.Lib

namespace PollingState

variable (common : CommonService) (mirrorNode : MirrorNode) (filters : Option Js.Json)

/-- The blocks in between bring nothing to the subscription. -/
def Quiet (state : PollingState) (first last : Nat) : Prop :=
  (FilterParams.log (logsOf filters)).changes mirrorNode state.chain first last = []

/-- The polls that succeeded covered the blocks before this one. -/
def frontier (state : PollingState) : Nat := max state.start state.covered

/-- The condition on a step: a first poll begins, and a poll that was answered goes on, from
a block before which nothing is left. -/
def Gapless (state : PollingState) : PollingLabel → Prop
  | .endTick position => ∀ number, state.ticks[position]? = some (.done (.ok number)) →
      ∀ poll ∈ state.poller.polls, poll.lastPolled = none → Quiet mirrorNode filters state state.frontier number.value
  | .endPoll position => ∀ fetch logs number, state.fetches[position]? = some fetch → fetch.call = .done (.ok logs) →
      state.poller.latestBlock = some number →
      Quiet mirrorNode filters state (max state.frontier (fetch.view.queried.getD 0)) number.value
  | _ => True

/-- A query from the block leaves out nothing. -/
structure Resumes (state : PollingState) (first : Nat) : Prop where
  there : first < state.chain.blocks.length
  quiet : Quiet mirrorNode filters state state.frontier first

/-- The query of a poll answers what the blocks that it covers bring. -/
structure Fetching (state : PollingState) (fetch : FetchingLogs) : Prop where
  tag : fetch.tag = { event := "logs", filters }
  absent : fetch.view.filter = none
  grown : fetch.view.chain.blocks <+: state.chain.blocks
  queries : fetch.call.Asks FilterOp.IsQuery
  reads : ∃ first, Resumes mirrorNode filters state first ∧
    (polling mirrorNode).Keeps () (fun outcome later => ∀ logs, outcome = .ok logs →
      Covered mirrorNode (logsOf filters) first logs later) fetch.call fetch.view

/-- A tick that was not answered yet, or that knows a block that is there. -/
def Ticking (state : PollingState) (tick : AskingNumber) : Prop :=
  tick = CommonService.getLatestBlockNumber.run ∨
    ∃ outcome, tick = .done outcome ∧
      ∀ number : HexNumber, outcome = .ok number → number.value < state.chain.blocks.length

/-- What holds in every run without gaps. -/
structure Consistent (state : PollingState) : Prop where
  polls : ∃ lastPolled, state.poller.polls = [{ tag := { event := "logs", filters }, lastPolled }] ∧
    ∀ number : HexNumber, lastPolled = some number → Resumes mirrorNode filters state number.value
  latest : ∀ number : HexNumber, state.poller.latestBlock = some number → number.value < state.chain.blocks.length
  cached : ∀ number : HexNumber, state.cachedNumber = some number → number.value < state.chain.blocks.length
  ticks : ∀ tick ∈ state.ticks, Ticking state tick
  fetches : ∀ fetch ∈ state.fetches, Fetching mirrorNode filters state fetch
  inside : state.covered ≤ state.chain.blocks.length
  delivered : (FilterParams.log (logsOf filters)).changes mirrorNode state.chain state.start state.covered ⊆
    state.passed.map Change.log

/-- The chain grows, and more of it is covered. -/
structure Progresses (before after : PollingState) : Prop where
  grown : before.chain.blocks <+: after.chain.blocks
  start : after.start = before.start
  covered : before.covered ≤ after.covered

variable {common mirrorNode filters} {before after state : PollingState} {first last : Nat}

theorem Progresses.length_le (progresses : before.Progresses after) :
    before.chain.blocks.length ≤ after.chain.blocks.length := progresses.grown.length_le

theorem Progresses.frontier_le (progresses : before.Progresses after) : before.frontier ≤ after.frontier := by
  have covered := progresses.covered
  have start := progresses.start
  unfold frontier
  omega

theorem Quiet.later (quiet : Quiet mirrorNode filters before first last)
    (grown : before.chain.blocks <+: after.chain.blocks)
    (inside : last ≤ before.chain.blocks.length) {above : Nat} (further : first ≤ above) :
    Quiet mirrorNode filters after above last := by
  unfold Quiet
  rw [FilterParams.changes_grown grown inside]
  apply List.subset_nil.mp
  rw [← show _ = [] from quiet]
  exact FilterParams.changes_subset further (Nat.le_refl last)

theorem Resumes.later (resumes : Resumes mirrorNode filters before first) (progresses : before.Progresses after) :
    Resumes mirrorNode filters after first where
  there := resumes.there.trans_le progresses.length_le
  quiet := resumes.quiet.later progresses.grown (Nat.le_of_lt resumes.there) progresses.frontier_le

theorem Fetching.later {fetch : FetchingLogs} (fetching : Fetching mirrorNode filters before fetch)
    (progresses : before.Progresses after) : Fetching mirrorNode filters after fetch where
  tag := fetching.tag
  absent := fetching.absent
  grown := fetching.grown.trans progresses.grown
  queries := fetching.queries
  reads := by
    obtain ⟨first, resumes, keeps⟩ := fetching.reads
    exact ⟨first, resumes.later progresses, keeps⟩

theorem Ticking.later {tick : AskingNumber} (ticking : Ticking before tick) (progresses : before.Progresses after) :
    Ticking after tick := by
  rcases ticking with asks | ⟨outcome, rfl, known⟩
  · exact .inl asks
  · exact .inr ⟨outcome, rfl, fun number same => (known number same).trans_le progresses.length_le⟩

/-- The fetch is looking at the chain as it is now. -/
theorem Fetching.interferes {fetch : FetchingLogs} (fetching : Fetching mirrorNode filters state fetch) :
    fetch.view.Interferes (state.look fetch) where
  chain := fetching.grown
  filter := rfl
  start := rfl
  queried := rfl

/-- The number that is answered is the one of the head. -/
theorem ticking_answered (mirrorNode : MirrorNode) {op : FilterOp} {next : op.Answer → AskingNumber}
    (view : FilterState) (asks : CommonService.getLatestBlockNumber.run = .call op next)
    (same : view.chain = state.chain) :
    ∃ outcome, next (view.answer mirrorNode op) = .done outcome ∧
      ∀ number : HexNumber, outcome = .ok number → number.value < state.chain.blocks.length := by
  cases asks
  cases available : view.available with
  | false =>
      have unanswered : view.answer mirrorNode .getLatestBlock = none := by
        simp [FilterState.answer, FilterState.ifAvailable, available]
      rw [unanswered]
      exact ⟨.error .mirrorNode, rfl, nofun⟩
  | true =>
      cases found : state.chain.blocks.getLast? with
      | none => exact absurd (List.getLast?_eq_none_iff.mp found) state.chain.started
      | some block =>
          have answered : view.answer mirrorNode .getLatestBlock = some [block] := by
            simp [FilterState.answer, FilterState.ifAvailable, available, same, found]
          rw [answered]
          refine ⟨.ok (numberTo0x block.number), rfl, ?_⟩
          rintro number ⟨⟩
          have length := (Chain.getLast_number found).2
          exact Nat.lt_of_succ_le (Nat.le_of_eq length.symm)

/-- The query of a poll from a block that leaves out nothing. -/
theorem fetching_getLogs {number : HexNumber} (resumes : Resumes mirrorNode filters state number.value) :
    Fetching mirrorNode filters state {
      tag := { event := "logs", filters }
      call := (common.getLogs (.hex number) .latest (addressOf filters) (topicsOf filters)).run
      view := state.viewFrom number.value none } where
  tag := rfl
  absent := rfl
  grown := List.prefix_rfl
  queries := CommonService.queries_getLogs common _ _ _ _
  reads := by
    refine ⟨number.value, resumes, ?_⟩
    have reads : Reads mirrorNode (Covered mirrorNode (logsOf filters) number.value)
        (common.getLogs (.hex number) .latest (addressOf filters) (topicsOf filters))
        (state.viewFrom number.value none) :=
      reads_getLogsToHead common (logsOf filters) number rfl rfl resumes.there
    apply Protocol.Keeps.weaken reads
    intro outcome later ⟨_, covers⟩
    exact covers

theorem Progresses.of_chain (start : after.start = before.start) (chain : after.chain = before.chain)
    (covered : after.covered = before.covered) : before.Progresses after where
  grown := chain ▸ List.prefix_rfl
  start := start
  covered := Nat.le_of_eq covered.symm

/-- A step that leaves the poll and the callback alone. -/
theorem Consistent.later (consistent : Consistent mirrorNode filters before) (progresses : before.Progresses after)
    (poller : after.poller = before.poller) (passed : after.passed = before.passed)
    (covered : after.covered = before.covered)
    (cached : ∀ number : HexNumber, after.cachedNumber = some number → number.value < after.chain.blocks.length)
    (ticks : ∀ tick ∈ after.ticks, Ticking after tick)
    (fetches : ∀ fetch ∈ after.fetches, Fetching mirrorNode filters after fetch) :
    Consistent mirrorNode filters after where
  polls := by
    obtain ⟨lastPolled, only, resumes⟩ := consistent.polls
    exact ⟨lastPolled, poller ▸ only, fun number same => (resumes number same).later progresses⟩
  latest number same := (consistent.latest number (poller ▸ same)).trans_le progresses.length_le
  cached := cached
  ticks := ticks
  fetches := fetches
  inside := covered ▸ consistent.inside.trans progresses.length_le
  delivered := by
    rw [covered, passed, progresses.start, FilterParams.changes_grown progresses.grown consistent.inside]
    exact consistent.delivered

theorem Consistent.produce (consistent : Consistent mirrorNode filters state) {chain : Chain}
    (grown : state.chain.blocks <+: chain.blocks) : Consistent mirrorNode filters { state with chain } := by
  have progresses : state.Progresses { state with chain } := { grown, start := rfl, covered := Nat.le_refl _ }
  apply consistent.later progresses rfl rfl rfl
  · exact fun number same => (consistent.cached number same).trans_le grown.length_le
  · exact fun tick member => (consistent.ticks tick member).later progresses
  · exact fun fetch member => (consistent.fetches fetch member).later progresses

/-- A step that changes only the cache and the ticks. -/
theorem Consistent.withTicks (consistent : Consistent mirrorNode filters state) {available : Bool}
    {cachedNumber : Option HexNumber} {ticks : List AskingNumber}
    (cached : ∀ number : HexNumber, cachedNumber = some number → number.value < state.chain.blocks.length)
    (ticking : ∀ tick ∈ ticks, Ticking state tick) :
    Consistent mirrorNode filters { state with available, cachedNumber, ticks } := by
  have progresses : state.Progresses { state with available, cachedNumber, ticks } := .of_chain rfl rfl rfl
  apply consistent.later progresses rfl rfl rfl cached
  · exact fun tick member => (ticking tick member).later progresses
  · exact fun fetch member => (consistent.fetches fetch member).later progresses

/-- A step that changes only the polls in progress. -/
theorem Consistent.withFetches (consistent : Consistent mirrorNode filters state) {fetches : List FetchingLogs}
    (fetching : ∀ fetch ∈ fetches, Fetching mirrorNode filters state fetch) :
    Consistent mirrorNode filters { state with fetches } := by
  have progresses : state.Progresses { state with fetches } := .of_chain rfl rfl rfl
  apply consistent.later progresses rfl rfl rfl consistent.cached
  · exact fun tick member => (consistent.ticks tick member).later progresses
  · exact fun fetch member => (fetching fetch member).later progresses

theorem Consistent.dropTick (consistent : Consistent mirrorNode filters state) (position : Nat) :
    Consistent mirrorNode filters (state.dropTick position) :=
  consistent.withTicks consistent.cached fun tick member => consistent.ticks tick (List.mem_of_mem_eraseIdx member)

theorem Consistent.dropFetch (consistent : Consistent mirrorNode filters state) (position : Nat) :
    Consistent mirrorNode filters (state.dropFetch position) :=
  consistent.withFetches fun fetch member => consistent.fetches fetch (List.mem_of_mem_eraseIdx member)

theorem Consistent.ticking_blockNumber (consistent : Consistent mirrorNode filters state) :
    Ticking state state.blockNumber := by
  unfold blockNumber
  cases cached : state.cachedNumber with
  | none => exact .inl rfl
  | some number =>
      refine .inr ⟨.ok number, rfl, ?_⟩
      rintro _ ⟨⟩
      exact consistent.cached number cached

/-- A tick asks for the number of the head. -/
theorem Consistent.askNumber (consistent : Consistent mirrorNode filters state) {position : Nat} {op : FilterOp}
    {next : op.Answer → AskingNumber} (found : state.ticks[position]? = some (.call op next)) :
    Consistent mirrorNode filters
      (state.withTick position (next ((state.viewFrom 0 none).perform mirrorNode op).1)) := by
  rcases consistent.ticks _ (List.mem_of_getElem? found) with asks | ⟨_, done, _⟩
  · obtain ⟨outcome, answered, known⟩ :=
      ticking_answered mirrorNode (state.viewFrom 0 none) asks.symm rfl
    rw [FilterState.perform, answered]
    have ticking : ∀ tick ∈ state.ticks.set position (.done outcome), Ticking state tick := by
      intro tick member
      rcases List.mem_or_eq_of_mem_set member with old | rfl
      · exact consistent.ticks tick old
      · exact .inr ⟨outcome, rfl, known⟩
    cases outcome with
    | error => exact consistent.withTicks consistent.cached ticking
    | ok number =>
        apply consistent.withTicks _ ticking
        rintro _ ⟨⟩
        exact known number rfl
  · cases done

/-- A poll asks its next query. -/
theorem Fetching.ask {tag : Tag} {op : FilterOp}
    {next : op.Answer → Prog FilterOp FilterOp.Answer (Except FilterError (List Log))} {view : FilterState}
    (fetching : Fetching mirrorNode filters state { tag, call := .call op next, view }) :
    Fetching mirrorNode filters state {
      tag
      call := next ((state.look { tag, call := .call op next, view }).perform mirrorNode op).1
      view := ((state.look { tag, call := .call op next, view }).perform mirrorNode op).2 } := by
  obtain ⟨query, asks⟩ := fetching.queries
  have absent := fetching.absent
  constructor
  · exact fetching.tag
  · exact (FilterState.record_filter query _).trans absent
  · rw [FilterState.perform, FilterState.record_chain]
    exact List.prefix_rfl
  · exact asks _
  · obtain ⟨first, resumes, keeps⟩ := fetching.reads
    have permitted : Unskipping mirrorNode (state.look { tag, call := .call op next, view }) op :=
      unskipping_of_none absent
    exact ⟨first, resumes, (keeps _ fetching.interferes trivial permitted).2.2⟩

theorem Consistent.askLogs (consistent : Consistent mirrorNode filters state) {position : Nat} {tag : Tag}
    {op : FilterOp} {next : op.Answer → Prog FilterOp FilterOp.Answer (Except FilterError (List Log))}
    {view : FilterState} (found : state.fetches[position]? = some { tag, call := .call op next, view }) :
    Consistent mirrorNode filters (state.withFetch position {
      tag
      call := next ((state.look { tag, call := .call op next, view }).perform mirrorNode op).1
      view := ((state.look { tag, call := .call op next, view }).perform mirrorNode op).2 }) := by
  apply consistent.withFetches
  intro fetch member
  rcases List.mem_or_eq_of_mem_set member with old | rfl
  · exact consistent.fetches fetch old
  · exact (consistent.fetches _ (List.mem_of_getElem? found)).ask

/-- The number of the head is known, and the polls begin. -/
theorem Consistent.poll (consistent : Consistent mirrorNode filters state) {number : HexNumber}
    (known : number.value < state.chain.blocks.length)
    (gapless : ∀ poll ∈ state.poller.polls, poll.lastPolled = none →
      Quiet mirrorNode filters state state.frontier number.value) :
    Consistent mirrorNode filters ((state.setLatestBlock number).poll common) := by
  obtain ⟨lastPolled, only, resumes⟩ := consistent.polls
  have progresses : state.Progresses ((state.setLatestBlock number).poll common) := .of_chain rfl rfl rfl
  have begun : ∃ first : HexNumber, fromBlockOf lastPolled (some number) = .hex first ∧
      Resumes mirrorNode filters state first.value := by
    cases polled : lastPolled with
    | some first => exact ⟨first, rfl, resumes first polled⟩
    | none =>
        refine ⟨number, rfl, known, gapless _ (only ▸ List.mem_singleton_self _) polled⟩
  obtain ⟨first, fromFirst, resumesFirst⟩ := begun
  have fetching : ∀ fetch ∈ ((state.setLatestBlock number).poll common).fetches,
      Fetching mirrorNode filters state fetch := by
    intro fetch member
    rcases List.mem_append.mp member with old | new
    · exact consistent.fetches fetch old
    · obtain ⟨poll, listed, fetched⟩ := List.mem_filterMap.mp new
      have polled : poll ∈ state.poller.polls := listed
      rw [only] at polled
      obtain rfl := List.mem_singleton.mp polled
      simp only [fetchOf, Poll.fetch, if_true, setLatestBlock, fromFirst, Option.some.injEq] at fetched
      rw [← fetched]
      exact fetching_getLogs resumesFirst
  constructor
  · exact ⟨lastPolled, only, fun first same => (resumes first same).later progresses⟩
  · rintro _ ⟨⟩
    exact known
  · exact consistent.cached
  · exact fun tick member => (consistent.ticks tick member).later progresses
  · exact fun fetch member => (fetching fetch member).later progresses
  · exact consistent.inside
  · exact consistent.delivered

/-- What a poll covers was passed before, or is among its logs. -/
theorem Consistent.changes_passed (consistent : Consistent mirrorNode filters state) {fetch : FetchingLogs}
    {logs : List Log} (resumes : Resumes mirrorNode filters state first)
    (covers : Covered mirrorNode (logsOf filters) first logs (state.look fetch)) :
    (FilterParams.log (logsOf filters)).changes mirrorNode state.chain state.start
        (max state.covered (fetch.view.queried.getD 0)) ⊆ (state.passed ++ logs).map Change.log := by
  intro change member
  rw [List.map_append, List.mem_append]
  obtain ⟨number, block, started, below, found, brought⟩ := FilterParams.mem_changes.mp member
  rcases Nat.lt_or_ge number state.covered with before | since
  · exact .inl (consistent.delivered (FilterParams.mem_changes.mpr ⟨number, block, started, before, found, brought⟩))
  · right
    cases queried : fetch.view.queried with
    | none =>
        rw [queried, Option.getD_none, Nat.max_zero] at below
        exact absurd below (Nat.not_lt_of_le since)
    | some covered =>
        rw [queried, Option.getD_some] at below
        have beyond : first ≤ number := by
          by_contra before
          have left : change ∈ (FilterParams.log (logsOf filters)).changes mirrorNode state.chain state.frontier first :=
            FilterParams.mem_changes.mpr
              ⟨number, block, Nat.max_le.mpr ⟨started, since⟩, Nat.lt_of_not_le before, found, brought⟩
          have quiet : (FilterParams.log (logsOf filters)).changes mirrorNode state.chain state.frontier first = [] :=
            resumes.quiet
          rw [quiet] at left
          cases left
        apply (covers covered queried).2
        exact FilterParams.mem_changes.mpr ⟨number, block, beyond, by omega, found, brought⟩

/-- The logs of a poll are there. -/
theorem Consistent.pass (consistent : Consistent mirrorNode filters state) {fetch : FetchingLogs} {logs : List Log}
    (fetching : Fetching mirrorNode filters state fetch) (answered : fetch.call = .done (.ok logs))
    (gapless : ∀ number : HexNumber, state.poller.latestBlock = some number →
      Quiet mirrorNode filters state (max state.frontier (fetch.view.queried.getD 0)) number.value) :
    Consistent mirrorNode filters (state.pass fetch logs) := by
  obtain ⟨lastPolled, only, resumes⟩ := consistent.polls
  obtain ⟨first, resumesFirst, keeps⟩ := fetching.reads
  rw [answered] at keeps
  have covers : Covered mirrorNode (logsOf filters) first logs (state.look fetch) :=
    keeps _ fetching.interferes logs rfl
  have progresses : state.Progresses (state.pass fetch logs) :=
    { grown := List.prefix_rfl, start := rfl, covered := Nat.le_max_left _ _ }
  have frontier : (state.pass fetch logs).frontier = max state.frontier (fetch.view.queried.getD 0) :=
    (Nat.max_assoc ..).symm
  constructor
  · refine ⟨state.poller.latestBlock, ?_, ?_⟩
    · simp only [PollingState.pass, PollerService.setLastPolled, only, List.map_cons, List.map_nil, fetching.tag, if_true]
    · intro number same
      refine ⟨consistent.latest number same, ?_⟩
      rw [frontier]
      exact gapless number same
  · exact consistent.latest
  · exact consistent.cached
  · exact fun tick member => (consistent.ticks tick member).later progresses
  · exact fun other member => (consistent.fetches other member).later progresses
  · apply Nat.max_le.mpr
    refine ⟨consistent.inside, ?_⟩
    cases queried : fetch.view.queried with
    | none => exact Nat.zero_le _
    | some covered => exact (covers covered queried).1
  · exact consistent.changes_passed resumesFirst covers

/-- A step without a gap keeps everything in place. -/
theorem Consistent.step (consistent : Consistent mirrorNode filters before) {label : PollingLabel}
    (gapless : Gapless mirrorNode filters before label) (taken : before.serve common mirrorNode label = some after) :
    Consistent mirrorNode filters after := by
  cases label with
  | produce block =>
      obtain ⟨chain, produced, rfl⟩ := Option.map_eq_some_iff.mp taken
      exact consistent.produce (Chain.grown_of_produce produced)
  | outage restored =>
      obtain rfl := Option.some.inj taken
      exact consistent.withTicks consistent.cached consistent.ticks
  | expire =>
      obtain rfl := Option.some.inj taken
      exact consistent.withTicks nofun consistent.ticks
  | cache number =>
      simp only [serve, Option.ite_none_right_eq_some, Option.some.injEq] at taken
      obtain ⟨known, rfl⟩ := taken
      apply consistent.withTicks _ consistent.ticks
      rintro _ ⟨⟩
      exact known
  | tick =>
      simp only [serve, Option.ite_none_right_eq_some, Option.some.injEq] at taken
      obtain ⟨_, rfl⟩ := taken
      apply consistent.withTicks consistent.cached
      intro tick member
      rcases List.mem_append.mp member with old | new
      · exact consistent.ticks tick old
      · rw [List.mem_singleton.mp new]
        exact consistent.ticking_blockNumber
  | askNumber position =>
      simp only [serve] at taken
      split at taken
      next op next found =>
        obtain rfl := Option.some.inj taken
        exact consistent.askNumber found
      next => cases taken
  | endTick position =>
      simp only [serve] at taken
      split at taken
      next number found =>
        obtain rfl := Option.some.inj taken
        have dropped := consistent.dropTick position
        have known : number.value < before.chain.blocks.length := by
          rcases consistent.ticks _ (List.mem_of_getElem? found) with asks | ⟨outcome, done, known⟩
          · cases asks
          · cases done
            exact known number rfl
        exact dropped.poll known (gapless number found)
      next =>
        obtain rfl := Option.some.inj taken
        exact consistent.dropTick position
      next => cases taken
  | askLogs position =>
      simp only [serve] at taken
      split at taken
      next tag op next view found =>
        obtain rfl := Option.some.inj taken
        exact consistent.askLogs found
      next => cases taken
  | endPoll position =>
      simp only [serve] at taken
      split at taken
      next tag logs view found =>
        obtain rfl := Option.some.inj taken
        have dropped := consistent.dropFetch position
        have fetching := (consistent.fetches _ (List.mem_of_getElem? found)).later
          (.of_chain rfl rfl rfl : before.Progresses (before.dropFetch position))
        exact dropped.pass fetching rfl fun number latest => gapless _ logs number found rfl latest
      next =>
        obtain rfl := Option.some.inj taken
        exact consistent.dropFetch position
      next => cases taken

private theorem consistent_accepted (chain : Chain) (pollingInterval : Nat) (newHeadsEnabled : Bool) :
    Consistent mirrorNode filters (accepted chain pollingInterval newHeadsEnabled filters) where
  polls := ⟨none, rfl, nofun⟩
  latest := nofun
  cached := nofun
  ticks := nofun
  fetches fetch member := absurd member List.not_mem_nil
  inside := Nat.zero_le _
  delivered := by
    intro change member
    obtain ⟨number, _, _, below, _⟩ := FilterParams.mem_changes.mp member
    exact absurd below (Nat.not_lt_zero number)

theorem Consistent.deliveredLogs (consistent : Consistent mirrorNode filters state) :
    state.Delivered mirrorNode filters := by
  intro number block started below found log inBlock isMatch
  have brought : Change.log (.ofMirrorNode log) ∈ (FilterParams.log (logsOf filters)).changesOf mirrorNode block :=
    List.mem_map_of_mem (List.mem_filter.mpr ⟨inBlock, isMatch⟩)
  obtain ⟨passed, member, same⟩ := List.mem_map.mp
    (consistent.delivered (FilterParams.mem_changes.mpr ⟨number, block, started, below, found, brought⟩))
  obtain rfl := Change.log.inj same
  exact member

private theorem inside_quietBlock : ∀ log ∈ [exampleLog], log.blockNumber = (quietBlock 1).number ∧
    (quietBlock 1).timestampFrom ≤ log.timestamp ∧ log.timestamp ≤ (quietBlock 1).timestampTo := by
  decide

def loggedBlock : MirrorNodeBlock :=
  { quietBlock 1 with
    logs := [exampleLog]
    ordered := List.pairwise_singleton _ _
    inside := inside_quietBlock }

/-- A block with a log is produced, and the poll of the next tick covers it. -/
def blockBeforeTick : List PollingLabel :=
  [.produce loggedBlock, .tick, .askNumber 0, .endTick 0, .askLogs 0, .askLogs 0, .askLogs 0, .askLogs 0, .endPoll 0]

/-- While the first poll waits for its logs two blocks are produced, the first of them with
a log; the next tick polls from the second one, and both polls succeed. -/
def blocksDuringPoll : List PollingLabel :=
  [.tick, .askNumber 0, .endTick 0, .askLogs 0, .askLogs 0, .askLogs 0, .askLogs 0, .produce loggedBlock,
    .produce (quietBlock 2), .expire, .tick, .askNumber 0, .endTick 0, .endPoll 0, .askLogs 0, .askLogs 0, .askLogs 0,
    .askLogs 0, .endPoll 0]

end PollingState

end HieroRelay.Ws
