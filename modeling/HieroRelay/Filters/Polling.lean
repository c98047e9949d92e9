import HieroRelay.Filters.Changes

/-! A filter that is created and polled, one call at a time, while blocks are produced
and the mirror node comes and goes between the operations of a call. -/

namespace HieroRelay.Filters

open HieroRelay.Lib

/-- The chain, whether the mirror node answers, and the cache entry of the filter; and two
records of the run: the first block that the filter is about, and how many blocks the
queries of the running poll covered. -/
structure FilterState where
  chain : Chain
  available : Bool
  filter : Option Filter
  start : Nat
  queried : Option Nat

/-- The block with which a filter starts: a tag of the head stands for the head of its
creation. -/
def FilterParams.startOf (chain : Chain) : FilterParams → Nat
  | .log params =>
      match params.fromBlock with
      | .hex number => number.value
      | .number value => value
      | .earliest => 0
      | _ => chain.blocks.length - 1
  | .newBlock blockAtCreation => blockAtCreation.value + 1

namespace FilterState

def ifAvailable {Answer : Type} (state : FilterState) (answer : Answer) : Option Answer :=
  if state.available then some answer else none

variable (mirrorNode : MirrorNode)

def answer (state : FilterState) : (op : FilterOp) → op.Answer
  | .getFilter => state.filter
  | .setFilter _ => ()
  | .getLatestBlock => state.ifAvailable state.chain.blocks.getLast?.toList
  | .getBlock number => state.ifAvailable state.chain.blocks[number]?
  | .getBlocks gt => state.ifAvailable (state.chain.blocks.filter fun block => gt < block.number)
  | .getContractResultsLogs address params => state.ifAvailable (mirrorNode.logsOf address params state.chain)

/-- A block that is missing shows where the chain ends. -/
def record (state : FilterState) : FilterOp → FilterState
  | .setFilter filter =>
      { state with
        filter := some filter
        start := if state.filter.isNone then filter.params.startOf state.chain else state.start }
  | .getBlock number =>
      { state with
        queried := if state.available && state.chain.blocks[number]?.isNone then some state.chain.blocks.length
          else state.queried }
  | .getBlocks _ => { state with queried := some state.chain.blocks.length }
  | .getContractResultsLogs _ params => { state with queried := some (params.covered state.chain) }
  | _ => state

def perform (op : FilterOp) (state : FilterState) : op.Answer × FilterState :=
  (state.answer mirrorNode op, state.record op)

theorem record_chain (state : FilterState) (op : FilterOp) : (state.record op).chain = state.chain := by
  cases op <;> rfl

/-- The blocks in between bring nothing to the filter. -/
def NothingBetween (state : FilterState) (first last : Nat) : Prop :=
  ∀ filter, state.filter = some filter → filter.params.changes mirrorNode state.chain first last = []

end FilterState

/-- A filter that was not polled yet and still carries a tag of the head. -/
def Filter.FollowsHead (filter : Filter) : Prop :=
  filter.lastQueried = none ∧
    ∃ params, filter.params = .log params ∧ params.fromBlock.blockTagIsLatestOrPending = true

/-- The condition on a query: the head that is asked for after the data, or by a filter
that follows the head, has not moved past a change; and logs are asked for in their order. -/
def Unskipping (mirrorNode : MirrorNode) (state : FilterState) : FilterOp → Prop
  | .getLatestBlock => state.available = true →
      (∀ covered, state.queried = some covered →
        state.NothingBetween mirrorNode covered state.chain.blocks.length) ∧
      ∀ filter, state.filter = some filter → filter.FollowsHead → state.queried = none →
        state.NothingBetween mirrorNode state.start (state.chain.blocks.length - 1)
  | .getContractResultsLogs (some _) params => ∀ filter logParams addresses, state.filter = some filter →
      filter.params = .log logParams → logParams.address = .many addresses →
      InLogOrder mirrorNode params state.chain addresses
  | _ => True

/-- What a call answers. -/
inductive Response where
  | created
  | changes (changes : List Change)
  deriving Repr, DecidableEq

inductive FilterRequest where
  | newFilter (params : INewFilterParams)
  | newBlockFilter
  deriving Repr, DecidableEq

abbrev Call := Prog FilterOp FilterOp.Answer (Except FilterError Response)

/-- The state, the call that is running, the results of all polls that succeeded and how
many blocks the last of them covered. -/
structure Session where
  state : FilterState
  call : Option Call
  delivered : List Change
  seen : Nat

inductive SessionLabel where
  | produce (block : MirrorNodeBlock)
  | outage (restored : Bool)
  | getFilterChanges
  | operate

namespace Session

/-- What is left of a call that came to a state; its result is delivered when it is done. -/
def advance (session : Session) (state : FilterState) (call : Call) : Session :=
  match call with
  | .done (.ok (.changes changes)) =>
      { state, call := none, delivered := session.delivered ++ changes, seen := state.queried.getD session.seen }
  | .done _ => { session with state, call := none }
  | .call op next => { session with state, call := some (.call op next) }

variable (service : FilterService) (mirrorNode : MirrorNode)

def serve (session : Session) : SessionLabel → Option Session
  | .produce block => (session.state.chain.produce block).map fun chain =>
      { session with state := { session.state with chain } }
  | .outage restored => some { session with state := { session.state with available := restored } }
  | .getFilterChanges =>
      match session.call with
      | none => some (session.advance { session.state with queried := none }
          (Response.changes <$> service.getFilterChanges).run)
      | some _ => none
  | .operate =>
      match session.call with
      | some (.call op next) => some (session.advance (session.state.perform mirrorNode op).2
          (next (session.state.perform mirrorNode op).1))
      | _ => none

/-- The creation of the filter. -/
def creation : FilterRequest → Call
  | .newFilter params => ((fun _ => Response.created) <$> service.newFilter params).run
  | .newBlockFilter => ((fun _ => Response.created) <$> service.newBlockFilter).run

/-- A session begins with the creation. -/
def initial (chain : Chain) (request : FilterRequest) : Session :=
  let state := { chain, available := true, filter := none, start := 0, queried := none }
  advance { state, call := none, delivered := [], seen := 0 } state (creation service request)

/-- What was delivered is what the filter is about, from its start to the head that the
last successful poll saw, each change once and in chain order. -/
def ExactlyOnce (session : Session) : Prop :=
  ∀ filter, session.state.filter = some filter →
    session.delivered = filter.params.changes mirrorNode session.state.chain session.state.start session.seen

/-- The next operation meets the condition. -/
def NextUnskipping (session : Session) : SessionLabel → Prop
  | .operate => ∀ op next, session.call = some (.call op next) → Unskipping mirrorNode session.state op
  | _ => True

end Session

end HieroRelay.Filters
