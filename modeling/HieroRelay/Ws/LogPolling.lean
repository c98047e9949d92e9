import HieroRelay.Filters.Changes
import HieroRelay.Filters.Polling
import HieroRelay.Ws.PollerService

/-! The polls for logs while blocks are produced: the ticks of the timer, which may
overlap, and the queries that each of them starts. -/

namespace HieroRelay.Ws

open HieroRelay.Filters
open HieroRelay.Lib

/-- A tick that waits for the number of the head. -/
abbrev AskingNumber := Prog FilterOp FilterOp.Answer (Except FilterError HexNumber)

/-- A poll that waits for its logs; the view records what its queries covered. -/
structure FetchingLogs where
  tag : Tag
  call : Prog FilterOp FilterOp.Answer (Except FilterError (List Log))
  view : FilterState

/-- The chain, the poller with its ticks and polls in progress, the cache entry of
`eth_blockNumber`, and what was passed to the callback; and two records of the run: the first
block after the subscription, and how many blocks the polls that succeeded covered. -/
structure PollingState where
  chain : Chain
  available : Bool
  poller : PollerService
  cachedNumber : Option HexNumber
  ticks : List AskingNumber
  fetches : List FetchingLogs
  passed : List Log
  start : Nat
  covered : Nat

inductive PollingLabel where
  | produce (block : MirrorNodeBlock)
  | outage (restored : Bool)
  | expire
  | cache (number : HexNumber)
  | tick
  | askNumber (position : Nat)
  | endTick (position : Nat)
  | askLogs (position : Nat)
  | endPoll (position : Nat)

/-- `poll.lastPolled = this.latestBlock` -/
def PollerService.setLastPolled (service : PollerService) (tag : Tag) : PollerService :=
  { service with
    polls := service.polls.map fun poll =>
      if poll.tag = tag then { poll with lastPolled := service.latestBlock } else poll }

namespace PollingState

variable (common : CommonService) (mirrorNode : MirrorNode) (state : PollingState)

/-- What a query sees now, the first block of its range apart. -/
def viewFrom (first : Nat) (queried : Option Nat) : FilterState where
  chain := state.chain
  available := state.available
  filter := none
  start := first
  queried

/-- `eth_blockNumber`, with its cache. -/
def blockNumber : AskingNumber :=
  match state.cachedNumber with
  | some number => .done (.ok number)
  | none => CommonService.getLatestBlockNumber.run

/-- The number is cached when it is known. -/
def remember : AskingNumber → PollingState
  | .done (.ok number) => { state with cachedNumber := some number }
  | _ => state

/-- Where the query of a poll begins; `latest` stands for the head. -/
def firstOf (fromBlock : BlockParam) : Nat := fromBlock.toNumber.getD (state.chain.blocks.length - 1)

def fetchOf (poll : Poll) : Option FetchingLogs :=
  match poll.fetch state.poller with
  | .getLogs fromBlock toBlock address topics => some {
      tag := poll.tag
      call := (common.getLogs fromBlock toBlock address topics).run
      view := state.viewFrom (state.firstOf fromBlock) none }
  | _ => none

/-- Every poll begins its query. -/
def poll : PollingState :=
  { state with fetches := state.fetches ++ state.poller.polls.filterMap (state.fetchOf common) }

/-- The number of the head is known; then the polls begin. -/
def setLatestBlock (number : HexNumber) : PollingState :=
  { state with poller := { state.poller with latestBlock := some number } }

/-- The logs of a poll are there: the poll goes on from the latest block, and the logs are
passed to the callback. -/
def pass (fetch : FetchingLogs) (logs : List Log) : PollingState :=
  { state with
    poller := state.poller.setLastPolled fetch.tag
    passed := state.passed ++ logs
    covered := max state.covered (fetch.view.queried.getD 0) }

def dropTick (position : Nat) : PollingState := { state with ticks := state.ticks.eraseIdx position }

def dropFetch (position : Nat) : PollingState := { state with fetches := state.fetches.eraseIdx position }

def withTick (position : Nat) (tick : AskingNumber) : PollingState :=
  ({ state with ticks := state.ticks.set position tick } : PollingState).remember tick

/-- The fetch sees the chain of its query. -/
def look (fetch : FetchingLogs) : FilterState :=
  { fetch.view with chain := state.chain, available := state.available }

def withFetch (position : Nat) (fetch : FetchingLogs) : PollingState :=
  { state with fetches := state.fetches.set position fetch }

def serve (state : PollingState) : PollingLabel → Option PollingState
  | .produce block => (state.chain.produce block).map fun chain => { state with chain }
  | .outage restored => some { state with available := restored }
  | .expire => some { state with cachedNumber := none }
  -- another request asked for the number of the head, maybe some time ago
  | .cache number =>
      if number.value < state.chain.blocks.length then some { state with cachedNumber := some number } else none
  | .tick => if state.poller.isPolling then some { state with ticks := state.ticks ++ [state.blockNumber] } else none
  | .askNumber position =>
      match state.ticks[position]? with
      | some (.call op next) =>
          some (state.withTick position (next ((state.viewFrom 0 none).perform mirrorNode op).1))
      | _ => none
  | .endTick position =>
      match state.ticks[position]? with
      | some (.done (.ok number)) => some (((state.dropTick position).setLatestBlock number).poll common)
      | some (.done (.error _)) => some (state.dropTick position)
      | _ => none
  | .askLogs position =>
      match state.fetches[position]? with
      | some { tag, call := .call op next, view } =>
          let asked := (state.look { tag, call := .call op next, view }).perform mirrorNode op
          some (state.withFetch position { tag, call := next asked.1, view := asked.2 })
      | _ => none
  | .endPoll position =>
      match state.fetches[position]? with
      | some { tag, call := .done (.ok logs), view } =>
          some ((state.dropFetch position).pass { tag, call := .done (.ok logs), view } logs)
      | some { call := .done (.error _), .. } => some (state.dropFetch position)
      | _ => none

/-- The subscription is accepted: its poll is the only one. -/
def accepted (chain : Chain) (pollingInterval : Nat) (newHeadsEnabled : Bool) (filters : Option Js.Json) :
    PollingState where
  chain
  available := true
  poller := (PollerService.new pollingInterval newHeadsEnabled).add { event := "logs", filters }
  cachedNumber := none
  ticks := []
  fetches := []
  passed := []
  start := chain.blocks.length
  covered := 0

end PollingState

/-- What the subscription asks for. -/
def logsOf (filters : Option Js.Json) : LogFilterParams where
  fromBlock := .latest
  toBlock := .latest
  address := addressOf filters
  topics := topicsOf filters

/-- Every log that matches, in a block after the subscription that a poll covered, was
passed to the callback. -/
def PollingState.Delivered (mirrorNode : MirrorNode) (filters : Option Js.Json) (state : PollingState) : Prop :=
  ∀ number block, state.start ≤ number → number < state.covered → state.chain.blocks[number]? = some block →
    ∀ log ∈ block.logs, (logsOf filters).matchesLog mirrorNode log = true → Log.ofMirrorNode log ∈ state.passed

end HieroRelay.Ws
