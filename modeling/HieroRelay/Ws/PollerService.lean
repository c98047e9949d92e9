import HieroRelay.Filters.CommonService
import HieroRelay.Js.Value

/-! The poller of the WebSocket server: its list of polls, the timer that runs as long as
there is one, and what a poll asks the relay for. -/

namespace HieroRelay.Ws

open HieroRelay.Filters (AddressParam BlockParam HexNumber)
open HieroRelay.Js

/-- The JSON text of an event with its filters: equal texts have equal parts. -/
structure Tag where
  event : String
  filters : Option Json
  deriving Repr, DecidableEq

structure Poll where
  tag : Tag
  lastPolled : Option HexNumber
  deriving Repr, DecidableEq

/-- The state of the poller; a timer has its interval. -/
structure PollerService where
  polls : List Poll
  interval : Option Nat
  latestBlock : Option HexNumber
  pollingInterval : Nat
  newHeadsEnabled : Bool
  activePollsGauge : Int
  activeNewHeadsPollsGauge : Int
  deriving Repr, DecidableEq

def NEW_HEADS_EVENT : String := "newHeads"

namespace PollerService

variable (service : PollerService)

def new (pollingInterval : Nat) (newHeadsEnabled : Bool) : PollerService where
  polls := []
  interval := none
  latestBlock := none
  pollingInterval
  newHeadsEnabled
  activePollsGauge := 0
  activeNewHeadsPollsGauge := 0

def hasPoll (tag : Tag) : Bool := (service.polls.filter fun poll => poll.tag = tag).length ≠ 0

def isPolling : Bool := service.interval.isSome

def start : PollerService := { service with interval := some service.pollingInterval }

def stop : PollerService := if service.isPolling then { service with interval := none } else service

/-- The gauge of the kind of the event goes up, or down. -/
def count (event : String) (change : Int) : PollerService :=
  if event = NEW_HEADS_EVENT then
    { service with activeNewHeadsPollsGauge := service.activeNewHeadsPollsGauge + change }
  else { service with activePollsGauge := service.activePollsGauge + change }

def push (tag : Tag) : PollerService :=
  ({ service with polls := service.polls ++ [{ tag, lastPolled := none }] } : PollerService).count tag.event 1

def startIfStopped : PollerService := if service.isPolling then service else service.start

def stopIfIdle : PollerService := if service.polls = [] then service.stop else service

def add (tag : Tag) : PollerService :=
  if service.hasPoll tag then service.startIfStopped else (service.push tag).startIfStopped

def remove (tag : Tag) : PollerService :=
  let remaining := service.polls.filter fun poll => poll.tag ≠ tag
  let pollsRemoved := service.polls.length - remaining.length
  let removed : PollerService := { service with polls := remaining }
  (if pollsRemoved > 0 then removed.count tag.event (-pollsRemoved) else removed).stopIfIdle

end PollerService

/-- `filters?.[name] || null` -/
def filterField (filters : Option Json) (name : String) : Option Json :=
  match filters.bind fun filters => ownField filters name with
  | some field => if truthy (some field) then some field else none
  | none => none

def stringOf : Json → Option String
  | .str text => some text
  | _ => none

def addressOf (filters : Option Json) : AddressParam :=
  match filterField filters "address" with
  | some (.str address) => .one address
  | some (.arr addresses) => .many (addresses.filterMap stringOf)
  | _ => .absent

/-- The alternatives at a position of the topics. -/
def topicOf : Json → Option (List String)
  | .str topic => some [topic]
  | .arr topics => some (topics.filterMap stringOf)
  | _ => none

def topicsOf (filters : Option Json) : Option (List (Option (List String))) :=
  match filterField filters "topics" with
  | some (.arr topics) => some (topics.map topicOf)
  | _ => none

/-- `poll.lastPolled || this.latestBlock || 'latest'` -/
def fromBlockOf (lastPolled latestBlock : Option HexNumber) : BlockParam :=
  match lastPolled with
  | some number => .hex number
  | none =>
      match latestBlock with
      | some number => .hex number
      | none => .latest

/-- What a poll asks for. -/
inductive Fetch where
  | getLogs (fromBlock toBlock : BlockParam) (address : AddressParam) (topics : Option (List (Option (List String))))
  | getBlockByNumber (block : BlockParam) (showDetails : Option Json)
  | unsupported
  deriving Repr, DecidableEq

def Poll.fetch (poll : Poll) (service : PollerService) : Fetch :=
  if poll.tag.event = "logs" then
    .getLogs (fromBlockOf poll.lastPolled service.latestBlock) .latest (addressOf poll.tag.filters)
      (topicsOf poll.tag.filters)
  else if poll.tag.event = NEW_HEADS_EVENT ∧ service.newHeadsEnabled then
    .getBlockByNumber .latest (poll.tag.filters.bind fun filters => ownField filters "includeTransactions")
  else .unsupported

end HieroRelay.Ws
