import HieroRelay.Ws.JsonRpcController
import HieroRelay.Ws.SubscriptionService

/-! The requests of the two subscription methods, from one `await` to the next, while the
requests of all connections interleave and connections close. -/

namespace HieroRelay.Ws

open HieroRelay.Js HieroRelay.Server
open HieroRelay.Lib (Table)

inductive SubscriptionMethod where
  | eth_subscribe
  | eth_unsubscribe
  deriving Repr, DecidableEq

structure SubscriptionRequest where
  id : Option Json
  method : SubscriptionMethod
  params : Json
  deriving Repr, DecidableEq

/-- What a request awaits: the rate limiter, the validation of its filters, or its own
handler, after which it is counted. -/
inductive Phase where
  | rateLimit
  | validation (filters : Json)
  | counting
  deriving Repr, DecidableEq

structure InProgress where
  connection : String
  request : SubscriptionRequest
  phase : Phase
  deriving Repr, DecidableEq

/-- The configuration of the server with the limit on subscriptions. -/
structure SubscriptionServer extends WsServer where
  wsSubscriptionLimit : Nat

/-- The service, the counter of each connection, the requests in progress and the
connections whose close handler has run. -/
structure ServerState where
  subscriptionService : SubscriptionService
  subscriptions : String → Int
  inProgress : Table Nat InProgress
  closed : List String

namespace ServerState

variable (state : ServerState)

def initial (pollingInterval : Nat) (newHeadsEnabled sameSubForSameEvent : Bool) : ServerState where
  subscriptionService := .new pollingInterval newHeadsEnabled sameSubForSameEvent
  subscriptions := fun _ => 0
  inProgress := .empty
  closed := []

def changeSubs (connection : String) (amount : Int) : ServerState :=
  { state with subscriptions := Function.update state.subscriptions connection (state.subscriptions connection + amount) }

def incrementSubs (connection : String) : ServerState := state.changeSubs connection 1

def decrementSubs (connection : String) (amount : Nat) : ServerState := state.changeSubs connection (-amount)

def subscribe (connection event : String) (filters : Option Json) (generatedId : String) : ServerState :=
  { state with
    subscriptionService := (state.subscriptionService.subscribe connection event filters generatedId).1 }

/-- The request is answered. -/
def finish (id : Nat) : ServerState := { state with inProgress := state.inProgress.erase id }

/-- The request awaits something. -/
def await (id : Nat) (running : InProgress) : ServerState :=
  { state with inProgress := state.inProgress.assign id running }

/-- The subscriptions that match are removed and taken off the counter. -/
def handleEthUnsubscribe (connection : String) (subId : Option Json) : ServerState :=
  let (subscriptionService, unsubbedCount) := state.subscriptionService.unsubscribe connection subId
  { state with subscriptionService }.decrementSubs connection unsubbedCount

/-- The close handler leaves the counter of the connection as it is. -/
def handleConnectionClose (connection : String) : ServerState :=
  { state with
    subscriptionService := (state.subscriptionService.unsubscribe connection none).1
    closed := connection :: state.closed }

end ServerState

/-- The subscription that a step of a request makes: its event and filters. -/
structure NewSubscription where
  event : String
  filters : Option Json

/-- What a request does when it goes on: it ends, awaits the validation of its filters, or
subscribes. -/
inductive Handling where
  | ends
  | validates (filters : Json)
  | subscribes (subscription : NewSubscription)

namespace SubscriptionServer

variable (server : SubscriptionServer) (state : ServerState)

def validateSubscriptionLimit (connection : String) : Bool :=
  state.subscriptions connection < server.wsSubscriptionLimit

/-- `handleEthSubscribe` up to its first `await`, after the check of the limit. -/
def handleEthSubscribe (connection : String) (params : Json) : Handling :=
  if !server.validateSubscriptionLimit state connection then .ends
  else if !server.subscriptionsEnabled then .ends
  else if isString (elementAt params 0) "logs" then
    match WsServer.constructValidLogSubscriptionFilter (elementAt params 1) with
    | .ok validFiltersObject => .validates validFiltersObject
    | .error _ => .ends
  else if isString (elementAt params 0) "newHeads" then
    if server.wsNewHeadsEnabled then .subscribes { event := "newHeads", filters := elementAt params 1 } else .ends
  else .ends

/-- `handleEthSubscribeLogs` after the validation. -/
def handleValidated (filters : Json) (valid : Bool) : Handling :=
  if !valid then .ends
  else if !server.wsMultipleAddressesEnabled && WsServer.hasManyAddresses filters then .ends
  else .subscribes { event := "logs", filters := some filters }

/-- The response has the identifier of the request, and `jsonResp` throws where it cannot. -/
def respondsTo (request : SubscriptionRequest) : Bool := (ResponseId.ofJson request.id).isSome

/-- The rest of a request after the rate limiter let it pass. -/
def afterRateLimit (id : Nat) (running : InProgress) (generatedId : String) : ServerState :=
  match running.request.method with
  | .eth_unsubscribe =>
      if server.subscriptionsEnabled then
        (state.finish id).handleEthUnsubscribe running.connection (elementAt running.request.params 0)
      else state.finish id
  | .eth_subscribe =>
      match server.handleEthSubscribe state running.connection running.request.params with
      | .ends => state.finish id
      | .validates filters => state.await id { running with phase := .validation filters }
      | .subscribes subscription =>
          let subscribed := (state.finish id).subscribe running.connection subscription.event subscription.filters
            generatedId
          if respondsTo running.request then subscribed.incrementSubs running.connection else subscribed

def afterValidation (id : Nat) (running : InProgress) (filters : Json) (valid : Bool) (generatedId : String) :
    ServerState :=
  match server.handleValidated filters valid with
  | .subscribes subscription =>
      let left := if respondsTo running.request then state.await id { running with phase := .counting }
        else state.finish id
      left.subscribe running.connection subscription.event subscription.filters generatedId
  | _ => state.finish id

end SubscriptionServer

/-- A request comes in, goes on with what it awaited, or a connection closes. A new
subscription would have the identifier that is generated. -/
inductive ServerLabel where
  | receive (id : Nat) (connection : String) (request : SubscriptionRequest)
  | resume (id : Nat) (valid : Bool) (generatedId : String)
  | close (connection : String)

namespace SubscriptionServer

variable (server : SubscriptionServer)

def resume (state : ServerState) (id : Nat) (running : InProgress) (valid : Bool)
    (generatedId : String) : ServerState :=
  match running.phase with
  | .rateLimit => server.afterRateLimit state id running generatedId
  | .validation filters => server.afterValidation state id running filters valid generatedId
  | .counting => (state.finish id).incrementSubs running.connection

/-- Closed connections send nothing. -/
def serve (state : ServerState) : ServerLabel → Option ServerState
  | .receive id connection request =>
      if (state.inProgress.get id).isSome ∨ connection ∈ state.closed then none
      else some (state.await id { connection, request, phase := .rateLimit })
  | .resume id valid generatedId =>
      (state.inProgress.get id).map fun running => server.resume state id running valid generatedId
  | .close connection => if connection ∈ state.closed then none else some (state.handleConnectionClose connection)

/-- The subscription that a request makes when it goes on. -/
def subscriptionOf (state : ServerState) (running : InProgress) (valid : Bool) : Option NewSubscription :=
  match running.phase, running.request.method with
  | .rateLimit, .eth_subscribe =>
      match server.handleEthSubscribe state running.connection running.request.params with
      | .subscribes subscription => some subscription
      | _ => none
  | .validation filters, _ =>
      match server.handleValidated filters valid with
      | .subscribes subscription => some subscription
      | _ => none
  | _, _ => none

end SubscriptionServer

end HieroRelay.Ws
