import HieroRelay.Lib.Table
import HieroRelay.Ws.PollerService

/-! The subscription service of the WebSocket server: the subscribers of each tag, and the
poller that has a poll for every tag with subscribers. -/

namespace HieroRelay.Ws

open HieroRelay.Js
open HieroRelay.Lib (Table)

/-- A connection is known by its identifier. -/
structure Subscriber where
  connection : String
  subscriptionId : String
  deriving Repr, DecidableEq

/-- The subscriber belongs to the connection, and has the identifier where one is given. -/
def Subscriber.matches (sub : Subscriber) (connection : String) (subId : Option Json) : Bool :=
  sub.connection = connection ∧ (!truthy subId || isString subId sub.subscriptionId)

structure SubscriptionService where
  pollerService : PollerService
  subscriptions : Table Tag (List Subscriber)
  sameSubForSameEvent : Bool

/-- `Object.keys(filters).length` -/
def keysLength : Json → Nat
  | .obj fields => fields.length
  | .arr items => items.length
  | .str text => text.length
  | _ => 0

/-- Filters without keys are left out. -/
def tagOf (event : String) (filters : Option Json) : Tag where
  event
  filters := filters.filter fun filters => truthy (some filters) && keysLength filters ≠ 0

namespace SubscriptionService

variable (service : SubscriptionService)

def new (pollingInterval : Nat) (newHeadsEnabled sameSubForSameEvent : Bool) : SubscriptionService where
  pollerService := .new pollingInterval newHeadsEnabled
  subscriptions := .empty
  sameSubForSameEvent

def subscribersOf (tag : Tag) : List Subscriber := (service.subscriptions.get tag).getD []

def withTag (tag : Tag) : SubscriptionService :=
  if (service.subscriptions.get tag).isNone then
    { service with subscriptions := service.subscriptions.assign tag [] }
  else service

/-- The subscription of the connection that is used again, where that is configured. -/
def existingSub (connection : String) (tag : Tag) : Option Subscriber :=
  if service.sameSubForSameEvent then (service.subscribersOf tag).find? fun sub => sub.connection = connection
  else none

def insert (tag : Tag) (sub : Subscriber) : SubscriptionService :=
  { service with
    subscriptions := service.subscriptions.assign tag (service.subscribersOf tag ++ [sub])
    pollerService := service.pollerService.add tag }

/-- The new identifier is a random one. -/
def subscribe (connection event : String) (filters : Option Json) (generatedId : String) :
    SubscriptionService × String :=
  let tag := tagOf event filters
  let service := service.withTag tag
  match service.existingSub connection tag with
  | some existingSub => (service, existingSub.subscriptionId)
  | none => (service.insert tag { connection, subscriptionId := generatedId }, generatedId)

/-- A tag without subscribers is dropped with its poll. -/
def dropIfEmpty (tag : Tag) : SubscriptionService :=
  if service.subscribersOf tag = [] then
    { service with
      subscriptions := service.subscriptions.erase tag
      pollerService := service.pollerService.remove tag }
  else service

/-- The body of the loop, with the number of subscriptions that were removed so far. -/
def unsubscribeTag (connection : String) (subId : Option Json) (progress : SubscriptionService × Nat)
    (entry : Tag × List Subscriber) : SubscriptionService × Nat :=
  let (service, subCount) := progress
  let (tag, subs) := entry
  let remaining := subs.filter fun sub => !sub.matches connection subId
  ({ service with subscriptions := service.subscriptions.assign tag remaining }.dropIfEmpty tag,
    subCount + subs.countP fun sub => sub.matches connection subId)

/-- The loop goes over the entries as they were at its start. -/
def unsubscribe (connection : String) (subId : Option Json) : SubscriptionService × Nat :=
  service.subscriptions.entries.foldl (unsubscribeTag connection subId) (service, 0)

end SubscriptionService

end HieroRelay.Ws
