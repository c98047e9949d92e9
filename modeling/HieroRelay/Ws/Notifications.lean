import HieroRelay.Js.Text
import HieroRelay.Lib.Once
import HieroRelay.Ws.SubscriptionService

/-! What the subscribers are sent. The subscription service remembers the hashes of its messages,
since the polls of a tag overlap and find the same results again. The package `lru-cache` is a
parameter. -/

namespace HieroRelay.Ws

open HieroRelay.Js (Json stringify)
open HieroRelay.Lib (Crowds Expired LruCache LruOrder Offer)

/-- A message that a subscriber is meant to get, and whether it was sent. -/
structure Delivery where
  tag : Tag
  sub : Subscriber
  result : Option Json
  time : Nat
  sent : Bool

inductive NotifierLabel where
  | advance (milliseconds : Nat)
  | subscribe (connection event : String) (filters : Option Json) (generatedId : String)
  | unsubscribe (connection : String) (subId : Option Json)
  | notifySubscribers (tag : Tag) (data : Option Json)

/-- The time to live of the cache in milliseconds, with the hash and the text of numbers. -/
structure NotifierConfig (Hash : Type) where
  CACHE_TTL : Nat
  createHash : String → Hash
  numberToString : Rat → String

/-- The subscription service with its cache. The deliveries are noted down in their order. -/
structure Notifier {Hash : Type} [DecidableEq Hash] {CACHE_MAX : Nat} (lru : LruCache Hash Bool CACHE_MAX) where
  subscriptionService : SubscriptionService
  cache : lru.State
  now : Nat
  deliveries : List Delivery

namespace Notifier

section Steps
variable {Hash : Type} (config : NotifierConfig Hash)

/-- `JSON.stringify(subscriptionData)`, where a result that is undefined is left out. -/
def subscriptionText (subscriptionId : String) (result : Option Json) : String :=
  stringify config.numberToString
    (.obj ((result.map fun data => ("result", data)).toList ++ [("subscription", .str subscriptionId)]))

/-- The hash of what a subscriber is sent. -/
def hashOf (subscriptionId : String) (result : Option Json) : Hash :=
  config.createHash (subscriptionText config subscriptionId result)

variable [DecidableEq Hash] {CACHE_MAX : Nat} {lru : LruCache Hash Bool CACHE_MAX}

def initial (lru : LruCache Hash Bool CACHE_MAX) (subscriptionService : SubscriptionService) : Notifier lru where
  subscriptionService
  cache := lru.empty
  now := 0
  deliveries := []

def deliveryTo (notifier : Notifier lru) (tag : Tag) (data : Option Json) (sub : Subscriber) : Delivery where
  tag
  sub
  result := data
  time := notifier.now
  sent := (lru.offer config.CACHE_TTL notifier.cache notifier.now (hashOf config sub.subscriptionId data)).1

/-- The body of the loop over the subscribers of a tag. -/
def notify (tag : Tag) (data : Option Json) (notifier : Notifier lru) (sub : Subscriber) :
    Notifier lru :=
  { notifier with
    cache := (lru.offer config.CACHE_TTL notifier.cache notifier.now (hashOf config sub.subscriptionId data)).2
    deliveries := notifier.deliveries ++ [notifier.deliveryTo config tag data sub] }

def notifySubscribers (notifier : Notifier lru) (tag : Tag) (data : Option Json) :
    Notifier lru :=
  (notifier.subscriptionService.subscribersOf tag).foldl (notify config tag data) notifier

def serve (notifier : Notifier lru) : NotifierLabel → Notifier lru
  | .advance milliseconds => { notifier with now := notifier.now + milliseconds }
  | .subscribe connection event filters generatedId =>
      { notifier with
        subscriptionService := (notifier.subscriptionService.subscribe connection event filters generatedId).1 }
  | .unsubscribe connection subId =>
      { notifier with subscriptionService := (notifier.subscriptionService.unsubscribe connection subId).1 }
  | .notifySubscribers tag data => notifier.notifySubscribers config tag data

def after (lru : LruCache Hash Bool CACHE_MAX) (subscriptionService : SubscriptionService)
    (labels : List NotifierLabel) : Notifier lru :=
  labels.foldl (serve config) (initial lru subscriptionService)

end Steps

end Notifier

/-- A delivery as an offer to the cache. -/
def Delivery.offer {Hash : Type} (config : NotifierConfig Hash) (delivery : Delivery) : Offer Hash where
  key := Notifier.hashOf config delivery.sub.subscriptionId delivery.result
  time := delivery.time
  passed := delivery.sent

namespace Notifier

variable {Hash : Type} [DecidableEq Hash] {config : NotifierConfig Hash} {CACHE_MAX : Nat}
  {lru : LruCache Hash Bool CACHE_MAX} {notifier : Notifier lru} {subscriptionService : SubscriptionService}

/-- What the cache remembers of the deliveries. -/
def Remembers (config : NotifierConfig Hash) (notifier : Notifier lru) : Prop :=
  (lru.order notifier.cache).Remembers config.CACHE_TTL (notifier.deliveries.map (Delivery.offer config)) notifier.now

theorem Remembers.notify (remembers : notifier.Remembers config) (tag : Tag) (data : Option Json)
    (sub : Subscriber) : (notify config tag data notifier sub).Remembers config := by
  have offered := lru.remembers_offer remembers (hashOf config sub.subscriptionId data)
  unfold Remembers
  rw [show (Notifier.notify config tag data notifier sub).deliveries.map (Delivery.offer config) = _ from
    List.map_append]
  exact offered

theorem Remembers.notifySubscribers (remembers : notifier.Remembers config) (tag : Tag) (data : Option Json) :
    (notifier.notifySubscribers config tag data).Remembers config := by
  unfold Notifier.notifySubscribers
  generalize notifier.subscriptionService.subscribersOf tag = subscribers
  induction subscribers generalizing notifier with
  | nil => exact remembers
  | cons sub others ih => exact ih (remembers.notify tag data sub)

/-- Every step keeps what is remembered of the deliveries. -/
theorem Remembers.serve (remembers : notifier.Remembers config) (label : NotifierLabel) :
    (notifier.serve config label).Remembers config := by
  cases label with
  | advance milliseconds => exact LruOrder.Remembers.wait remembers (Nat.le_add_right _ _)
  | subscribe connection event filters generatedId => exact remembers
  | unsubscribe connection subId => exact remembers
  | notifySubscribers tag data => exact remembers.notifySubscribers tag data

theorem remembers_after (config : NotifierConfig Hash) (lru : LruCache Hash Bool CACHE_MAX)
    (subscriptionService : SubscriptionService) (labels : List NotifierLabel) :
    (after config lru subscriptionService labels).Remembers config := by
  induction labels using List.reverseRecOn with
  | nil =>
    unfold Remembers
    rw [show (after config lru subscriptionService []).cache = lru.empty from rfl, lru.order_empty]
    exact LruOrder.Remembers.empty _ _
  | append_singleton labels label ih =>
    rw [after, List.foldl_append]
    exact ih.serve label

theorem after_append (labels : List NotifierLabel) (label : NotifierLabel) :
    after config lru subscriptionService (labels ++ [label]) =
      (after config lru subscriptionService labels).serve config label := by
  rw [after, List.foldl_append]
  rfl

/-- A notification is one delivery for each subscriber of the tag, and leaves the rest as it is. -/
theorem foldl_notify (config : NotifierConfig Hash) (notifier : Notifier lru) (tag : Tag)
    (data : Option Json) (subscribers : List Subscriber) :
    ∃ deliveries, (subscribers.foldl (notify config tag data) notifier).deliveries =
        notifier.deliveries ++ deliveries ∧
      deliveries.map Delivery.sub = subscribers ∧
      ∀ delivery ∈ deliveries, delivery.tag = tag ∧ delivery.result = data ∧ delivery.time = notifier.now := by
  induction subscribers generalizing notifier with
  | nil => exact ⟨[], (List.append_nil _).symm, rfl, List.forall_mem_nil _⟩
  | cons sub others ih =>
    obtain ⟨deliveries, appended, subs, facts⟩ := ih (notify config tag data notifier sub)
    refine ⟨notifier.deliveryTo config tag data sub :: deliveries, ?_, ?_, ?_⟩
    · rw [List.foldl_cons, appended, Notifier.notify, List.append_assoc]
      rfl
    · rw [List.map_cons, subs, deliveryTo]
    · exact List.forall_mem_cons.mpr ⟨⟨rfl, rfl, rfl⟩, facts⟩

/-- Deliveries are only added, and what is added was notified. -/
theorem deliveries_serve (config : NotifierConfig Hash) (notifier : Notifier lru)
    (label : NotifierLabel) :
    ∃ deliveries, (notifier.serve config label).deliveries = notifier.deliveries ++ deliveries ∧
      (∀ delivery ∈ deliveries, label = .notifySubscribers delivery.tag delivery.result ∧
        delivery.time = notifier.now ∧ delivery.sub ∈ notifier.subscriptionService.subscribersOf delivery.tag) ∧
      ∀ tag data, label = .notifySubscribers tag data →
        ∀ sub ∈ notifier.subscriptionService.subscribersOf tag, ∃ delivery ∈ deliveries,
          delivery.tag = tag ∧ delivery.sub = sub ∧ delivery.result = data ∧ delivery.time = notifier.now := by
  cases label with
  | advance milliseconds =>
    refine ⟨[], (List.append_nil _).symm, List.forall_mem_nil _, ?_⟩
    intro tag data same
    cases same
  | subscribe connection event filters generatedId =>
    refine ⟨[], (List.append_nil _).symm, List.forall_mem_nil _, ?_⟩
    intro tag data same
    cases same
  | unsubscribe connection subId =>
    refine ⟨[], (List.append_nil _).symm, List.forall_mem_nil _, ?_⟩
    intro tag data same
    cases same
  | notifySubscribers tag data =>
    obtain ⟨deliveries, appended, subs, facts⟩ := foldl_notify config notifier tag data
      (notifier.subscriptionService.subscribersOf tag)
    refine ⟨deliveries, appended, ?_, ?_⟩
    · intro delivery member
      obtain ⟨rfl, rfl, time⟩ := facts delivery member
      exact ⟨rfl, time, subs ▸ List.mem_map_of_mem member⟩
    · intro _ _ same sub member
      cases same
      rw [← subs] at member
      obtain ⟨delivery, added, rfl⟩ := List.mem_map.mp member
      obtain ⟨sameTag, sameData, time⟩ := facts delivery added
      exact ⟨delivery, added, sameTag, rfl, sameData, time⟩

variable (config lru subscriptionService) (labels : List NotifierLabel)

/-- The delivery is for a subscriber that the tag had when its result was notified. -/
def Meant (delivery : Delivery) : Prop :=
  ∃ before rest, labels = before ++ .notifySubscribers delivery.tag delivery.result :: rest ∧
    let notifier := after config lru subscriptionService before
    delivery.time = notifier.now ∧ delivery.sub ∈ notifier.subscriptionService.subscribersOf delivery.tag

/-- Nobody but the subscribers of a tag is meant to get a result of it, every one of them is, who
then got the message or one with its hash just before, and no message is sent twice in that time
unless the cache was full of others. -/
structure NotifiedOnce : Prop where
  meant : ∀ delivery ∈ (after config lru subscriptionService labels).deliveries,
    Meant config lru subscriptionService labels delivery
  reached : ∀ before tag data rest, labels = before ++ .notifySubscribers tag data :: rest →
    let notifier := after config lru subscriptionService before
    ∀ sub ∈ notifier.subscriptionService.subscribersOf tag,
      ∃ delivery ∈ (after config lru subscriptionService labels).deliveries,
        delivery.tag = tag ∧ delivery.sub = sub ∧ delivery.result = data ∧ delivery.time = notifier.now
  repeated : ∀ earlier delivery later,
    (after config lru subscriptionService labels).deliveries = earlier ++ delivery :: later →
    delivery.sent = false → ∃ first ∈ earlier, first.sent = true ∧
      (first.offer config).key = (delivery.offer config).key ∧ ¬ Expired config.CACHE_TTL first.time delivery.time
  apart : ∀ earlier first between second later,
    (after config lru subscriptionService labels).deliveries =
      earlier ++ first :: (between ++ second :: later) →
    first.sent = true → second.sent = true → (first.offer config).key = (second.offer config).key →
      Crowds CACHE_MAX (first.offer config).key (between.map (Delivery.offer config)) ∨
        Expired config.CACHE_TTL first.time second.time

variable {config lru subscriptionService labels}

theorem Meant.append {delivery : Delivery} (meant : Meant config lru subscriptionService labels delivery)
    (label : NotifierLabel) : Meant config lru subscriptionService (labels ++ [label]) delivery := by
  obtain ⟨before, rest, split, facts⟩ := meant
  exact ⟨before, rest ++ [label], by rw [split, List.append_assoc, List.cons_append], facts⟩

private theorem meant_of_mem {delivery : Delivery}
    (member : delivery ∈ (after config lru subscriptionService labels).deliveries) :
    Meant config lru subscriptionService labels delivery := by
  induction labels using List.reverseRecOn with
  | nil => cases member
  | append_singleton labels label ih =>
    obtain ⟨deliveries, appended, added, -⟩ := deliveries_serve config
      (after config lru subscriptionService labels) label
    rw [after_append, appended] at member
    rcases List.mem_append.mp member with old | new
    · exact (ih old).append label
    · obtain ⟨rfl, time, subscribed⟩ := added delivery new
      exact ⟨labels, [], rfl, time, subscribed⟩

private theorem exists_delivery {before rest : List NotifierLabel} {tag : Tag} {data : Option Json}
    (split : labels = before ++ .notifySubscribers tag data :: rest) {sub : Subscriber}
    (subscribed : sub ∈
      (after config lru subscriptionService before).subscriptionService.subscribersOf tag) :
    ∃ delivery ∈ (after config lru subscriptionService labels).deliveries,
      delivery.tag = tag ∧ delivery.sub = sub ∧ delivery.result = data ∧
        delivery.time = (after config lru subscriptionService before).now := by
  subst split
  induction rest using List.reverseRecOn with
  | nil =>
    obtain ⟨deliveries, appended, -, reached⟩ := deliveries_serve config
      (after config lru subscriptionService before) (.notifySubscribers tag data)
    obtain ⟨delivery, added, facts⟩ := reached tag data rfl sub subscribed
    rw [after_append, appended]
    exact ⟨delivery, List.mem_append_right _ added, facts⟩
  | append_singleton rest label ih =>
    obtain ⟨delivery, delivered, facts⟩ := ih
    obtain ⟨deliveries, appended, -⟩ := deliveries_serve config
      (after config lru subscriptionService (before ++ .notifySubscribers tag data :: rest)) label
    rw [← List.cons_append, ← List.append_assoc, after_append, appended]
    exact ⟨delivery, List.mem_append_left _ delivered, facts⟩

/-- Whatever the polls find, however they overlap and whoever subscribes in between. -/
theorem notifiedOnce_after (config : NotifierConfig Hash) (lru : LruCache Hash Bool CACHE_MAX)
    (subscriptionService : SubscriptionService) (labels : List NotifierLabel) :
    NotifiedOnce config lru subscriptionService labels where
  meant := fun _ member => meant_of_mem member
  reached := fun _ _ _ _ split _ subscribed => exists_delivery split subscribed
  repeated := by
    intro earlier delivery later split unsent
    have remembers := remembers_after config lru subscriptionService labels
    unfold Remembers at remembers
    rw [split, List.map_append, List.map_cons] at remembers
    obtain ⟨_, member, sent, same, lasting⟩ := remembers.answered _ _ _ rfl unsent
    obtain ⟨first, among, rfl⟩ := List.mem_map.mp member
    exact ⟨first, among, sent, same, lasting⟩
  apart := by
    intro earlier first between second later split sentFirst sentSecond same
    have remembers := remembers_after config lru subscriptionService labels
    unfold Remembers at remembers
    rw [split, List.map_append, List.map_cons, List.map_append, List.map_cons] at remembers
    exact remembers.apart _ _ _ _ _ rfl sentFirst sentSecond same

/-- Two connections that listen for the heads of the chain; the polls find one head three times. -/
def repeatedHead : List NotifierLabel :=
  let notification := .notifySubscribers (tagOf "newHeads" none) (some (.str "0x1"))
  [.subscribe "a" "newHeads" none "0xa", .subscribe "b" "newHeads" none "0xb", notification,
    .advance 500, notification, .advance 20000, notification]

example : (after { CACHE_TTL := 20000, createHash := id, numberToString := fun _ => "0" } (.ofOrder String Bool 1000)
    (.new 500 true false) repeatedHead).deliveries.map Delivery.sent = [true, true, false, false, true, true] := by
  decide +kernel

end Notifier

end HieroRelay.Ws
