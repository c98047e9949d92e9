import HieroRelay.Ws.SubscriptionService

/-! Subscriptions and polls stay coupled: a tag has one poll exactly as long as it has
subscribers, and the timer runs exactly as long as there are polls. -/

namespace HieroRelay.Ws

open HieroRelay.Js
open HieroRelay.Lib (Table)

namespace PollerService

variable {service : PollerService} {tag other : Tag}

theorem hasPoll_iff : service.hasPoll tag = true ↔ tag ∈ service.polls.map Poll.tag := by
  simp [hasPoll, List.filter_eq_nil_iff]

@[simp] theorem polls_count (event : String) (change : Int) : (service.count event change).polls = service.polls := by
  unfold count
  split <;> rfl

@[simp] theorem interval_count (event : String) (change : Int) :
    (service.count event change).interval = service.interval := by
  unfold count
  split <;> rfl

@[simp] theorem polls_startIfStopped : service.startIfStopped.polls = service.polls := by
  unfold startIfStopped
  split <;> rfl

private theorem isPolling_startIfStopped : service.startIfStopped.isPolling = true := by
  unfold startIfStopped
  split
  · assumption
  · rfl

@[simp] theorem polls_stopIfIdle : service.stopIfIdle.polls = service.polls := by
  unfold stopIfIdle stop
  split
  · split <;> rfl
  · rfl

private theorem isPolling_stopIfIdle :
    service.stopIfIdle.isPolling = true ↔ service.isPolling = true ∧ service.polls ≠ [] := by
  unfold stopIfIdle
  by_cases idle : service.polls = []
  · rw [if_pos idle]
    refine iff_of_false ?_ fun both => both.2 idle
    unfold stop
    split
    · exact Bool.false_ne_true
    · assumption
  · rw [if_neg idle]
    exact (and_iff_left idle).symm

/-- What holds of the poller between calls. -/
structure Consistent (service : PollerService) : Prop where
  single : (service.polls.map Poll.tag).Nodup
  running : service.isPolling = true ↔ service.polls ≠ []

private theorem consistent_new (pollingInterval : Nat) (newHeadsEnabled : Bool) :
    (new pollingInterval newHeadsEnabled).Consistent where
  single := List.nodup_nil
  running := iff_of_false Bool.false_ne_true fun some => some rfl

theorem tags_add : (service.add tag).polls.map Poll.tag =
    if service.hasPoll tag then service.polls.map Poll.tag else service.polls.map Poll.tag ++ [tag] := by
  unfold add
  split <;> simp [push]

theorem Consistent.add (consistent : service.Consistent) (tag : Tag) : (service.add tag).Consistent where
  single := by
    rw [tags_add]
    split
    · exact consistent.single
    · rename_i missing
      rw [hasPoll_iff] at missing
      exact List.nodup_append.mpr ⟨consistent.single, List.nodup_singleton tag, by
        rintro present member _ inNew rfl
        exact missing (List.mem_singleton.mp inNew ▸ member)⟩
  running := by
    have some : (service.add tag).polls ≠ [] := by
      intro none
      have tags : (service.add tag).polls.map Poll.tag = _ := tags_add
      rw [none, List.map_nil] at tags
      split at tags
      · rename_i present
        rw [hasPoll_iff, ← tags] at present
        exact List.not_mem_nil present
      · exact List.append_ne_nil_of_right_ne_nil _ (List.cons_ne_nil tag []) tags.symm
    refine iff_of_true ?_ some
    unfold PollerService.add
    split <;> exact isPolling_startIfStopped

theorem polls_remove : (service.remove tag).polls = service.polls.filter fun poll => poll.tag ≠ tag := by
  unfold remove
  dsimp only
  rw [polls_stopIfIdle]
  split
  · exact polls_count _ _
  · rfl

private theorem mem_tags_remove :
    other ∈ (service.remove tag).polls.map Poll.tag ↔ other ∈ service.polls.map Poll.tag ∧ other ≠ tag := by
  rw [polls_remove]
  simp only [List.mem_map, List.mem_filter, decide_eq_true_eq]
  constructor
  · rintro ⟨poll, ⟨member, different⟩, rfl⟩
    exact ⟨⟨poll, member, rfl⟩, different⟩
  · rintro ⟨⟨poll, member, rfl⟩, different⟩
    exact ⟨poll, ⟨member, different⟩, rfl⟩

theorem Consistent.remove (consistent : service.Consistent) (tag : Tag) : (service.remove tag).Consistent where
  single := by
    rw [polls_remove]
    exact consistent.single.sublist (List.filter_sublist.map Poll.tag)
  running := by
    rw [polls_remove]
    unfold PollerService.remove
    dsimp only
    rw [isPolling_stopIfIdle]
    split <;> simp only [isPolling, interval_count, polls_count]
    all_goals
      rw [and_iff_right_iff_imp]
      intro some
      apply consistent.running.mpr
      rintro none
      exact some (by rw [none]; rfl)

theorem Consistent.length_le_one (consistent : service.Consistent) (tag : Tag) :
    (service.polls.filter fun poll => poll.tag = tag).length ≤ 1 := by
  have single := List.nodup_iff_count_le_one.mp consistent.single tag
  rw [List.count, List.countP_map, List.countP_eq_length_filter] at single
  simpa [Function.comp_def, beq_eq_decide] using single

end PollerService

theorem Subscriber.matches_iff (sub : Subscriber) (connection : String) (subId : Option Json) :
    sub.matches connection subId = true ↔
      sub.connection = connection ∧ (truthy subId = false ∨ subId = some (.str sub.subscriptionId)) := by
  rw [Subscriber.matches, decide_eq_true_eq, Bool.or_eq_true, Bool.not_eq_true', isString_iff]

namespace SubscriptionService

variable {service : SubscriptionService} {tag other : Tag}

/-- What holds of the two services between calls: no tag is kept without subscribers, and
those with subscribers have a poll. -/
structure Coupled (service : SubscriptionService) : Prop where
  poller : service.pollerService.Consistent
  nonEmpty : ∀ tag, service.subscriptions.get tag ≠ some []
  polled : ∀ tag, tag ∈ service.pollerService.polls.map Poll.tag ↔ (service.subscriptions.get tag).isSome

theorem coupled_new (pollingInterval : Nat) (newHeadsEnabled sameSubForSameEvent : Bool) :
    (new pollingInterval newHeadsEnabled sameSubForSameEvent).Coupled where
  poller := PollerService.consistent_new pollingInterval newHeadsEnabled
  nonEmpty := nofun
  polled := fun _ => ⟨nofun, nofun⟩

private theorem subscribersOf_withTag : (service.withTag tag).subscribersOf other = service.subscribersOf other := by
  unfold withTag
  split
  · rename_i missing
    rw [Option.isNone_iff_eq_none] at missing
    simp only [subscribersOf, Table.get_assign]
    by_cases same : other = tag
    · rw [if_pos same, same, missing]
      rfl
    · rw [if_neg same]
  · rfl

theorem get_withTag : (service.withTag tag).subscriptions.get other =
    if other = tag then some (service.subscribersOf tag) else service.subscriptions.get other := by
  unfold withTag
  split
  · rename_i missing
    rw [Option.isNone_iff_eq_none] at missing
    rw [Table.get_assign, subscribersOf, missing]
    rfl
  · rename_i present
    rw [Option.isNone_iff_eq_none] at present
    obtain ⟨subs, found⟩ := Option.ne_none_iff_exists'.mp present
    by_cases same : other = tag
    · rw [if_pos same, same, subscribersOf, found]
      rfl
    · rw [if_neg same]

@[simp] theorem pollerService_withTag : (service.withTag tag).pollerService = service.pollerService := by
  unfold withTag
  split <;> rfl

@[simp] theorem existingSub_withTag (connection : String) :
    (service.withTag tag).existingSub connection tag = service.existingSub connection tag := by
  unfold existingSub
  rw [subscribersOf_withTag]
  unfold withTag
  split <;> rfl

/-- What a call of `subscribe` does: nothing to the subscribers where the subscription of the
connection is used again, and else one more of them. -/
theorem subscribe_cases (service : SubscriptionService) (connection event : String) (filters : Option Json)
    (generatedId : String) :
    (∃ sub ∈ service.subscribersOf (tagOf event filters), sub.connection = connection ∧
      service.existingSub connection (tagOf event filters) = some sub ∧
      service.subscribe connection event filters generatedId =
        (service.withTag (tagOf event filters), sub.subscriptionId)) ∨
    service.existingSub connection (tagOf event filters) = none ∧
      service.subscribe connection event filters generatedId =
        ((service.withTag (tagOf event filters)).insert (tagOf event filters)
          { connection, subscriptionId := generatedId }, generatedId) := by
  simp only [subscribe, existingSub_withTag]
  cases found : service.existingSub connection (tagOf event filters) with
  | none => exact .inr ⟨rfl, rfl⟩
  | some sub =>
      have searched : (service.subscribersOf (tagOf event filters)).find? (fun sub => sub.connection = connection) =
          some sub := by
        rw [existingSub] at found
        split at found
        · exact found
        · cases found
      have own := List.find?_some searched
      exact .inl ⟨sub, List.mem_of_find?_eq_some searched, of_decide_eq_true own, rfl, rfl⟩

theorem Coupled.subscribe (coupled : service.Coupled) (connection event : String) (filters : Option Json)
    (generatedId : String) : (service.subscribe connection event filters generatedId).1.Coupled := by
  rcases subscribe_cases service connection event filters generatedId with ⟨sub, member, own, _, same⟩ | ⟨_, same⟩
  · have present : service.withTag (tagOf event filters) = service := by
      unfold withTag
      rw [if_neg]
      intro missing
      rw [Option.isNone_iff_eq_none] at missing
      rw [subscribersOf, missing] at member
      exact List.not_mem_nil member
    rw [same, present]
    exact coupled
  · rw [same]
    generalize tagOf event filters = tag
    constructor
    · simp only [insert, pollerService_withTag]
      exact coupled.poller.add tag
    · intro other
      simp only [insert, Table.get_assign, get_withTag]
      by_cases same : other = tag
      · rw [if_pos same]
        simp
      · rw [if_neg same, if_neg same]
        exact coupled.nonEmpty other
    · intro other
      simp only [insert, Table.get_assign, get_withTag, pollerService_withTag, PollerService.tags_add]
      by_cases same : other = tag
      · subst same
        simp only [if_true, Option.isSome_some, iff_true]
        split
        · rename_i present
          exact PollerService.hasPoll_iff.mp present
        · simp
      · rw [if_neg same, if_neg same, ← coupled.polled other]
        split
        · rfl
        · simp [same]

/-- What a round of the loop does to a tag: its subscribers are those that remain. -/
theorem get_unsubscribeTag (connection : String) (subId : Option Json) (subCount : Nat) (subs : List Subscriber) :
    (unsubscribeTag connection subId (service, subCount) (tag, subs)).1.subscriptions.get other =
      if other = tag then
        if (subs.filter fun sub => !sub.matches connection subId) = [] then none
        else some (subs.filter fun sub => !sub.matches connection subId)
      else service.subscriptions.get other := by
  simp only [unsubscribeTag, dropIfEmpty, subscribersOf, Table.get_assign, if_true, Option.getD_some]
  by_cases none : (subs.filter fun sub => !sub.matches connection subId) = []
  · rw [if_pos none, if_pos none, Table.get_erase, Table.get_assign]
    by_cases same : other = tag
    · rw [if_pos same, if_pos same]
    · rw [if_neg same, if_neg same, if_neg same]
  · rw [if_neg none, if_neg none, Table.get_assign]

private theorem subscribersOf_unsubscribeTag (connection : String) (subId : Option Json) (subCount : Nat)
    (subs : List Subscriber) :
    (unsubscribeTag connection subId (service, subCount) (tag, subs)).1.subscribersOf other =
      if other = tag then subs.filter fun sub => !sub.matches connection subId else service.subscribersOf other := by
  rw [subscribersOf, get_unsubscribeTag]
  by_cases same : other = tag
  · rw [if_pos same, if_pos same]
    split
    · rename_i none
      exact none.symm
    · rfl
  · rw [if_neg same, if_neg same]
    rfl

theorem Coupled.unsubscribeTag (coupled : service.Coupled) (connection : String) (subId : Option Json) (subCount : Nat)
    {subs : List Subscriber} (found : service.subscriptions.get tag = some subs) :
    (unsubscribeTag connection subId (service, subCount) (tag, subs)).1.Coupled := by
  constructor
  · simp only [SubscriptionService.unsubscribeTag, dropIfEmpty]
    split
    · exact coupled.poller.remove tag
    · exact coupled.poller
  · intro other
    rw [get_unsubscribeTag]
    by_cases same : other = tag
    · rw [if_pos same]
      split
      · exact nofun
      · rename_i some
        intro none
        exact some (Option.some.inj none)
    · rw [if_neg same]
      exact coupled.nonEmpty other
  · intro other
    rw [get_unsubscribeTag]
    simp only [SubscriptionService.unsubscribeTag, dropIfEmpty, subscribersOf, Table.get_assign, if_true,
      Option.getD_some]
    by_cases none : (subs.filter fun sub => !sub.matches connection subId) = []
    · rw [if_pos none, if_pos none, PollerService.mem_tags_remove, coupled.polled other]
      by_cases same : other = tag
      · rw [if_pos same]
        simp [same]
      · rw [if_neg same]
        exact and_iff_left same
    · rw [if_neg none, if_neg none, coupled.polled other]
      by_cases same : other = tag
      · rw [if_pos same, same, found]
        simp
      · rw [if_neg same]

/-- The entries of the later rounds are not changed by an earlier one. -/
theorem get_later_round (connection : String) (subId : Option Json) (subCount : Nat) {subs : List Subscriber}
    {rest : List (Tag × List Subscriber)} (distinct : (((tag, subs) :: rest).map Prod.fst).Nodup)
    (present : ∀ other held, (other, held) ∈ (tag, subs) :: rest → service.subscriptions.get other = some held)
    (other : Tag) (held : List Subscriber) (member : (other, held) ∈ rest) :
    (unsubscribeTag connection subId (service, subCount) (tag, subs)).1.subscriptions.get other = some held := by
  rw [List.map_cons, List.nodup_cons] at distinct
  have different : other ≠ tag := by
    rintro rfl
    exact distinct.1 (List.mem_map.mpr ⟨_, member, rfl⟩)
  rw [get_unsubscribeTag, if_neg different]
  exact present other held (List.mem_cons_of_mem _ member)

/-- The loop, from any of its rounds on: the entries that are left are still in the table. -/
theorem unsubscribe_rounds (connection : String) (subId : Option Json) (entries : List (Tag × List Subscriber))
    (distinct : (entries.map Prod.fst).Nodup) (subCount : Nat) (coupled : service.Coupled)
    (present : ∀ tag subs, (tag, subs) ∈ entries → service.subscriptions.get tag = some subs) :
    (entries.foldl (SubscriptionService.unsubscribeTag connection subId) (service, subCount)).1.Coupled ∧
    (∀ other, (entries.foldl (SubscriptionService.unsubscribeTag connection subId) (service, subCount)).1.subscribersOf
        other =
      if other ∈ entries.map Prod.fst then
        (service.subscribersOf other).filter fun sub => !sub.matches connection subId
      else service.subscribersOf other) ∧
    (entries.foldl (SubscriptionService.unsubscribeTag connection subId) (service, subCount)).2 =
      subCount + (entries.map fun entry => entry.2.countP fun sub => sub.matches connection subId).sum := by
  induction entries generalizing service subCount with
  | nil => exact ⟨coupled, fun _ => rfl, rfl⟩
  | cons entry rest ih =>
      obtain ⟨tag, subs⟩ := entry
      have found := present tag subs List.mem_cons_self
      obtain ⟨missing, distinctRest⟩ := List.nodup_cons.mp distinct
      obtain ⟨coupledAfter, subscribers, counted⟩ := ih distinctRest _
        (coupled.unsubscribeTag connection subId subCount found) (get_later_round connection subId subCount distinct present)
      refine ⟨coupledAfter, ?_, ?_⟩
      · intro other
        refine (subscribers other).trans ?_
        rw [subscribersOf_unsubscribeTag]
        by_cases same : other = tag
        · subst same
          have own : service.subscribersOf other = subs := by rw [subscribersOf, found, Option.getD_some]
          have member : other ∈ ((other, subs) :: rest).map Prod.fst := List.mem_cons_self
          rw [if_pos rfl, if_neg missing, if_pos member, own]
        · rw [if_neg same]
          simp only [List.map_cons, List.mem_cons, same, false_or]
      · refine counted.trans ?_
        rw [List.map_cons, List.sum_cons]
        exact Nat.add_assoc _ _ _

/-- Everywhere exactly the matching entries go, and they are counted. -/
theorem unsubscribe_spec (coupled : service.Coupled) (connection : String) (subId : Option Json) :
    (service.unsubscribe connection subId).1.Coupled ∧
    (∀ tag, (service.unsubscribe connection subId).1.subscribersOf tag =
      (service.subscribersOf tag).filter fun sub => !sub.matches connection subId) ∧
    (service.unsubscribe connection subId).2 =
      service.subscriptions.total fun subs => subs.countP fun sub => sub.matches connection subId := by
  obtain ⟨coupledAfter, subscribers, counted⟩ := unsubscribe_rounds connection subId service.subscriptions.entries
    service.subscriptions.distinct 0 coupled fun tag subs member => Table.mem_entries_iff.mp member
  refine ⟨coupledAfter, ?_, ?_⟩
  · intro tag
    rw [unsubscribe, subscribers]
    split
    · rfl
    · rename_i missing
      rw [Table.mem_keys_iff, Option.isSome_iff_ne_none, not_not] at missing
      rw [subscribersOf, missing]
      rfl
  · rw [unsubscribe, counted, Nat.zero_add]
    rfl

/-- The number of subscriptions of a kind. -/
def count (service : SubscriptionService) (kind : Subscriber → Bool) : Nat :=
  service.subscriptions.total fun subs => subs.countP kind

theorem weightAt_countP (kind : Subscriber → Bool) :
    service.subscriptions.weightAt (fun subs => subs.countP kind) tag = (service.subscribersOf tag).countP kind := by
  rw [Table.weightAt, subscribersOf]
  cases service.subscriptions.get tag <;> rfl

theorem count_withTag (kind : Subscriber → Bool) : (service.withTag tag).count kind = service.count kind := by
  unfold withTag
  split
  · rename_i missing
    rw [Option.isNone_iff_eq_none] at missing
    have total := service.subscriptions.total_assign (fun subs => subs.countP kind) tag []
    rw [weightAt_countP, subscribersOf, missing] at total
    exact total
  · rfl

theorem count_insert (sub : Subscriber) (kind : Subscriber → Bool) :
    (service.insert tag sub).count kind = service.count kind + if kind sub then 1 else 0 := by
  have total := service.subscriptions.total_assign (fun subs => subs.countP kind) tag (service.subscribersOf tag ++ [sub])
  rw [weightAt_countP, List.countP_append, List.countP_singleton] at total
  change (service.subscriptions.assign tag (service.subscribersOf tag ++ [sub])).total (fun subs => subs.countP kind) =
    service.subscriptions.total (fun subs => subs.countP kind) + _
  omega

/-- A round takes the matching ones of its tag off the count. -/
theorem count_unsubscribeTag (connection : String) (subId : Option Json) (subCount : Nat) {subs : List Subscriber}
    (found : service.subscriptions.get tag = some subs) (kind : Subscriber → Bool) :
    (unsubscribeTag connection subId (service, subCount) (tag, subs)).1.count kind +
      (subs.countP fun sub => kind sub && sub.matches connection subId) = service.count kind := by
  have split := subs.countP_eq_countP_filter_add kind fun sub => !sub.matches connection subId
  rw [List.countP_filter (p := kind) (q := fun sub => !!sub.matches connection subId)] at split
  simp only [Bool.not_not] at split
  have assigned := service.subscriptions.total_assign (fun subs => subs.countP kind) tag
    (subs.filter fun sub => !sub.matches connection subId)
  rw [weightAt_countP, subscribersOf, found, Option.getD_some] at assigned
  simp only [unsubscribeTag, dropIfEmpty, subscribersOf, Table.get_assign, if_true, Option.getD_some, count]
  by_cases none : (subs.filter fun sub => !sub.matches connection subId) = []
  · rw [if_pos none]
    have erased := (service.subscriptions.assign tag (subs.filter fun sub => !sub.matches connection subId)).total_erase
      (fun subs => subs.countP kind) tag
    rw [Table.weightAt, Table.get_assign, if_pos rfl, none] at erased
    rw [none] at assigned split
    simp only [Option.map_some, Option.getD_some, List.countP_nil, Nat.add_zero] at erased assigned split
    dsimp only
    rw [none]
    omega
  · rw [if_neg none]
    dsimp only
    omega

private theorem count_rounds (connection : String) (subId : Option Json) (entries : List (Tag × List Subscriber))
    (distinct : (entries.map Prod.fst).Nodup) (subCount : Nat)
    (present : ∀ tag subs, (tag, subs) ∈ entries → service.subscriptions.get tag = some subs)
    (kind : Subscriber → Bool) :
    (entries.foldl (unsubscribeTag connection subId) (service, subCount)).1.count kind +
      (entries.map fun entry => entry.2.countP fun sub => kind sub && sub.matches connection subId).sum =
        service.count kind := by
  induction entries generalizing service subCount with
  | nil => rfl
  | cons entry rest ih =>
      obtain ⟨tag, subs⟩ := entry
      have round := count_unsubscribeTag connection subId subCount (present tag subs List.mem_cons_self) kind
      have later := ih (List.nodup_cons.mp distinct).2 (subCount + subs.countP fun sub => sub.matches connection subId)
        (get_later_round connection subId subCount distinct present)
      rw [List.foldl_cons, List.map_cons, List.sum_cons]
      change ((rest.foldl (unsubscribeTag connection subId)
        (unsubscribeTag connection subId (service, subCount) (tag, subs))).1.count kind + _ = _) at later
      dsimp only
      omega

theorem count_unsubscribe (connection : String) (subId : Option Json) (kind : Subscriber → Bool) :
    (service.unsubscribe connection subId).1.count kind +
      service.count (fun sub => kind sub && sub.matches connection subId) = service.count kind :=
  count_rounds connection subId service.subscriptions.entries service.subscriptions.distinct 0
    (fun _ _ member => Table.mem_entries_iff.mp member) kind

/-- A call of the service by any connection. -/
inductive Call where
  | subscribe (connection event : String) (filters : Option Json) (generatedId : String)
  | unsubscribe (connection : String) (subId : Option Json)

def perform (service : SubscriptionService) : Call → SubscriptionService
  | .subscribe connection event filters generatedId => (service.subscribe connection event filters generatedId).1
  | .unsubscribe connection subId => (service.unsubscribe connection subId).1

theorem Coupled.perform (coupled : service.Coupled) (call : Call) : (service.perform call).Coupled := by
  cases call with
  | subscribe connection event filters generatedId => exact coupled.subscribe connection event filters generatedId
  | unsubscribe connection subId => exact (unsubscribe_spec coupled connection subId).1

theorem Coupled.calls (coupled : service.Coupled) (calls : List Call) :
    (calls.foldl SubscriptionService.perform service).Coupled := by
  induction calls generalizing service with
  | nil => exact coupled
  | cons call rest ih => exact ih (coupled.perform call)

theorem Coupled.mem_tags_iff (coupled : service.Coupled) :
    tag ∈ service.pollerService.polls.map Poll.tag ↔ service.subscribersOf tag ≠ [] := by
  rw [coupled.polled, subscribersOf]
  cases found : service.subscriptions.get tag with
  | none => simp
  | some subs =>
      simp only [Option.isSome_some, Option.getD_some, true_iff]
      rintro rfl
      exact coupled.nonEmpty tag found

/-- After any calls each tag has one poll if it has subscribers and none otherwise, the timer
runs if there are polls, and a call of `unsubscribe` takes away the matching subscriptions of
its connection only. -/
theorem coupled_after_calls (pollingInterval : Nat) (newHeadsEnabled sameSubForSameEvent : Bool) (calls : List Call) :
    let service := calls.foldl perform (new pollingInterval newHeadsEnabled sameSubForSameEvent)
    (∀ tag, service.pollerService.hasPoll tag = true ↔ service.subscribersOf tag ≠ []) ∧
    (∀ tag, (service.pollerService.polls.filter fun poll => poll.tag = tag).length ≤ 1) ∧
    (service.pollerService.isPolling = true ↔ service.pollerService.polls ≠ []) ∧
    ∀ connection subId tag, (service.unsubscribe connection subId).1.subscribersOf tag =
      (service.subscribersOf tag).filter fun sub =>
        ¬ (sub.connection = connection ∧ (truthy subId = false ∨ subId = some (.str sub.subscriptionId))) := by
  intro service
  have coupled : service.Coupled := (coupled_new pollingInterval newHeadsEnabled sameSubForSameEvent).calls calls
  refine ⟨?_, coupled.poller.length_le_one, coupled.poller.running, ?_⟩
  · intro tag
    rw [PollerService.hasPoll_iff]
    exact coupled.mem_tags_iff
  · intro connection subId tag
    rw [(unsubscribe_spec coupled connection subId).2.1]
    apply List.filter_congr
    intro sub _
    rw [Bool.eq_iff_iff, Bool.not_eq_true', ← Bool.not_eq_true, decide_eq_true_eq]
    exact not_congr (Subscriber.matches_iff sub connection subId)

end SubscriptionService

end HieroRelay.Ws
