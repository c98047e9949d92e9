import HieroRelay.Ws.SubscriptionCounter

/-! No subscription survives its connection as long as none is made after the close handler
has run. -/

namespace HieroRelay.Ws

open HieroRelay.Js
open HieroRelay.Lib (Meets Table run run_invariant_of_meets meets_cons)

namespace ServerState

variable {state : ServerState} {connection : String}

theorem entries_unsubscribe_le (service : SubscriptionService) (connection other : String) (subId : Option Json) :
    (service.unsubscribe other subId).1.count (fun sub => sub.connection = connection) ≤
      service.count fun sub => sub.connection = connection := by
  have left := service.count_unsubscribe other subId fun sub => sub.connection = connection
  omega

/-- The close handler takes away all that the connection has. -/
theorem entries_close (state : ServerState) (connection : String) :
    (state.handleConnectionClose connection).entries connection = 0 := by
  have left := state.subscriptionService.count_unsubscribe connection none fun sub => sub.connection = connection
  have all : (state.subscriptionService.count fun sub => sub.connection = connection && sub.matches connection none) =
      state.subscriptionService.count fun sub => sub.connection = connection := by
    congr 1
    funext sub
    by_cases own : sub.connection = connection <;> simp [Subscriber.matches, own]
  rw [all] at left
  simp only [entries, handleConnectionClose]
  omega

/-- A connection without entries is in no list of subscribers. -/
theorem connection_ne_of_entries (gone : state.entries connection = 0) (tag : Tag) :
    ∀ sub ∈ state.subscriptionService.subscribersOf tag, sub.connection ≠ connection := by
  intro sub member own
  cases found : state.subscriptionService.subscriptions.get tag with
  | none =>
      rw [SubscriptionService.subscribersOf, found] at member
      exact List.not_mem_nil member
  | some subs =>
      rw [SubscriptionService.subscribersOf, found, Option.getD_some] at member
      rw [entries, SubscriptionService.count, Table.total, List.sum_eq_zero_iff_forall_eq_nat] at gone
      have counted := gone _ (List.mem_map.mpr ⟨(tag, subs), Table.mem_entries_iff.mpr found, rfl⟩)
      exact List.countP_eq_zero.mp counted sub member (decide_eq_true own)

end ServerState

namespace SubscriptionServer

open ServerState

variable {server : SubscriptionServer} {connection : String} {state after : ServerState}

/-- The condition on a step: a subscription that it makes for the connection is made while
the connection is open. -/
def Attached (server : SubscriptionServer) (connection : String) (state : ServerState) : ServerLabel → Prop
  | .resume id valid _ => ∀ running, state.inProgress.get id = some running → running.connection = connection →
      (server.subscriptionOf state running valid).isSome → connection ∉ state.closed
  | _ => True

theorem entries_subscribe_other (state : ServerState) {other : String} (different : connection ≠ other)
    (event : String) (filters : Option Json) (generatedId : String) :
    (state.subscribe other event filters generatedId).entries connection = state.entries connection := by
  have moves := moves_subscribe state connection other event filters generatedId fun own => absurd own different
  have same := moves.entries
  rw [if_neg different] at same
  omega

/-- A request that does not subscribe for the connection leaves it no more entries. -/
theorem entries_resume_le {id : Nat} {running : InProgress} {valid : Bool} {generatedId : String}
    (other : running.connection = connection → server.subscriptionOf state running valid = none) :
    (server.resume state id running valid generatedId).entries connection ≤ state.entries connection := by
  unfold SubscriptionServer.resume
  split
  · rename_i phase
    unfold SubscriptionServer.afterRateLimit
    split
    · split
      · exact entries_unsubscribe_le _ _ _ _
      · exact Nat.le_refl _
    · rename_i method
      cases handling : server.handleEthSubscribe state running.connection running.request.params with
      | ends => exact Nat.le_refl _
      | validates filters => exact Nat.le_refl _
      | subscribes subscription =>
          have different : connection ≠ running.connection := by
            rintro rfl
            have none := other rfl
            rw [subscriptionOf, phase, method] at none
            dsimp only at none
            rw [handling] at none
            cases none
          have same := entries_subscribe_other (state.finish id) different subscription.event
            subscription.filters generatedId
          dsimp only
          split
          · exact Nat.le_of_eq same
          · exact Nat.le_of_eq same
  · rename_i filters phase
    unfold SubscriptionServer.afterValidation
    cases handling : server.handleValidated filters valid with
    | ends => exact Nat.le_refl _
    | validates filters => exact Nat.le_refl _
    | subscribes subscription =>
        have different : connection ≠ running.connection := by
          rintro rfl
          have none := other rfl
          rw [subscriptionOf, phase] at none
          dsimp only at none
          rw [handling] at none
          cases none
        dsimp only
        rw [entries_subscribe_other _ different]
        split
        · exact Nat.le_refl _
        · exact Nat.le_refl _
  · exact Nat.le_refl _

/-- What holds in every state of a run: a closed connection has no entries. -/
structure Detached (connection : String) (state : ServerState) : Prop where
  coupled : state.subscriptionService.Coupled
  gone : connection ∈ state.closed → state.entries connection = 0

theorem Detached.step {label : ServerLabel} (detached : Detached connection state)
    (attached : Attached server connection state label) (served : server.serve state label = some after) :
    Detached connection after := by
  cases label with
  | receive id other request =>
      rw [serve] at served
      split at served
      · cases served
      · obtain rfl := Option.some.inj served
        exact ⟨detached.coupled, detached.gone⟩
  | resume id valid generatedId =>
      rw [serve, Option.map_eq_some_iff] at served
      obtain ⟨running, found, rfl⟩ := served
      obtain ⟨closed, coupled⟩ := subscriptionService_resume server state id running valid generatedId
      refine ⟨coupled detached.coupled, fun ended => ?_⟩
      rw [closed] at ended
      have fewer : (server.resume state id running valid generatedId).entries connection ≤ state.entries connection := by
        apply entries_resume_le
        intro own
        cases makes : server.subscriptionOf state running valid with
        | none => rfl
        | some subscription => exact absurd ended (attached running found own (by rw [makes]; rfl))
      rw [detached.gone ended] at fewer
      exact Nat.le_zero.mp fewer
  | close other =>
      rw [serve] at served
      split at served
      · cases served
      · obtain rfl := Option.some.inj served
        refine ⟨(SubscriptionService.unsubscribe_spec detached.coupled other none).1, fun ended => ?_⟩
        rcases List.mem_cons.mp ended with rfl | before
        · exact entries_close state connection
        · have fewer := entries_unsubscribe_le state.subscriptionService connection other none
          have gone := detached.gone before
          change (state.subscriptionService.unsubscribe other none).1.count _ = 0
          rw [entries] at gone
          omega

/-- In a run of attached steps nothing is left of a connection whose close handler has run:
no subscriber is its own, and every poll has a subscriber of another connection. -/
theorem nothing_left_of_attached (server : SubscriptionServer) (connection : String) (pollingInterval : Nat)
    (newHeadsEnabled sameSubForSameEvent : Bool) (labels : List ServerLabel) (final : ServerState)
    (attached : Meets server.serve (Attached server connection)
      (.initial pollingInterval newHeadsEnabled sameSubForSameEvent) labels)
    (reached : run server.serve (.initial pollingInterval newHeadsEnabled sameSubForSameEvent) labels = some final)
    (ended : connection ∈ final.closed) :
    (∀ tag, ∀ sub ∈ final.subscriptionService.subscribersOf tag, sub.connection ≠ connection) ∧
      ∀ poll ∈ final.subscriptionService.pollerService.polls,
        ∃ sub ∈ final.subscriptionService.subscribersOf poll.tag, sub.connection ≠ connection := by
  have start : Detached connection (.initial pollingInterval newHeadsEnabled sameSubForSameEvent) :=
    ⟨SubscriptionService.coupled_new _ _ _, nofun⟩
  have detached : Detached connection final :=
    run_invariant_of_meets (fun _ _ _ kept holds taken => kept.step holds taken) start attached reached
  have others := connection_ne_of_entries (detached.gone ended)
  refine ⟨others, ?_⟩
  intro poll member
  have some := detached.coupled.mem_tags_iff.mp (List.mem_map_of_mem member)
  obtain ⟨sub, subscribed⟩ := List.exists_mem_of_ne_nil _ some
  exact ⟨sub, subscribed, others poll.tag sub subscribed⟩

/-- A connection that subscribes and closes. -/
def subscribedAndClosed : List ServerLabel :=
  [.receive 0 "c1" newHeadsRequest, .resume 0 true "0xa", .close "c1"]

private theorem subscribedAndClosed_attached :
    Meets exampleServer.serve (Attached exampleServer "c1") (.initial 500 true true) subscribedAndClosed := by
  refine meets_cons trivial rfl (meets_cons ?_ rfl (meets_cons trivial rfl trivial))
  intro _ _ _ _
  exact List.not_mem_nil

theorem nothing_left_of_subscribedAndClosed : ∃ final,
    run exampleServer.serve (.initial 500 true true) subscribedAndClosed = some final ∧
      ∀ tag, ∀ sub ∈ final.subscriptionService.subscribersOf tag, sub.connection ≠ "c1" := by
  refine ⟨_, rfl, ?_⟩
  exact (nothing_left_of_attached exampleServer "c1" 500 true true subscribedAndClosed _ subscribedAndClosed_attached rfl
    List.mem_cons_self).1

def logsRequest : SubscriptionRequest where
  id := some (.num 1)
  method := .eth_subscribe
  params := .arr [.str "logs", .obj []]

/-- The connection closes while its filters are validated. -/
def closedDuringValidation : List ServerLabel :=
  [.receive 0 "c1" logsRequest, .resume 0 true "0xa", .close "c1", .resume 0 true "0xa", .resume 0 true "0xa"]

theorem nothing_left_of_closedDuringValidation_fails :
    ¬ ∀ (server : SubscriptionServer) (connection : String) (pollingInterval : Nat)
      (newHeadsEnabled sameSubForSameEvent : Bool) (labels : List ServerLabel) (final : ServerState),
      run server.serve (.initial pollingInterval newHeadsEnabled sameSubForSameEvent) labels = some final →
      connection ∈ final.closed → final.Idle connection →
        ∀ tag, ∀ sub ∈ final.subscriptionService.subscribersOf tag, sub.connection ≠ connection := by
  intro gone
  have others := gone exampleServer "c1" 500 true true closedDuringValidation _ rfl List.mem_cons_self
    (fun id running found => by cases found) { event := "logs", filters := none }
    { connection := "c1", subscriptionId := "0xa" }
  exact others (by decide) rfl

end SubscriptionServer

end HieroRelay.Ws
