import HieroRelay.Lib.Run
import HieroRelay.Ws.SubscribedPolls
import HieroRelay.Ws.SubscriptionRequests

/-! The counter of a connection is the number of its subscriptions as long as no
subscription is used again, refused its response or made beyond what the counter shows. -/

namespace HieroRelay.Ws

open HieroRelay.Js
open HieroRelay.Lib (Meets Table run run_invariant_of_meets meets_cons)

namespace ServerState

variable (state : ServerState) (connection : String)

/-- The number of subscriptions of the connection in the service. -/
def entries : Nat := state.subscriptionService.count fun sub => sub.connection = connection

def awaitsCount (running : InProgress) : Nat :=
  if running.connection = connection ∧ running.phase = .counting then 1 else 0

/-- The number of requests of the connection that subscribed and are not counted yet. -/
def uncounted : Nat := state.inProgress.total (awaitsCount connection)

def Idle : Prop := ∀ id running, state.inProgress.get id = some running → running.connection ≠ connection

/-- What happens to the three numbers of a connection. -/
structure Moves (before after : ServerState) (entries uncounted subscriptions : Int) : Prop where
  entries : (after.entries connection : Int) = before.entries connection + entries
  uncounted : (after.uncounted connection : Int) = before.uncounted connection + uncounted
  subscriptions : after.subscriptions connection = before.subscriptions connection + subscriptions

variable {state connection}

theorem Moves.trans {first second third : ServerState} {a b c d e f : Int} (one : Moves connection first second a b c)
    (two : Moves connection second third d e f) : Moves connection first third (a + d) (b + e) (c + f) where
  entries := by rw [two.entries, one.entries]; omega
  uncounted := by rw [two.uncounted, one.uncounted]; omega
  subscriptions := by rw [two.subscriptions, one.subscriptions]; omega

theorem moves_finish (connection : String) {id : Nat} {running : InProgress}
    (found : state.inProgress.get id = some running) :
    Moves connection state (state.finish id) 0 (-awaitsCount connection running) 0 where
  entries := (Int.add_zero _).symm
  uncounted := by
    have total := state.inProgress.total_erase (awaitsCount connection) id
    rw [Table.weightAt, found, Option.map_some, Option.getD_some] at total
    simp only [ServerState.uncounted, finish]
    omega
  subscriptions := (Int.add_zero _).symm

theorem moves_await (connection : String) {id : Nat} {running : InProgress}
    (found : state.inProgress.get id = some running) (next : InProgress) :
    Moves connection state (state.await id next) 0 (awaitsCount connection next - awaitsCount connection running) 0 where
  entries := (Int.add_zero _).symm
  uncounted := by
    have total := state.inProgress.total_assign (awaitsCount connection) id next
    rw [Table.weightAt, found, Option.map_some, Option.getD_some] at total
    simp only [ServerState.uncounted, await]
    omega
  subscriptions := (Int.add_zero _).symm

private theorem moves_receive (connection : String) {id : Nat} (new : state.inProgress.get id = none)
    (next : InProgress) :
    Moves connection state (state.await id next) 0 (awaitsCount connection next) 0 where
  entries := (Int.add_zero _).symm
  uncounted := by
    have total := state.inProgress.total_assign (awaitsCount connection) id next
    rw [Table.weightAt, new, Option.map_none, Option.getD_none] at total
    simp only [ServerState.uncounted, await]
    omega
  subscriptions := (Int.add_zero _).symm

theorem moves_changeSubs (state : ServerState) (connection other : String) (amount : Int) :
    Moves connection state (state.changeSubs other amount) 0 0 (if connection = other then amount else 0) where
  entries := (Int.add_zero _).symm
  uncounted := (Int.add_zero _).symm
  subscriptions := by
    rw [changeSubs]
    by_cases same : connection = other
    · subst same
      simp
    · simp [same]

/-- A subscription that is not used again is one more for its connection. -/
theorem moves_subscribe (state : ServerState) (connection other event : String) (filters : Option Json)
    (generatedId : String)
    (fresh : connection = other → state.subscriptionService.existingSub other (tagOf event filters) = none) :
    Moves connection state (state.subscribe other event filters generatedId) (if connection = other then 1 else 0) 0
      0 where
  entries := by
    simp only [ServerState.entries, subscribe]
    rcases SubscriptionService.subscribe_cases state.subscriptionService other event filters generatedId with
      ⟨sub, _, _, found, same⟩ | ⟨_, same⟩
    · have different : connection ≠ other := by
        intro own
        rw [fresh own] at found
        cases found
      rw [same, if_neg different, SubscriptionService.count_withTag, Int.add_zero]
    · rw [same, SubscriptionService.count_insert, SubscriptionService.count_withTag]
      by_cases own : connection = other
      · simp [own]
      · simp [own, Ne.symm own]
  uncounted := (Int.add_zero _).symm
  subscriptions := (Int.add_zero _).symm

private theorem count_false (service : SubscriptionService) : service.count (fun _ => false) = 0 := by
  simp [SubscriptionService.count, Table.total]

/-- The entries of a connection that another one's call matches: none. -/
theorem count_own_matches (service : SubscriptionService) (other : String) (subId : Option Json) :
    (service.count fun sub => sub.connection = connection && sub.matches other subId) =
      if connection = other then service.count fun sub => sub.matches other subId else 0 := by
  by_cases own : connection = other
  · subst own
    rw [if_pos rfl]
    congr 1
    funext sub
    by_cases same : sub.connection = connection <;> simp [Subscriber.matches, same]
  · rw [if_neg own, ← count_false service]
    congr 1
    funext sub
    by_cases same : sub.connection = connection <;> simp [Subscriber.matches, same, own]

private theorem moves_unsubscribe (connection : String) (coupled : state.subscriptionService.Coupled) (other : String)
    (subId : Option Json) :
    let removed : Int := if connection = other then
      (state.subscriptionService.count fun sub => sub.matches other subId : Nat) else 0
    Moves connection state (state.handleEthUnsubscribe other subId) (-removed) 0 (-removed) := by
  have counted := (SubscriptionService.unsubscribe_spec coupled other subId).2.2
  have left := state.subscriptionService.count_unsubscribe other subId fun sub => sub.connection = connection
  rw [count_own_matches] at left
  dsimp only
  constructor
  · change ((state.subscriptionService.unsubscribe other subId).1.count _ : Int) = _
    simp only [ServerState.entries]
    by_cases own : connection = other
    · rw [if_pos own] at left ⊢
      omega
    · rw [if_neg own] at left ⊢
      omega
  · exact (Int.add_zero _).symm
  · change (state.changeSubs other (-((state.subscriptionService.unsubscribe other subId).2 : Int))).subscriptions
      connection = _
    rw [(moves_changeSubs state connection other _).subscriptions, counted]
    by_cases own : connection = other
    · rw [if_pos own, if_pos own]
      rfl
    · rw [if_neg own, if_neg own]
      rfl

private theorem moves_close (other : String) (different : connection ≠ other) :
    Moves connection state (state.handleConnectionClose other) 0 0 0 where
  entries := by
    have left := state.subscriptionService.count_unsubscribe other none fun sub => sub.connection = connection
    rw [count_own_matches, if_neg different] at left
    simp only [ServerState.entries, handleConnectionClose]
    omega
  uncounted := (Int.add_zero _).symm
  subscriptions := (Int.add_zero _).symm

end ServerState

namespace SubscriptionServer

open ServerState

variable (server : SubscriptionServer) (connection : String)

/-- The condition on a step of the connection: a subscription that it makes is a new one, its
response can carry the identifier of the request, and the limit is not reached with those
that are not counted yet; and what it unsubscribes was counted. -/
def Steady (state : ServerState) : ServerLabel → Prop
  | .resume id valid _ => ∀ running, state.inProgress.get id = some running → running.connection = connection →
      (∀ subscription, server.subscriptionOf state running valid = some subscription →
        state.subscriptionService.existingSub connection (tagOf subscription.event subscription.filters) = none ∧
        respondsTo running.request = true ∧
        state.subscriptions connection + state.uncounted connection < server.wsSubscriptionLimit) ∧
      (running.phase = .rateLimit → running.request.method = .eth_unsubscribe →
        (state.subscriptionService.count fun sub => sub.matches connection (elementAt running.request.params 0) : Nat) ≤
          state.subscriptions connection)
  | _ => True

/-- The numbers of a connection fit together, and the limit is kept. -/
structure Balanced (state : ServerState) : Prop where
  balance : state.subscriptions connection + state.uncounted connection = state.entries connection
  nonneg : 0 ≤ state.subscriptions connection
  limited : state.subscriptions connection + state.uncounted connection ≤ server.wsSubscriptionLimit

variable {server connection} {state after : ServerState}

/-- The numbers after a step, given what the step does to them. -/
theorem Balanced.moves {entries uncounted subscriptions : Int} (balanced : Balanced server connection state)
    (moves : Moves connection state after entries uncounted subscriptions) (same : subscriptions + uncounted = entries)
    (nonneg : 0 ≤ state.subscriptions connection + subscriptions)
    (room : entries ≤ 0 ∨ state.subscriptions connection + state.uncounted connection + entries ≤
      server.wsSubscriptionLimit) : Balanced server connection after := by
  obtain ⟨movedEntries, movedUncounted, movedSubscriptions⟩ := moves
  obtain ⟨balance, _, limited⟩ := balanced
  constructor
  · omega
  · omega
  · omega

theorem awaitsCount_of_phase {running : InProgress} (phase : running.phase ≠ .counting) :
    awaitsCount connection running = 0 := by
  simp [awaitsCount, phase]

theorem awaitsCount_of_other {running : InProgress} (other : connection ≠ running.connection) :
    awaitsCount connection running = 0 := by
  simp [awaitsCount, Ne.symm other]

/-- The step of a request that ends. -/
theorem Balanced.finish {id : Nat} {running : InProgress} (balanced : Balanced server connection state)
    (found : state.inProgress.get id = some running) (phase : running.phase ≠ .counting) :
    Balanced server connection (state.finish id) := by
  have moves := moves_finish connection found
  rw [awaitsCount_of_phase phase] at moves
  exact balanced.moves moves rfl (by simpa using balanced.nonneg) (.inl (Int.le_refl 0))

/-- The step of a request that awaits something else. -/
theorem Balanced.await {id : Nat} {running next : InProgress} (balanced : Balanced server connection state)
    (found : state.inProgress.get id = some running) (phase : running.phase ≠ .counting)
    (nextPhase : next.phase ≠ .counting) : Balanced server connection (state.await id next) := by
  have moves := moves_await connection found next
  rw [awaitsCount_of_phase phase, awaitsCount_of_phase nextPhase] at moves
  exact balanced.moves moves rfl (by simpa using balanced.nonneg) (.inl (Int.le_refl 0))

/-- The rest of a request that unsubscribes. -/
theorem Balanced.unsubscribe (balanced : Balanced server connection state)
    (coupled : state.subscriptionService.Coupled) (other : String) (subId : Option Json)
    (counted : connection = other →
      ((state.subscriptionService.count fun sub => sub.matches other subId : Nat) : Int) ≤ state.subscriptions connection) :
    Balanced server connection (state.handleEthUnsubscribe other subId) := by
  apply balanced.moves (moves_unsubscribe connection coupled other subId)
  · exact Int.add_zero _
  · have nonneg := balanced.nonneg
    by_cases own : connection = other
    · have counted := counted own
      rw [if_pos own]
      omega
    · rw [if_neg own]
      omega
  · left
    split <;> omega

/-- The rest of a request that subscribes and is counted at once. -/
theorem Balanced.subscribe (balanced : Balanced server connection state) (other event : String)
    (filters : Option Json) (generatedId : String)
    (fresh : connection = other → state.subscriptionService.existingSub other (tagOf event filters) = none)
    (room : connection = other →
      state.subscriptions connection + state.uncounted connection < server.wsSubscriptionLimit) :
    Balanced server connection ((state.subscribe other event filters generatedId).incrementSubs other) := by
  have moves := (moves_subscribe state connection other event filters generatedId fresh).trans
    (moves_changeSubs _ connection other 1)
  have nonneg := balanced.nonneg
  apply balanced.moves moves
  · omega
  · split <;> omega
  · by_cases own : connection = other
    · have room := room own
      rw [if_pos own]
      omega
    · rw [if_neg own]
      exact .inl (Int.le_refl 0)

private theorem uncounted_finish (connection : String) {id : Nat} {running : InProgress}
    (found : state.inProgress.get id = some running) (phase : running.phase ≠ .counting) :
    (state.finish id).uncounted connection = state.uncounted connection := by
  have moves := (moves_finish connection found).uncounted
  rw [awaitsCount_of_phase phase] at moves
  omega

/-- A subscription of another connection. -/
theorem Balanced.subscribe_other (balanced : Balanced server connection state) {other : String}
    (different : connection ≠ other) (event : String) (filters : Option Json) (generatedId : String) :
    Balanced server connection (state.subscribe other event filters generatedId) := by
  have moves := moves_subscribe state connection other event filters generatedId fun own => absurd own different
  rw [if_neg different] at moves
  exact balanced.moves moves rfl (by simpa using balanced.nonneg) (.inl (Int.le_refl 0))

theorem Balanced.afterRateLimit {id : Nat} {running : InProgress} {valid : Bool} {generatedId : String}
    (balanced : Balanced server connection state) (coupled : state.subscriptionService.Coupled)
    (found : state.inProgress.get id = some running) (phase : running.phase = .rateLimit)
    (steady : Steady server connection state (.resume id valid generatedId)) :
    Balanced server connection (server.afterRateLimit state id running generatedId) := by
  have waiting : running.phase ≠ .counting := by rw [phase]; exact nofun
  have finished := balanced.finish found waiting
  unfold SubscriptionServer.afterRateLimit
  split
  · rename_i method
    split
    · refine finished.unsubscribe coupled _ _ ?_
      rintro rfl
      exact (steady running found rfl).2 phase method
    · exact finished
  · rename_i method
    cases handling : server.handleEthSubscribe state running.connection running.request.params with
    | ends => exact finished
    | validates filters => exact balanced.await found waiting nofun
    | subscribes subscription =>
        have makes : server.subscriptionOf state running valid = some subscription := by
          rw [subscriptionOf, phase, method]
          dsimp only
          rw [handling]
        dsimp only
        split
        · refine finished.subscribe _ _ _ _ ?_ ?_
          · rintro rfl
            exact ((steady running found rfl).1 subscription makes).1
          · rintro rfl
            rw [uncounted_finish _ found waiting]
            exact ((steady running found rfl).1 subscription makes).2.2
        · rename_i refused
          refine finished.subscribe_other ?_ _ _ _
          rintro rfl
          exact refused ((steady running found rfl).1 subscription makes).2.1

theorem Balanced.afterValidation {id : Nat} {running : InProgress} {filters : Json} {valid : Bool}
    {generatedId : String}
    (balanced : Balanced server connection state) (found : state.inProgress.get id = some running)
    (phase : running.phase = .validation filters)
    (steady : Steady server connection state (.resume id valid generatedId)) :
    Balanced server connection (server.afterValidation state id running filters valid generatedId) := by
  have waiting : running.phase ≠ .counting := by rw [phase]; exact nofun
  have finished := balanced.finish found waiting
  unfold SubscriptionServer.afterValidation
  cases handling : server.handleValidated filters valid with
  | ends => exact finished
  | validates filters => exact finished
  | subscribes subscription =>
      have makes : server.subscriptionOf state running valid = some subscription := by
        rw [subscriptionOf, phase]
        dsimp only
        rw [handling]
      dsimp only
      by_cases own : connection = running.connection
      · subst own
        obtain ⟨fresh, responds, room⟩ := (steady running found rfl).1 subscription makes
        rw [if_pos responds]
        have awaited := moves_await running.connection found { running with phase := .counting }
        rw [awaitsCount_of_phase waiting, awaitsCount, if_pos ⟨rfl, rfl⟩] at awaited
        have moves := awaited.trans (moves_subscribe (state.await id { running with phase := .counting })
          running.connection running.connection subscription.event subscription.filters generatedId fun _ => fresh)
        rw [if_pos rfl] at moves
        refine balanced.moves moves rfl ?_ (.inr ?_)
        · simpa using balanced.nonneg
        · omega
      · split
        · have moves := moves_await connection found { running with phase := .counting }
          have counting : awaitsCount connection { running with phase := .counting } = 0 := awaitsCount_of_other own
          rw [awaitsCount_of_phase waiting, counting] at moves
          have waits := balanced.moves moves rfl (by simpa using balanced.nonneg) (.inl (Int.le_refl 0))
          exact waits.subscribe_other own _ _ _
        · exact finished.subscribe_other own _ _ _

theorem Balanced.resume {id : Nat} {running : InProgress} {valid : Bool} {generatedId : String}
    (balanced : Balanced server connection state) (coupled : state.subscriptionService.Coupled)
    (found : state.inProgress.get id = some running)
    (steady : Steady server connection state (.resume id valid generatedId)) :
    Balanced server connection (server.resume state id running valid generatedId) := by
  unfold SubscriptionServer.resume
  split
  · rename_i phase
    exact balanced.afterRateLimit coupled found phase steady
  · rename_i filters phase
    exact balanced.afterValidation found phase steady
  · rename_i phase
    have moves := (moves_finish connection found).trans (moves_changeSubs _ connection running.connection 1)
    have nonneg := balanced.nonneg
    by_cases own : connection = running.connection
    · rw [awaitsCount, if_pos ⟨own.symm, phase⟩, if_pos own] at moves
      exact balanced.moves moves rfl (by omega) (.inl (Int.le_refl 0))
    · rw [awaitsCount_of_other own, if_neg own] at moves
      exact balanced.moves moves rfl (by omega) (.inl (Int.le_refl 0))

/-- What holds in every state of a run: the services are coupled, and the numbers of the
connection fit together as long as it is open. -/
structure Accounted (server : SubscriptionServer) (connection : String) (state : ServerState) : Prop where
  coupled : state.subscriptionService.Coupled
  balanced : connection ∉ state.closed → Balanced server connection state

theorem subscriptionService_resume (server : SubscriptionServer) (state : ServerState) (id : Nat)
    (running : InProgress) (valid : Bool) (generatedId : String) :
    (server.resume state id running valid generatedId).closed = state.closed ∧
      (state.subscriptionService.Coupled →
        (server.resume state id running valid generatedId).subscriptionService.Coupled) := by
  unfold SubscriptionServer.resume
  split
  · unfold SubscriptionServer.afterRateLimit
    split
    · split
      · exact ⟨rfl, fun coupled => (SubscriptionService.unsubscribe_spec coupled _ _).1⟩
      · exact ⟨rfl, fun coupled => coupled⟩
    · split
      · exact ⟨rfl, fun coupled => coupled⟩
      · exact ⟨rfl, fun coupled => coupled⟩
      · dsimp only
        split
        · exact ⟨rfl, fun coupled => coupled.subscribe _ _ _ _⟩
        · exact ⟨rfl, fun coupled => coupled.subscribe _ _ _ _⟩
  · unfold SubscriptionServer.afterValidation
    split
    · dsimp only
      split
      · exact ⟨rfl, fun coupled => coupled.subscribe _ _ _ _⟩
      · exact ⟨rfl, fun coupled => coupled.subscribe _ _ _ _⟩
    · exact ⟨rfl, fun coupled => coupled⟩
  · exact ⟨rfl, fun coupled => coupled⟩

theorem Accounted.step {label : ServerLabel} (accounted : Accounted server connection state)
    (steady : Steady server connection state label) (served : server.serve state label = some after) :
    Accounted server connection after := by
  cases label with
  | receive id other request =>
      rw [serve] at served
      split at served
      · cases served
      · rename_i new
        obtain rfl := Option.some.inj served
        refine ⟨accounted.coupled, fun opened => ?_⟩
        have missing : state.inProgress.get id = none := by
          cases found : state.inProgress.get id with
          | none => rfl
          | some running => exact absurd (.inl (by rw [found]; rfl)) new
        have waits : awaitsCount connection { connection := other, request, phase := .rateLimit } = 0 := by
          apply awaitsCount_of_phase
          rintro ⟨⟩
        have moves := moves_receive connection missing { connection := other, request, phase := .rateLimit }
        rw [waits] at moves
        have balanced := accounted.balanced opened
        exact balanced.moves moves rfl (by simpa using balanced.nonneg) (.inl (Int.le_refl 0))
  | resume id valid generatedId =>
      rw [serve, Option.map_eq_some_iff] at served
      obtain ⟨running, found, rfl⟩ := served
      obtain ⟨closed, coupled⟩ := subscriptionService_resume server state id running valid generatedId
      refine ⟨coupled accounted.coupled, fun opened => ?_⟩
      rw [closed] at opened
      exact (accounted.balanced opened).resume accounted.coupled found steady
  | close other =>
      rw [serve] at served
      split at served
      · cases served
      · obtain rfl := Option.some.inj served
        refine ⟨(SubscriptionService.unsubscribe_spec accounted.coupled other none).1, fun opened => ?_⟩
        have different : connection ≠ other := by
          rintro rfl
          exact opened List.mem_cons_self
        have balanced := accounted.balanced fun member => opened (List.mem_cons_of_mem _ member)
        exact balanced.moves (moves_close other different) rfl (by simpa using balanced.nonneg) (.inl (Int.le_refl 0))

private theorem accounted_initial (server : SubscriptionServer) (connection : String) (pollingInterval : Nat)
    (newHeadsEnabled sameSubForSameEvent : Bool) :
    Accounted server connection (.initial pollingInterval newHeadsEnabled sameSubForSameEvent) where
  coupled := SubscriptionService.coupled_new _ _ _
  balanced := fun _ => ⟨rfl, Int.le_refl 0, by simp [initial, uncounted, Table.total, Table.empty]⟩

private theorem uncounted_of_idle (idle : state.Idle connection) : state.uncounted connection = 0 := by
  rw [uncounted, Table.total, List.sum_eq_zero_iff_forall_eq_nat]
  rintro _ member
  obtain ⟨⟨id, running⟩, inside, rfl⟩ := List.mem_map.mp member
  exact awaitsCount_of_other (idle id running (Table.mem_entries_iff.mp inside)).symm

/-- In a run of steady steps the counter of an open connection is the number of its
subscriptions whenever none of its requests is in progress, never negative and never beyond
the limit. -/
theorem counter_of_steady (server : SubscriptionServer) (connection : String) (pollingInterval : Nat)
    (newHeadsEnabled sameSubForSameEvent : Bool) (labels : List ServerLabel) (final : ServerState)
    (steady : Meets server.serve (Steady server connection)
      (.initial pollingInterval newHeadsEnabled sameSubForSameEvent) labels)
    (reached : run server.serve (.initial pollingInterval newHeadsEnabled sameSubForSameEvent) labels = some final)
    (opened : connection ∉ final.closed) :
    (final.Idle connection → final.subscriptions connection = final.entries connection) ∧
      0 ≤ final.subscriptions connection ∧ final.subscriptions connection ≤ server.wsSubscriptionLimit := by
  have accounted : Accounted server connection final :=
    run_invariant_of_meets (fun _ _ _ kept holds taken => kept.step holds taken)
      (accounted_initial server connection pollingInterval newHeadsEnabled sameSubForSameEvent) steady reached
  obtain ⟨balance, nonneg, limited⟩ := accounted.balanced opened
  refine ⟨fun idle => ?_, nonneg, ?_⟩
  · rw [uncounted_of_idle idle] at balance
    simpa using balance
  · omega

def exampleServer : SubscriptionServer where
  toWsServer := { WsServer.byDefault with subscriptionsEnabled := true }
  wsSubscriptionLimit := 10

def newHeadsRequest : SubscriptionRequest where
  id := some (.num 1)
  method := .eth_subscribe
  params := .arr [.str "newHeads"]

def subscribedOnce : List ServerLabel := [.receive 0 "c1" newHeadsRequest, .resume 0 true "0xa"]

private theorem subscribedOnce_steady :
    Meets exampleServer.serve (Steady exampleServer "c1") (.initial 500 true true) subscribedOnce := by
  refine meets_cons trivial rfl (meets_cons ?_ rfl trivial)
  rintro running found _
  obtain rfl := Option.some.inj found
  refine ⟨?_, nofun⟩
  rintro subscription makes
  obtain rfl := Option.some.inj makes
  exact ⟨rfl, rfl, by decide⟩

theorem counter_of_subscribedOnce : ∃ final,
    run exampleServer.serve (.initial 500 true true) subscribedOnce = some final ∧
      0 ≤ final.subscriptions "c1" ∧ final.subscriptions "c1" ≤ 10 := by
  refine ⟨_, rfl, ?_⟩
  exact (counter_of_steady exampleServer "c1" 500 true true subscribedOnce _ subscribedOnce_steady rfl (by decide)).2

/-- The subscription is used again, and counted twice. -/
def subscribedTwice : List ServerLabel :=
  [.receive 0 "c1" newHeadsRequest, .resume 0 true "0xa", .receive 1 "c1" newHeadsRequest, .resume 1 true "0xb"]

theorem counter_of_subscribedTwice_fails :
    ¬ ∀ (server : SubscriptionServer) (connection : String) (pollingInterval : Nat)
      (newHeadsEnabled sameSubForSameEvent : Bool) (labels : List ServerLabel) (final : ServerState),
      run server.serve (.initial pollingInterval newHeadsEnabled sameSubForSameEvent) labels = some final →
      connection ∉ final.closed → final.Idle connection →
        final.subscriptions connection = final.entries connection := by
  intro counted
  have same := counted exampleServer "c1" 500 true true subscribedTwice _ rfl (by decide)
    fun id running found => by cases found
  revert same
  decide

end SubscriptionServer

end HieroRelay.Ws
