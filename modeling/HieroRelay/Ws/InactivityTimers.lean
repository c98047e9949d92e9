import HieroRelay.Lib.Timers
import HieroRelay.Ws.ConnectionCounts

/-! The inactivity timers of the WebSocket server. Each message of a client, each answer to it and
each notification of a subscriber starts the timer of its websocket again, and a timer that runs
closes the websocket. -/

namespace HieroRelay.Ws

open HieroRelay.Lib (Table Timer Timers run run_invariant run_trace_induction)

inductive ReadyState where
  | isOpen
  | closing
  | closed
  deriving Repr, DecidableEq

/-- The websocket object, which is there after its connection is gone. -/
structure WebSocket where
  readyState : ReadyState
  inactivityTTL : Option Nat
  deriving Repr, DecidableEq

/-- The callback of a timer closes over its websocket. -/
structure TimedServer (Ip : Type) where
  connectionState : ConnectionState Ip
  websockets : Table Nat WebSocket
  timers : Timers Nat
  inactivityTTLCounter : Nat

/-- Time passes, the loop runs a timer, or something happens to a websocket: it is opened, a
message comes, an answer or a notification is sent, the client starts to close it, or its close
event comes. -/
inductive TimedLabel (Ip : Type) where
  | advance (milliseconds : Nat)
  | fire (timer : Nat)
  | connect (websocket : Nat) (id : String) (ip : Ip) (serverConnections : Nat)
  | message (websocket : Nat)
  | reply (websocket : Nat)
  | notification (websocket : Nat)
  | leave (websocket : Nat)
  | close (websocket : Nat)
  deriving Repr, DecidableEq

namespace TimedServer

open ConnectionState (twoPerIp)

variable {Ip : Type} [DecidableEq Ip]

def initial (subscriptionService : SubscriptionService) : TimedServer Ip where
  connectionState := .initial subscriptionService
  websockets := .empty
  timers := .start
  inactivityTTLCounter := 0

variable (config : LimiterConfig) (server : TimedServer Ip)

def startInactivityTTLTimer (websocket : Nat) (socket : WebSocket) : TimedServer Ip :=
  { server with
    timers := server.timers.setTimeout websocket config.wsMaxInactivityTtl
    websockets := server.websockets.assign websocket { socket with inactivityTTL := some server.timers.nextId } }

/-- The timer that a websocket knows is cleared, whether it is pending or not. -/
def cleared (socket : WebSocket) : TimedServer Ip :=
  match socket.inactivityTTL with
  | some timer => { server with timers := server.timers.clearTimeout timer }
  | none => server

def resetInactivityTTLTimer (websocket : Nat) (socket : WebSocket) : TimedServer Ip :=
  (server.cleared socket).startInactivityTTLTimer config websocket socket

/-- The callback of the timer. What is sent on a websocket that is closing gets lost. -/
def expire (websocket : Nat) (socket : WebSocket) : TimedServer Ip :=
  if socket.readyState = .closed then server
  else
    { server with
      inactivityTTLCounter := server.inactivityTTLCounter + 1
      websockets := server.websockets.assign websocket { socket with readyState := .closing }
      connectionState := match server.connectionState.connections.get websocket with
        | some connection => { server.connectionState with
            connections := server.connectionState.connections.assign websocket
              (ConnectionLimiter.expire config connection) }
        | none => server.connectionState }

/-- A connection that is over a limit is closed and gets no timer, but its messages are still
listened to. -/
def connect (websocket : Nat) (id : String) (ip : Ip) (serverConnections : Nat) : TimedServer Ip :=
  let connectionState := server.connectionState.connect config websocket id ip serverConnections
  let server := { server with connectionState }
  if (connectionState.connections.get websocket).any Connection.inactivityTTL then
    server.startInactivityTTLTimer config websocket { readyState := .isOpen, inactivityTTL := none }
  else
    { server with
      websockets := server.websockets.assign websocket { readyState := .closing, inactivityTTL := none } }

def step (server : TimedServer Ip) : TimedLabel Ip → Option (TimedServer Ip)
  | .advance milliseconds => some { server with timers := server.timers.advance milliseconds }
  | .fire timer =>
      (server.timers.due timer).bind fun due =>
        (server.websockets.get due.callback).map fun socket =>
          { server with timers := server.timers.clearTimeout timer }.expire config due.callback socket
  | .connect websocket id ip serverConnections =>
      if (server.websockets.get websocket).isSome then none
      else some (server.connect config websocket id ip serverConnections)
  | .message websocket =>
      ((server.websockets.get websocket).filter (·.readyState ≠ .closed)).map fun socket =>
        server.resetInactivityTTLTimer config websocket socket
  | .reply websocket | .notification websocket =>
      (server.websockets.get websocket).map fun socket => server.resetInactivityTTLTimer config websocket socket
  | .leave websocket =>
      ((server.websockets.get websocket).filter (·.readyState = .isOpen)).map fun socket =>
        { server with websockets := server.websockets.assign websocket { socket with readyState := .closing } }
  | .close websocket =>
      ((server.websockets.get websocket).filter (·.readyState ≠ .closed)).bind fun socket =>
        (server.connectionState.connections.get websocket).map fun connection =>
          { server with
            connectionState := server.connectionState.handleConnectionClose websocket connection
            websockets := server.websockets.assign websocket { socket with readyState := .closed } }

def duration : TimedLabel Ip → Nat
  | .advance milliseconds => milliseconds
  | _ => 0

/-- The moment after some labels. -/
def clock (labels : List (TimedLabel Ip)) : Nat := (labels.map duration).sum

/-- The websocket that a label shows to be in use. -/
def uses : TimedLabel Ip → Option Nat
  | .connect websocket _ _ _ | .message websocket | .reply websocket | .notification websocket =>
      some websocket
  | _ => none

/-- The same, of labels with the last one first. -/
def lastUseOf (websocket : Nat) : List (TimedLabel Ip) → Option Nat
  | [] => none
  | label :: earlier => if uses label = some websocket then some (clock earlier) else lastUseOf websocket earlier

/-- The last moment at which the websocket was in use. -/
def lastUse (websocket : Nat) (labels : List (TimedLabel Ip)) : Option Nat := lastUseOf websocket labels.reverse

def IsOpen (websocket : Nat) : Prop :=
  ∃ socket, server.websockets.get websocket = some socket ∧ socket.readyState = .isOpen

/-- The websocket of a timer knows it, and it is due when nothing happened for the time of the
limit. -/
def Watches (labels : List (TimedLabel Ip)) (timer : Timer Nat) : Prop :=
  ∃ socket last, server.websockets.get timer.callback = some socket ∧ socket.inactivityTTL = some timer.id ∧
    lastUse timer.callback labels = some last ∧ timer.deadline = last + Timers.delayOf config.wsMaxInactivityTtl

/-- The timer that a websocket knows was started for it, even if it is not pending any more. -/
def Knows (websocket : Nat) (socket : WebSocket) : Prop :=
  ∀ id, socket.inactivityTTL = some id →
    id < server.timers.nextId ∧ ∀ timer ∈ server.timers.pending, timer.id = id → timer.callback = websocket

/-- What holds after some labels: every timer watches its websocket, every websocket knows its
own timer, and every open one has a timer. -/
structure Timely (labels : List (TimedLabel Ip)) : Prop where
  now : server.timers.now = clock labels
  watches : ∀ timer ∈ server.timers.pending, server.Watches config labels timer
  knows : ∀ websocket socket, server.websockets.get websocket = some socket → server.Knows websocket socket
  watched : ∀ websocket, server.IsOpen websocket → ∃ timer ∈ server.timers.pending, timer.callback = websocket

variable {config server} {labels : List (TimedLabel Ip)} {label : TimedLabel Ip}

section Keep
omit [DecidableEq Ip]

theorem clock_append : clock (labels ++ [label]) = clock labels + duration label := by
  simp [clock]

theorem lastUse_append (websocket : Nat) :
    lastUse websocket (labels ++ [label]) =
      if uses label = some websocket then some (clock labels) else lastUse websocket labels := by
  simp [lastUse, lastUseOf, clock, List.sum_reverse]

private theorem lastUse_append_other {websocket : Nat} (other : uses label ≠ some websocket) :
    lastUse websocket (labels ++ [label]) = lastUse websocket labels := by
  simp [lastUse_append, other]

/-- A timer of another websocket is left alone. -/
theorem Watches.step {timer : Timer Nat} {after : TimedServer Ip} (watches : server.Watches config labels timer)
    (same : ∀ socket, server.websockets.get timer.callback = some socket →
      ∃ later, after.websockets.get timer.callback = some later ∧ later.inactivityTTL = socket.inactivityTTL)
    (other : uses label ≠ some timer.callback) : after.Watches config (labels ++ [label]) timer := by
  obtain ⟨socket, last, found, own, used, deadline⟩ := watches
  obtain ⟨later, kept, held⟩ := same socket found
  exact ⟨later, last, kept, held.trans own, (lastUse_append_other other).trans used, deadline⟩

/-- A websocket has at most one timer. -/
theorem Timely.unique (timely : server.Timely config labels) {timer other : Timer Nat}
    (member : timer ∈ server.timers.pending) (pending : other ∈ server.timers.pending)
    (same : timer.callback = other.callback) : timer = other := by
  obtain ⟨socket, _, found, own, _⟩ := timely.watches timer member
  obtain ⟨_, _, found', own', _⟩ := timely.watches other pending
  rw [← same, found] at found'
  obtain rfl := Option.some.inj found'
  exact Timers.eq_of_id_eq member pending (Option.some.inj (own.symm.trans own'))

/-- A timer of a websocket is the one that it knows. -/
theorem Timely.known (timely : server.Timely config labels) {timer : Timer Nat} {socket : WebSocket}
    (member : timer ∈ server.timers.pending) (found : server.websockets.get timer.callback = some socket) :
    socket.inactivityTTL = some timer.id := by
  obtain ⟨_, _, held, own, _⟩ := timely.watches timer member
  obtain rfl := Option.some.inj (held.symm.trans found)
  exact own

@[simp] theorem websockets_cleared (socket : WebSocket) : (server.cleared socket).websockets = server.websockets := by
  unfold cleared
  split <;> rfl

@[simp] theorem now_cleared (socket : WebSocket) : (server.cleared socket).timers.now = server.timers.now := by
  unfold cleared
  split <;> rfl

@[simp] theorem nextId_cleared (socket : WebSocket) :
    (server.cleared socket).timers.nextId = server.timers.nextId := by
  unfold cleared
  split <;> rfl

private theorem mem_pending_cleared {timer : Timer Nat} {socket : WebSocket} :
    timer ∈ (server.cleared socket).timers.pending ↔
      timer ∈ server.timers.pending ∧ socket.inactivityTTL ≠ some timer.id := by
  unfold cleared
  cases started : socket.inactivityTTL with
  | none => simp
  | some id => simp [Timers.mem_clearTimeout, eq_comm]

/-- After the timer of a websocket is cleared there are those of the others. -/
theorem Timely.mem_cleared (timely : server.Timely config labels) {websocket : Nat} {socket : WebSocket}
    (found : server.websockets.get websocket = some socket) {timer : Timer Nat} :
    timer ∈ (server.cleared socket).timers.pending ↔
      timer ∈ server.timers.pending ∧ timer.callback ≠ websocket := by
  rw [mem_pending_cleared]
  refine and_congr_right fun member => not_congr ?_
  constructor
  · intro started
    exact (timely.knows websocket socket found timer.id started).2 timer member rfl
  · intro own
    exact timely.known member (own ▸ found)

/-- The timer of a websocket is started at its use. -/
theorem Timely.start {before : TimedServer Ip} (timely : before.Timely config labels) {websocket : Nat}
    (socket : WebSocket) (used : uses label = some websocket) (still : duration label = 0)
    (sameNow : server.timers.now = before.timers.now) (sameId : server.timers.nextId = before.timers.nextId)
    (sameSockets : server.websockets = before.websockets)
    (others : ∀ timer, timer ∈ server.timers.pending ↔
      timer ∈ before.timers.pending ∧ timer.callback ≠ websocket) :
    (server.startInactivityTTLTimer config websocket socket).Timely config (labels ++ [label]) := by
  have newSockets : ∀ other, (server.startInactivityTTLTimer config websocket socket).websockets.get other =
      if other = websocket then some { socket with inactivityTTL := some server.timers.nextId }
      else before.websockets.get other := by
    intro other
    simp [startInactivityTTLTimer, sameSockets]
  refine ⟨?_, ?_, ?_, ?_⟩
  · rw [clock_append, still, Nat.add_zero]
    exact sameNow.trans timely.now
  · intro timer member
    rcases Timers.mem_setTimeout.mp member with rfl | member
    · refine ⟨_, clock labels, by simp [newSockets]; rfl, rfl, ?_, ?_⟩
      · rw [lastUse_append, if_pos used]
      · exact congrArg (· + _) (sameNow.trans timely.now)
    · obtain ⟨old, different⟩ := (others timer).mp member
      apply (timely.watches timer old).step
      · intro held found
        exact ⟨held, by rw [newSockets, if_neg different, found], rfl⟩
      · rw [used]
        exact fun same => different (Option.some.inj same).symm
  · intro other held found id started
    rw [newSockets] at found
    split at found
    · next same =>
      obtain rfl := Option.some.inj found
      obtain rfl := Option.some.inj started
      refine ⟨Nat.lt_succ_self _, ?_⟩
      intro timer member named
      rcases Timers.mem_setTimeout.mp member with rfl | member
      · exact same.symm
      · exact absurd named (Nat.ne_of_lt (server.timers.issued timer member))
    · next different =>
      obtain ⟨issued, own⟩ := timely.knows other held found id started
      have later : id < server.timers.nextId + 1 := by omega
      refine ⟨later, ?_⟩
      intro timer member named
      rcases Timers.mem_setTimeout.mp member with rfl | member
      · exact absurd (sameId.symm.trans named) (Nat.ne_of_gt issued)
      · exact own timer ((others timer).mp member).1 named
  · intro other isOpen
    by_cases same : other = websocket
    · exact ⟨_, Timers.mem_setTimeout.mpr (.inl rfl), same.symm⟩
    · obtain ⟨held, found, state⟩ := isOpen
      rw [newSockets, if_neg same] at found
      obtain ⟨timer, member, own⟩ := timely.watched other ⟨held, found, state⟩
      exact ⟨timer, Timers.mem_setTimeout.mpr (.inr ((others timer).mpr ⟨member, own ▸ same⟩)), own⟩

theorem Timely.reset (timely : server.Timely config labels) {websocket : Nat} {socket : WebSocket}
    (found : server.websockets.get websocket = some socket) (used : uses label = some websocket)
    (still : duration label = 0) :
    (server.resetInactivityTTLTimer config websocket socket).Timely config (labels ++ [label]) := by
  rw [resetInactivityTTLTimer]
  exact timely.start socket used still (now_cleared socket) (nextId_cleared socket) (websockets_cleared socket)
    fun _ => timely.mem_cleared found

/-- What leaves the timers as they are, and each websocket with its timer and not opened again. -/
theorem Timely.keep {before : TimedServer Ip} (timely : before.Timely config labels) (unused : uses label = none)
    (now : server.timers.now = clock (labels ++ [label])) (sameId : server.timers.nextId = before.timers.nextId)
    (fewer : ∀ timer ∈ server.timers.pending, timer ∈ before.timers.pending)
    (forth : ∀ websocket socket, before.websockets.get websocket = some socket →
      ∃ later, server.websockets.get websocket = some later ∧ later.inactivityTTL = socket.inactivityTTL)
    (back : ∀ websocket later, server.websockets.get websocket = some later →
      ∃ socket, before.websockets.get websocket = some socket ∧ later.inactivityTTL = socket.inactivityTTL ∧
        (later.readyState = .isOpen → socket.readyState = .isOpen ∧
          ∀ timer ∈ before.timers.pending, timer.callback = websocket → timer ∈ server.timers.pending)) :
    server.Timely config (labels ++ [label]) := by
  refine ⟨now, ?_, ?_, ?_⟩
  · intro timer member
    apply (timely.watches timer (fewer timer member)).step (forth timer.callback)
    rw [unused]
    exact nofun
  · intro websocket later found id started
    obtain ⟨socket, held, same, _⟩ := back websocket later found
    obtain ⟨issued, own⟩ := timely.knows websocket socket held id (same ▸ started)
    exact ⟨sameId ▸ issued, fun timer member => own timer (fewer timer member)⟩
  · intro websocket isOpen
    obtain ⟨later, found, state⟩ := isOpen
    obtain ⟨socket, held, _, open_⟩ := back websocket later found
    obtain ⟨wasOpen, kept⟩ := open_ state
    obtain ⟨timer, member, own⟩ := timely.watched websocket ⟨socket, held, wasOpen⟩
    exact ⟨timer, kept timer member own, own⟩

@[simp] theorem timers_expire (websocket : Nat) (socket : WebSocket) :
    (server.expire config websocket socket).timers = server.timers := by
  unfold expire
  split <;> rfl

/-- A timer closes its websocket, unless that is closed, and no other one. -/
theorem get_expire (websocket other : Nat) (socket : WebSocket)
    (found : server.websockets.get websocket = some socket) :
    (server.expire config websocket socket).websockets.get other =
      if other = websocket then
        some (if socket.readyState = .closed then socket else { socket with readyState := .closing })
      else server.websockets.get other := by
  unfold expire
  by_cases same : other = websocket
  · subst same
    split <;> simp_all
  · split <;> simp [same]

theorem Timely.fire (timely : server.Timely config labels) {due : Timer Nat} (member : due ∈ server.timers.pending)
    {socket : WebSocket} (found : server.websockets.get due.callback = some socket) :
    ({ server with timers := server.timers.clearTimeout due.id }.expire config due.callback socket).Timely config
      (labels ++ [TimedLabel.fire due.id]) := by
  have sockets : ∀ other, _ := fun other =>
    @get_expire Ip config { server with timers := server.timers.clearTimeout due.id } due.callback other socket found
  refine timely.keep rfl ?_ (by simp [Timers.clearTimeout]) ?_ ?_ ?_
  · rw [clock_append, timers_expire]
    exact timely.now
  · intro timer pending
    rw [timers_expire] at pending
    exact (Timers.mem_clearTimeout.mp pending).1
  · intro websocket held holds
    rw [sockets]
    by_cases same : websocket = due.callback
    · subst same
      obtain rfl := Option.some.inj (found.symm.trans holds)
      refine ⟨_, if_pos rfl, ?_⟩
      split <;> rfl
    · exact ⟨held, by rw [if_neg same, holds], rfl⟩
  · intro websocket later holds
    rw [sockets] at holds
    by_cases same : websocket = due.callback
    · subst same
      rw [if_pos rfl] at holds
      refine ⟨socket, found, ?_⟩
      obtain rfl := Option.some.inj holds
      split <;> simp_all
    · rw [if_neg same] at holds
      refine ⟨later, holds, rfl, fun state => ⟨state, ?_⟩⟩
      intro timer pending own
      rw [timers_expire]
      refine Timers.mem_clearTimeout.mpr ⟨pending, ?_⟩
      intro named
      have equal := Timers.eq_of_id_eq pending member named
      exact same (own.symm.trans (congrArg Timer.callback equal))

/-- A websocket that is closed, or left by its client, keeps its timer. -/
theorem Timely.shut (timely : server.Timely config labels) (unused : uses label = none) (still : duration label = 0)
    {websocket : Nat} {socket : WebSocket} (found : server.websockets.get websocket = some socket) {state : ReadyState}
    (shut : state ≠ .isOpen) (connectionState : ConnectionState Ip) :
    ({ server with
        connectionState
        websockets := server.websockets.assign websocket { socket with readyState := state } } : TimedServer Ip).Timely
      config (labels ++ [label]) := by
  refine timely.keep unused ?_ rfl (fun _ member => member) ?_ ?_
  · rw [clock_append, still]
    exact timely.now
  · intro other held holds
    by_cases same : other = websocket
    · subst same
      obtain rfl := Option.some.inj (found.symm.trans holds)
      exact ⟨{ socket with readyState := state }, by simp, rfl⟩
    · exact ⟨held, by simp [same, holds], rfl⟩
  · intro other later holds
    by_cases same : other = websocket
    · subst same
      simp only [Table.get_assign, if_true, Option.some.injEq] at holds
      subst holds
      exact ⟨socket, found, rfl, fun isOpen => absurd isOpen shut⟩
    · simp only [Table.get_assign, same, if_false] at holds
      exact ⟨later, holds, rfl, fun isOpen => ⟨isOpen, fun _ member _ => member⟩⟩

end Keep

theorem Timely.connect (timely : server.Timely config labels) {websocket : Nat}
    (absent : server.websockets.get websocket = none) (id : String) (ip : Ip) (serverConnections : Nat) :
    (server.connect config websocket id ip serverConnections).Timely config
      (labels ++ [.connect websocket id ip serverConnections]) := by
  have others : ∀ timer ∈ server.timers.pending, timer.callback ≠ websocket := by
    intro timer member own
    obtain ⟨_, _, found, _⟩ := timely.watches timer member
    rw [own, absent] at found
    cases found
  have used : uses (.connect websocket id ip serverConnections) = some websocket := rfl
  unfold TimedServer.connect
  dsimp only
  split
  · refine timely.start _ used rfl rfl rfl rfl ?_
    exact fun timer => ⟨fun member => ⟨member, others timer member⟩, And.left⟩
  · refine ⟨?_, ?_, ?_, ?_⟩
    · rw [clock_append]
      exact timely.now
    · intro timer member
      have different := others timer member
      apply (timely.watches timer member).step
      · intro held found
        exact ⟨held, by simp [different, found], rfl⟩
      · exact fun same => different (Option.some.inj same).symm
    · intro other held found
      by_cases same : other = websocket
      · subst same
        simp only [Table.get_assign, if_true, Option.some.injEq] at found
        subst found
        intro timer known
        cases known
      · simp only [Table.get_assign, same, if_false] at found
        exact timely.knows other held found
    · intro other isOpen
      obtain ⟨held, found, state⟩ := isOpen
      by_cases same : other = websocket
      · subst same
        simp only [Table.get_assign, if_true, Option.some.injEq] at found
        subst found
        cases state
      · simp only [Table.get_assign, same, if_false] at found
        exact timely.watched other ⟨held, found, state⟩

/-- Every step keeps the timers in time. -/
theorem Timely.step (timely : server.Timely config labels) {after : TimedServer Ip}
    (taken : server.step config label = some after) : after.Timely config (labels ++ [label]) := by
  cases label with
  | advance milliseconds =>
    obtain rfl := Option.some.inj taken
    refine timely.keep rfl ?_ rfl (fun _ member => member) (fun _ socket found => ⟨socket, found, rfl⟩) ?_
    · rw [clock_append, ← timely.now]
      rfl
    · intro websocket socket found
      exact ⟨socket, found, rfl, fun isOpen => ⟨isOpen, fun _ member _ => member⟩⟩
  | fire timer =>
    obtain ⟨due, found, taken⟩ := Option.bind_eq_some_iff.mp taken
    obtain ⟨socket, held, rfl⟩ := Option.map_eq_some_iff.mp taken
    obtain ⟨member, rfl, _⟩ := Timers.due_eq_some_iff.mp found
    exact timely.fire member held
  | connect websocket id ip serverConnections =>
    unfold TimedServer.step at taken
    dsimp only at taken
    split at taken
    · cases taken
    · next absent =>
      obtain rfl := Option.some.inj taken
      exact timely.connect (Option.not_isSome_iff_eq_none.mp absent) id ip serverConnections
  | message websocket =>
    obtain ⟨socket, found, rfl⟩ := Option.map_eq_some_iff.mp taken
    exact timely.reset (Option.filter_eq_some_iff.mp found).1 rfl rfl
  | reply websocket | notification websocket =>
    obtain ⟨socket, found, rfl⟩ := Option.map_eq_some_iff.mp taken
    exact timely.reset found rfl rfl
  | leave websocket =>
    obtain ⟨socket, found, rfl⟩ := Option.map_eq_some_iff.mp taken
    have unused : uses (.leave websocket : TimedLabel Ip) = none := rfl
    exact timely.shut unused rfl (Option.filter_eq_some_iff.mp found).1 (by decide) _
  | close websocket =>
    obtain ⟨socket, found, taken⟩ := Option.bind_eq_some_iff.mp taken
    obtain ⟨connection, _, rfl⟩ := Option.map_eq_some_iff.mp taken
    have unused : uses (.close websocket : TimedLabel Ip) = none := rfl
    exact timely.shut unused rfl (Option.filter_eq_some_iff.mp found).1 (by decide) _

private theorem timely_run (subscriptionService : SubscriptionService)
    (reached : run (step config) (.initial subscriptionService) labels = some server) :
    server.Timely config labels := by
  apply @run_trace_induction _ _ (step config) (fun labels server => server.Timely config labels) _ _ _ _ _ reached
  · exact ⟨rfl, List.forall_mem_nil _, nofun, fun _ isOpen => absurd isOpen.choose_spec.1 nofun⟩
  · intro labels before label after _ timely taken
    exact timely.step taken

omit [DecidableEq Ip] in
/-- A timer that is started changes no state. -/
theorem isOpen_start {websocket : Nat} {socket : WebSocket} (found : server.websockets.get websocket = some socket)
    (other : Nat) : (server.startInactivityTTLTimer config websocket socket).IsOpen other ↔ server.IsOpen other := by
  by_cases same : other = websocket
  · subst same
    simp [IsOpen, startInactivityTTLTimer, found]
  · simp [IsOpen, startInactivityTTLTimer, same]

omit [DecidableEq Ip] in
theorem isOpen_reset {websocket : Nat} {socket : WebSocket} (found : server.websockets.get websocket = some socket)
    (other : Nat) : (server.resetInactivityTTLTimer config websocket socket).IsOpen other ↔ server.IsOpen other := by
  rw [resetInactivityTTLTimer, isOpen_start (by rw [websockets_cleared, found]), IsOpen, IsOpen, websockets_cleared]

omit [DecidableEq Ip] in
theorem isOpen_assign_other {websocket other : Nat} (different : other ≠ websocket) (socket : WebSocket)
    (connectionState : ConnectionState Ip) :
    ({ server with connectionState, websockets := server.websockets.assign websocket socket } : TimedServer Ip).IsOpen
      other ↔ server.IsOpen other := by
  simp [IsOpen, different]

/-- A step after which an open websocket is not open any more: its client leaves, its close event
comes, or its timer runs. -/
theorem closes_cases {after : TimedServer Ip} (taken : server.step config label = some after) {websocket : Nat}
    (isOpen : server.IsOpen websocket) (ended : ¬ after.IsOpen websocket) :
    label = .leave websocket ∨ label = .close websocket ∨
      ∃ due ∈ server.timers.pending, due.callback = websocket ∧ due.deadline ≤ server.timers.now := by
  cases label with
  | advance milliseconds =>
    obtain rfl := Option.some.inj taken
    exact absurd isOpen ended
  | fire timer =>
    obtain ⟨due, found, taken⟩ := Option.bind_eq_some_iff.mp taken
    obtain ⟨socket, held, rfl⟩ := Option.map_eq_some_iff.mp taken
    obtain ⟨member, rfl, passed⟩ := Timers.due_eq_some_iff.mp found
    refine .inr (.inr ⟨due, member, ?_, passed⟩)
    by_contra different
    have kept := @get_expire Ip config { server with timers := server.timers.clearTimeout due.id } due.callback
      websocket socket held
    rw [if_neg fun same => different same.symm] at kept
    exact ended (by rwa [IsOpen, kept])
  | connect connected id ip serverConnections =>
    unfold TimedServer.step at taken
    dsimp only at taken
    split at taken
    · cases taken
    · next absent =>
      obtain rfl := Option.some.inj taken
      have different : websocket ≠ connected := by
        rintro rfl
        obtain ⟨socket, found, _⟩ := isOpen
        simp [found] at absent
      refine absurd ?_ ended
      unfold TimedServer.connect
      dsimp only
      split
      · simpa [IsOpen, startInactivityTTLTimer, different] using isOpen
      · exact (isOpen_assign_other different _ _).mpr isOpen
  | message used =>
    obtain ⟨socket, found, rfl⟩ := Option.map_eq_some_iff.mp taken
    exact absurd ((isOpen_reset (Option.filter_eq_some_iff.mp found).1 websocket).mpr isOpen) ended
  | reply used | notification used =>
    obtain ⟨socket, found, rfl⟩ := Option.map_eq_some_iff.mp taken
    exact absurd ((isOpen_reset found websocket).mpr isOpen) ended
  | leave left =>
    obtain ⟨socket, found, rfl⟩ := Option.map_eq_some_iff.mp taken
    by_cases same : websocket = left
    · exact .inl (congrArg _ same.symm)
    · exact absurd ((isOpen_assign_other same _ _).mpr isOpen) ended
  | close closed =>
    obtain ⟨socket, found, taken⟩ := Option.bind_eq_some_iff.mp taken
    obtain ⟨connection, _, rfl⟩ := Option.map_eq_some_iff.mp taken
    by_cases same : websocket = closed
    · exact .inr (.inl (congrArg _ same.symm))
    · exact absurd ((isOpen_assign_other same _ _).mpr isOpen) ended

/-- In every run a websocket that is closed for its inactivity was not used for the time of the
limit, and once all due timers have run, every websocket that was not used for this time is closed. -/
theorem open_while_used (subscriptionService : SubscriptionService)
    (reached : run (step config) (.initial subscriptionService) labels = some server) (websocket : Nat)
    (isOpen : server.IsOpen websocket) :
    ∃ last, lastUse websocket labels = some last ∧
      (server.timers.Settled → clock labels < last + Timers.delayOf config.wsMaxInactivityTtl) ∧
      ∀ label after, server.step config label = some after → ¬ after.IsOpen websocket →
        label = .leave websocket ∨ label = .close websocket ∨
          last + Timers.delayOf config.wsMaxInactivityTtl ≤ clock labels := by
  have timely := timely_run subscriptionService reached
  obtain ⟨timer, member, rfl⟩ := timely.watched websocket isOpen
  obtain ⟨_, last, _, _, used, deadline⟩ := timely.watches timer member
  refine ⟨last, used, ?_, ?_⟩
  · intro settled
    rw [← timely.now, ← deadline]
    exact settled timer member
  · intro label after taken ended
    rcases closes_cases taken isOpen ended with left | closed | fired
    · exact .inl left
    · exact .inr (.inl closed)
    · obtain ⟨due, pending, own, passed⟩ := fired
      obtain rfl := timely.unique pending member own
      rw [← timely.now, ← deadline]
      exact .inr (.inr passed)

/-- The first websocket is used again before its time is over, the second one is not. -/
def twoWebsockets : List (TimedLabel String) := [
  .connect 0 "0xa" "10.0.0.1" 1, .connect 1 "0xb" "10.0.0.2" 2, .advance 200000, .message 0, .reply 0,
  .notification 0, .advance 100000, .fire 1]

theorem open_while_used_twoWebsockets : ∃ server,
    run (step twoPerIp) (.initial (.new 1000 false false)) twoWebsockets = some server ∧
    ∃ last, lastUse 0 twoWebsockets = some last ∧
      (server.timers.Settled → clock twoWebsockets < last + Timers.delayOf twoPerIp.wsMaxInactivityTtl) ∧
      ∀ label after, server.step twoPerIp label = some after → ¬ after.IsOpen 0 →
        label = .leave 0 ∨ label = .close 0 ∨
          last + Timers.delayOf twoPerIp.wsMaxInactivityTtl ≤ clock twoWebsockets := by
  refine ⟨_, rfl, ?_⟩
  exact open_while_used (.new 1000 false false) rfl 0 ⟨⟨.isOpen, some 4⟩, rfl, rfl⟩

/-! ### The counts of the limiter -/

/-- The counts are exact, and only websockets that were opened have connections. -/
structure Counted (server : TimedServer Ip) : Prop where
  exactly : server.connectionState.Exact
  opened : ∀ websocket, server.websockets.get websocket = none →
    server.connectionState.connections.get websocket = none

private theorem counted_of_same {before : TimedServer Ip} (counted : before.Counted)
    (same : server.connectionState = before.connectionState)
    (fewer : ∀ websocket, server.websockets.get websocket = none → before.websockets.get websocket = none) :
    server.Counted :=
  ⟨same ▸ counted.exactly, fun websocket absent => same ▸ counted.opened websocket (fewer websocket absent)⟩

theorem Counted.reset (counted : server.Counted) {websocket : Nat} {socket : WebSocket} :
    (server.resetInactivityTTLTimer config websocket socket).Counted := by
  refine counted_of_same counted ?_ ?_
  · rw [resetInactivityTTLTimer, startInactivityTTLTimer, cleared]
    split <;> rfl
  · intro other absent
    rw [resetInactivityTTLTimer, startInactivityTTLTimer, websockets_cleared, Table.get_assign] at absent
    split at absent
    · cases absent
    · exact absent

theorem Counted.expire (counted : server.Counted) {websocket : Nat} {socket : WebSocket} :
    (server.expire config websocket socket).Counted := by
  have opened : ∀ other,
      (server.websockets.assign websocket { socket with readyState := .closing }).get other = none →
      other ≠ websocket ∧ server.websockets.get other = none := by
    intro other absent
    rw [Table.get_assign] at absent
    split at absent
    · cases absent
    · next different => exact ⟨different, absent⟩
  unfold TimedServer.expire
  split
  · exact counted
  · cases found : server.connectionState.connections.get websocket with
    | none => exact ⟨counted.exactly, fun other absent => counted.opened other (opened other absent).2⟩
    | some connection =>
      refine ⟨counted.exactly.expire found, ?_⟩
      intro other absent
      obtain ⟨different, absent⟩ := opened other absent
      simpa [different] using counted.opened other absent

/-- The timers, and the messages of connections that were refused, change nothing that is counted. -/
theorem Counted.step (before : TimedServer Ip) (label : TimedLabel Ip) (after : TimedServer Ip)
    (counted : before.Counted) (taken : before.step config label = some after) : after.Counted := by
  have assigned : ∀ websocket socket other, (before.websockets.assign websocket socket).get other = none →
      other ≠ websocket ∧ before.websockets.get other = none := by
    intro websocket socket other absent
    rw [Table.get_assign] at absent
    split at absent
    · cases absent
    · next different => exact ⟨different, absent⟩
  cases label with
  | advance milliseconds =>
    obtain rfl := Option.some.inj taken
    exact ⟨counted.exactly, counted.opened⟩
  | fire timer =>
    obtain ⟨due, _, taken⟩ := Option.bind_eq_some_iff.mp taken
    obtain ⟨socket, _, rfl⟩ := Option.map_eq_some_iff.mp taken
    have cleared : ({ before with timers := before.timers.clearTimeout timer } : TimedServer Ip).Counted :=
      ⟨counted.exactly, counted.opened⟩
    exact cleared.expire
  | connect websocket id ip serverConnections =>
    unfold TimedServer.step at taken
    dsimp only at taken
    split at taken
    · cases taken
    · next absent =>
      obtain rfl := Option.some.inj taken
      have fresh := counted.opened websocket (Option.not_isSome_iff_eq_none.mp absent)
      have exactly : (before.connectionState.connect config websocket id ip serverConnections).Exact :=
        counted.exactly.connect fresh id ip serverConnections
      have opened : ∀ other, other ≠ websocket ∧ before.websockets.get other = none →
          (before.connectionState.connect config websocket id ip serverConnections).connections.get other = none := by
        intro other apart
        have kept := counted.opened other apart.2
        simpa [ConnectionState.connect, apart.1] using kept
      unfold TimedServer.connect
      dsimp only
      split
      · exact ⟨exactly, fun other absent => opened other (assigned _ _ other absent)⟩
      · exact ⟨exactly, fun other absent => opened other (assigned _ _ other absent)⟩
  | message used =>
    obtain ⟨socket, _, rfl⟩ := Option.map_eq_some_iff.mp taken
    exact counted.reset
  | reply used | notification used =>
    obtain ⟨socket, _, rfl⟩ := Option.map_eq_some_iff.mp taken
    exact counted.reset
  | leave left =>
    obtain ⟨socket, _, rfl⟩ := Option.map_eq_some_iff.mp taken
    exact ⟨counted.exactly, fun other absent => counted.opened other (assigned _ _ other absent).2⟩
  | close closed =>
    obtain ⟨socket, _, taken⟩ := Option.bind_eq_some_iff.mp taken
    obtain ⟨connection, held, rfl⟩ := Option.map_eq_some_iff.mp taken
    refine ⟨counted.exactly.handleConnectionClose held, ?_⟩
    intro other absent
    have kept := counted.opened other (assigned _ _ other absent).2
    simp [ConnectionState.handleConnectionClose, kept]

/-- The counts of the limiter are exact with timers and messages as well. -/
theorem timed_clientIps_exact (config : LimiterConfig) (subscriptionService : SubscriptionService)
    (labels : List (TimedLabel Ip)) {final : TimedServer Ip}
    (reached : run (step config) (.initial subscriptionService) labels = some final) : final.connectionState.Exact := by
  have initial : (TimedServer.initial subscriptionService : TimedServer Ip).Counted :=
    ⟨fun _ => rfl, fun _ _ => rfl⟩
  exact (run_invariant Counted.step initial reached).exactly

end TimedServer

end HieroRelay.Ws
