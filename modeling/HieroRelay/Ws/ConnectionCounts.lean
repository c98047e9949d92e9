import HieroRelay.Lib.Run
import HieroRelay.Ws.SubscriptionService

/-! The connections of the WebSocket server and the counts of the connection limiter: for
each address the number of its connections that are still open. -/

namespace HieroRelay.Ws

open HieroRelay.Lib (Table run run_invariant)

structure WebSocketError where
  code : Nat
  message : String
  deriving Repr, DecidableEq

namespace WebSocketError

def CONNECTION_IP_LIMIT_EXCEEDED : WebSocketError :=
  { code := 4001, message := "Exceeded maximum connections from a single IP address" }

def TTL_EXPIRED : WebSocketError := { code := 4002, message := "Connection timeout expired" }

def CONNECTION_LIMIT_EXCEEDED : WebSocketError := { code := 4003, message := "Connection limit exceeded" }

end WebSocketError

/-- The message before a connection is closed: its data repeat the message of the error and
tell the limit under its name. -/
structure ClosingMessage where
  error : WebSocketError
  limitName : String
  limit : Int
  deriving Repr, DecidableEq

structure LimiterConfig where
  wsConnectionLimit : Int
  wsConnectionLimitPerIp : Int
  wsMaxInactivityTtl : Int
  deriving Repr, DecidableEq

/-- A count of JavaScript; `none` is `NaN`. -/
abbrev Count := Option Int

def Count.truthy : Count → Bool
  | some count => count ≠ 0
  | none => false

/-- The request and the websocket of a connection. The address is the one of its socket. -/
structure Connection (Ip : Type) where
  id : String
  ip : Ip
  ipCounted : Bool
  subscriptions : Int
  inactivityTTL : Bool
  closing : List ClosingMessage
  deriving Repr, DecidableEq

/-- The entries of `clientIps`, whose keys are no properties of the prototype. -/
structure ConnectionLimiter (Ip : Type) where
  connectedClients : Int
  clientIps : Table Ip Count

namespace ConnectionLimiter

variable {Ip : Type} [DecidableEq Ip] (limiter : ConnectionLimiter Ip)

def new : ConnectionLimiter Ip := { connectedClients := 0, clientIps := .empty }

/-- `undefined--` and `undefined++` give `NaN`. -/
def changeCount (ip : Ip) (amount : Int) : ConnectionLimiter Ip :=
  { limiter with
    clientIps := limiter.clientIps.assign ip (((limiter.clientIps.get ip).getD none).map (· + amount)) }

/-- The server knows how many connections there are. -/
def incrementCounters (connection : Connection Ip) (serverConnections : Nat) :
    ConnectionLimiter Ip × Connection Ip :=
  let limiter := { limiter with connectedClients := serverConnections }
  let limiter :=
    if !((limiter.clientIps.get connection.ip).getD none).truthy then
      { limiter with clientIps := limiter.clientIps.assign connection.ip (some 1) }
    else limiter.changeCount connection.ip 1
  (limiter, { connection with ipCounted := true, subscriptions := 0 })

def decrementCounters (connection : Connection Ip) : ConnectionLimiter Ip :=
  let limiter :=
    if connection.ipCounted then
      let limiter := limiter.changeCount connection.ip (-1)
      if limiter.clientIps.get connection.ip = some (some 0) then
        { limiter with clientIps := limiter.clientIps.erase connection.ip }
      else limiter
    else limiter
  { limiter with connectedClients := limiter.connectedClients - 1 }

def close (connection : Connection Ip) (message : ClosingMessage) : Connection Ip :=
  { connection with closing := connection.closing ++ [message] }

/-- The check of the limits closes the connection, or starts its timer. -/
def applyLimits (config : LimiterConfig) (connection : Connection Ip) : Connection Ip :=
  let count := (limiter.clientIps.get connection.ip).getD none
  if limiter.connectedClients > config.wsConnectionLimit then
    close connection {
      error := .CONNECTION_LIMIT_EXCEEDED
      limitName := "max_connection"
      limit := config.wsConnectionLimit }
  else if count.truthy && count.any (· > config.wsConnectionLimitPerIp) then
    close connection {
      error := .CONNECTION_IP_LIMIT_EXCEEDED
      limitName := "max_connection"
      limit := config.wsConnectionLimitPerIp }
  else { connection with inactivityTTL := true }

/-- The timer of a connection that is not closed yet. -/
def expire (config : LimiterConfig) (connection : Connection Ip) : Connection Ip :=
  close connection { error := .TTL_EXPIRED, limitName := "max_inactivity_TTL", limit := config.wsMaxInactivityTtl }

end ConnectionLimiter

/-- The limiter, the subscriptions and the connections whose close event has not come yet. -/
structure ConnectionState (Ip : Type) where
  limiter : ConnectionLimiter Ip
  subscriptionService : SubscriptionService
  connections : Table Nat (Connection Ip)

/-- A websocket is opened, its timer expires, or it has its close event, after the server or
the client closed it. -/
inductive ConnectionLabel (Ip : Type) where
  | connect (websocket : Nat) (id : String) (ip : Ip) (serverConnections : Nat)
  | expire (websocket : Nat)
  | close (websocket : Nat)
  deriving Repr, DecidableEq

namespace ConnectionState

variable {Ip : Type} [DecidableEq Ip]

def initial (subscriptionService : SubscriptionService) : ConnectionState Ip :=
  { limiter := .new, subscriptionService, connections := .empty }

variable (config : LimiterConfig) (state : ConnectionState Ip)

/-- The part of the middleware before it listens to messages. -/
def connect (websocket : Nat) (id : String) (ip : Ip) (serverConnections : Nat) : ConnectionState Ip :=
  let connection : Connection Ip :=
    { id, ip, ipCounted := false, subscriptions := 0, inactivityTTL := false, closing := [] }
  let (limiter, connection) := state.limiter.incrementCounters connection serverConnections
  { state with
    limiter
    connections := state.connections.assign websocket (limiter.applyLimits config connection) }

def handleConnectionClose (websocket : Nat) (connection : Connection Ip) : ConnectionState Ip where
  subscriptionService := (state.subscriptionService.unsubscribe connection.id none).1
  limiter := state.limiter.decrementCounters connection
  connections := state.connections.erase websocket

/-- Every websocket is opened once and has one close event. -/
def serve (state : ConnectionState Ip) : ConnectionLabel Ip → Option (ConnectionState Ip)
  | .connect websocket id ip serverConnections =>
      if (state.connections.get websocket).isSome then none
      else some (state.connect config websocket id ip serverConnections)
  | .expire websocket =>
      (state.connections.get websocket).bind fun connection =>
        if connection.inactivityTTL then
          some { state with connections := state.connections.assign websocket (ConnectionLimiter.expire config connection) }
        else none
  | .close websocket =>
      (state.connections.get websocket).map fun connection => state.handleConnectionClose websocket connection

/-- One for a counted connection of the address. -/
def countedFor (ip : Ip) (connection : Connection Ip) : Nat :=
  if connection.ip = ip ∧ connection.ipCounted = true then 1 else 0

/-- The number of counted connections of the address that are still open. -/
def openConnections (ip : Ip) : Nat := state.connections.total (countedFor ip)

/-- The entry for a number of connections. -/
def entryFor (connections : Nat) : Option Count := if connections = 0 then none else some (some connections)

/-- Each address has the number of its open connections, and no entry where there is none. -/
def Exact : Prop := ∀ ip, state.limiter.clientIps.get ip = entryFor (state.openConnections ip)

variable {config state}

private theorem countedFor_close (ip : Ip) (connection : Connection Ip) (message : ClosingMessage) :
    countedFor ip (ConnectionLimiter.close connection message) = countedFor ip connection := rfl

/-- The limits change nothing that is counted. -/
theorem countedFor_applyLimits (ip : Ip) (limiter : ConnectionLimiter Ip) (connection : Connection Ip) :
    countedFor ip (limiter.applyLimits config connection) = countedFor ip connection := by
  rw [ConnectionLimiter.applyLimits]
  split
  · rfl
  · split <;> rfl

@[simp] theorem entryFor_zero : entryFor 0 = none := rfl

@[simp] theorem entryFor_succ (connections : Nat) : entryFor (connections + 1) = some (some ((connections : Int) + 1)) := rfl

theorem get_changeCount {limiter : ConnectionLimiter Ip} {connected : Ip} {count : Nat}
    (counted : limiter.clientIps.get connected = entryFor (count + 1)) (amount : Int) (ip : Ip) :
    (limiter.changeCount connected amount).clientIps.get ip =
      if ip = connected then some (some ((count : Int) + 1 + amount)) else limiter.clientIps.get ip := by
  simp [ConnectionLimiter.changeCount, counted]

private theorem get_incrementCounters {limiter : ConnectionLimiter Ip} {connection : Connection Ip} {count : Nat}
    (counted : limiter.clientIps.get connection.ip = entryFor count) (serverConnections : Nat) (ip : Ip) :
    (limiter.incrementCounters connection serverConnections).1.clientIps.get ip =
      if ip = connection.ip then entryFor (count + 1) else limiter.clientIps.get ip := by
  rw [ConnectionLimiter.incrementCounters]
  cases count with
  | zero => simp [counted, Count.truthy]
  | succ count =>
    have nonzero : (count : Int) + 1 ≠ 0 := by omega
    simp only [counted, entryFor_succ, Option.getD_some, Count.truthy, nonzero, ne_eq, not_false_eq_true, decide_true,
      Bool.not_true, Bool.false_eq_true, if_false]
    exact get_changeCount counted 1 ip

private theorem get_decrementCounters {limiter : ConnectionLimiter Ip} {connection : Connection Ip} {count : Nat}
    (isCounted : connection.ipCounted = true)
    (counted : limiter.clientIps.get connection.ip = entryFor (count + 1)) (ip : Ip) :
    (limiter.decrementCounters connection).clientIps.get ip =
      if ip = connection.ip then entryFor count else limiter.clientIps.get ip := by
  have changed := get_changeCount counted (-1)
  simp only [ConnectionLimiter.decrementCounters, isCounted, if_true]
  rw [changed, if_pos rfl]
  cases count with
  | zero =>
    rw [if_pos (by simp), Table.get_erase, changed]
    split <;> rfl
  | succ count =>
    have same : ((count + 1 : Nat) : Int) + 1 + -1 = (count : Int) + 1 := by omega
    have nonzero : (count : Int) + 1 ≠ 0 := by omega
    rw [same, if_neg (by simpa using nonzero), changed, same, entryFor_succ]

/-- The entry after the count of its address changed, and every other entry. -/
theorem Exact.change {limiter : ConnectionLimiter Ip} {subscriptionService : SubscriptionService}
    {connections : Table Nat (Connection Ip)} (exactly : state.Exact) {connected : Ip} {count : Nat}
    (changed : ∀ ip, limiter.clientIps.get ip =
      if ip = connected then entryFor count else state.limiter.clientIps.get ip)
    (own : connections.total (countedFor connected) = count)
    (others : ∀ ip, ip ≠ connected → connections.total (countedFor ip) = state.openConnections ip) :
    Exact { limiter, subscriptionService, connections } := by
  intro ip
  rw [changed, openConnections]
  by_cases same : ip = connected
  · rw [if_pos same, same, own]
  · rw [if_neg same, others ip same]
    exact exactly ip

theorem openConnections_connect {websocket : Nat} (absent : state.connections.get websocket = none) (id : String)
    (ip other : Ip) (serverConnections : Nat) :
    (state.connect config websocket id ip serverConnections).openConnections other =
      state.openConnections other + if ip = other then 1 else 0 := by
  have total := state.connections.total_assign (countedFor other) websocket
    ((state.limiter.incrementCounters
      { id, ip, ipCounted := false, subscriptions := 0, inactivityTTL := false, closing := [] }
      serverConnections).1.applyLimits config
      { id, ip, ipCounted := true, subscriptions := 0, inactivityTTL := false, closing := [] })
  rw [Table.weightAt, absent, Option.map_none, Option.getD_none, Nat.add_zero, countedFor_applyLimits] at total
  rw [openConnections, openConnections]
  refine total.trans ?_
  simp [countedFor]

theorem Exact.connect (exactly : state.Exact) {websocket : Nat} (absent : state.connections.get websocket = none)
    (id : String) (ip : Ip) (serverConnections : Nat) :
    (state.connect config websocket id ip serverConnections).Exact := by
  refine exactly.change (get_incrementCounters (exactly ip) serverConnections) ?_ ?_
  · exact (openConnections_connect absent id ip ip serverConnections).trans (by rw [if_pos rfl])
  · intro other different
    exact (openConnections_connect absent id ip other serverConnections).trans (by rw [if_neg different.symm, Nat.add_zero])

private theorem openConnections_close {websocket : Nat} {connection : Connection Ip}
    (found : state.connections.get websocket = some connection) (other : Ip) :
    (state.handleConnectionClose websocket connection).openConnections other + countedFor other connection =
      state.openConnections other := by
  have total := state.connections.total_erase (countedFor other) websocket
  rw [Table.weightAt, found, Option.map_some, Option.getD_some] at total
  exact total

theorem Exact.handleConnectionClose (exactly : state.Exact) {websocket : Nat} {connection : Connection Ip}
    (found : state.connections.get websocket = some connection) :
    (state.handleConnectionClose websocket connection).Exact := by
  have left := openConnections_close found
  cases counted : connection.ipCounted with
  | true =>
    have one := left connection.ip
    rw [countedFor, if_pos ⟨rfl, counted⟩] at one
    refine exactly.change (get_decrementCounters counted ((exactly connection.ip).trans (congrArg entryFor one.symm))) rfl ?_
    intro other different
    have same := left other
    rw [countedFor, if_neg (fun own => different own.1.symm), Nat.add_zero] at same
    exact same
  | false =>
    intro ip
    have same := left ip
    rw [countedFor, if_neg (by simp [counted]), Nat.add_zero] at same
    rw [same, ← exactly ip]
    simp [ConnectionState.handleConnectionClose, ConnectionLimiter.decrementCounters, counted]

theorem Exact.expire (exactly : state.Exact) {websocket : Nat} {connection : Connection Ip}
    (found : state.connections.get websocket = some connection) :
    Exact { state with connections := state.connections.assign websocket (ConnectionLimiter.expire config connection) } := by
  intro ip
  have total := state.connections.total_assign (countedFor ip) websocket (ConnectionLimiter.expire config connection)
  rw [Table.weightAt, found, Option.map_some, Option.getD_some, ConnectionLimiter.expire, countedFor_close] at total
  have same := Nat.add_right_cancel total
  rw [openConnections, ConnectionLimiter.expire, same]
  exact exactly ip

/-- Every step keeps the counts exact. -/
theorem Exact.serve (before : ConnectionState Ip) (label : ConnectionLabel Ip) (after : ConnectionState Ip)
    (exactly : before.Exact) (served : before.serve config label = some after) : after.Exact := by
  cases label with
  | connect websocket id ip serverConnections =>
    rw [ConnectionState.serve] at served
    split at served
    · cases served
    · rename_i absent
      obtain rfl := Option.some.inj served
      exact exactly.connect (Option.not_isSome_iff_eq_none.mp absent) id ip serverConnections
  | expire websocket =>
    rw [ConnectionState.serve, Option.bind_eq_some_iff] at served
    obtain ⟨connection, found, served⟩ := served
    split at served
    · obtain rfl := Option.some.inj served
      exact exactly.expire found
    · cases served
  | close websocket =>
    rw [ConnectionState.serve, Option.map_eq_some_iff] at served
    obtain ⟨connection, found, rfl⟩ := served
    exact exactly.handleConnectionClose found

/-- In every run the limiter has for each address the number of its counted connections
that are still open, which is not negative, and no entry where there is none. -/
theorem clientIps_exact (config : LimiterConfig) (subscriptionService : SubscriptionService)
    (labels : List (ConnectionLabel Ip)) {final : ConnectionState Ip}
    (reached : run (serve config) (.initial subscriptionService) labels = some final) : final.Exact :=
  run_invariant Exact.serve (fun _ => rfl) reached

def twoPerIp : LimiterConfig := { wsConnectionLimit := 10, wsConnectionLimitPerIp := 1, wsMaxInactivityTtl := 300000 }

/-- The second connection of the first address is over the limit, and the first one leaves
before it. -/
def overLimit : List (ConnectionLabel String) := [
  .connect 0 "0xa" "10.0.0.1" 1, .connect 1 "0xb" "10.0.0.1" 2, .connect 2 "0xc" "10.0.0.2" 3, .close 0, .expire 2]

theorem clientIps_exact_overLimit :
    ∃ final, run (serve twoPerIp) (.initial (.new 1000 false false)) overLimit = some final ∧ final.Exact :=
  ⟨_, rfl, clientIps_exact twoPerIp (.new 1000 false false) overLimit rfl⟩

end ConnectionState

end HieroRelay.Ws
