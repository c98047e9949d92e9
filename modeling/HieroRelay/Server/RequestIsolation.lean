import HieroRelay.Lib.Run
import HieroRelay.Server.KoaJsonRpc

/-! Concurrent requests to one `KoaJsonRpc`. The request details live in fields of
the instance; a request writes them when it starts and reads them back after its
body is parsed and again after the rate limiter has answered. -/

namespace HieroRelay.Server

open HieroRelay.Js HieroRelay.Relay HieroRelay.Lib

/-- What the server is given of an HTTP request. The body is missing when it does
not parse. -/
structure HttpRequest where
  reqId : String
  ip : String
  isPost : Bool := true
  body : Option Json

/-- The details computed from the request itself. -/
def HttpRequest.details (request : HttpRequest) : RequestDetails :=
  { requestId := request.reqId, ipAddress := request.ip }

inductive Recipient where
  | rateLimiter
  | relay
  deriving Repr, DecidableEq

/-- Details that were handed over while a request was served. -/
structure HandOver where
  request : Nat
  recipient : Recipient
  details : RequestDetails
  deriving Repr, DecidableEq

/-- Where one item of a body is in `getRequestResult`. -/
inductive ItemPhase where
  | limiting (request : Json)
  | executing (request : Json)
  | finished

def ItemPhase.isLimiting : ItemPhase → Bool
  | .limiting _ => true
  | _ => false

inductive RequestPhase where
  | idle
  | parsing
  | serving (items : List ItemPhase)

/-- The fields of the instance, the phase of every request, and all details handed
over so far. -/
structure Serving where
  shared : RequestDetails
  phases : Nat → RequestPhase
  handed : List HandOver

/-- The asynchronous steps, each up to the next `await`. -/
inductive ServingAction where
  | start (request : Nat)
  | bodyParsed (request : Nat)
  | rateLimitAnswered (request item : Nat) (answer : Except JsError Bool)
  | executed (request item : Nat)

def Serving.initial : Serving where
  shared := { requestId := "", ipAddress := "" }
  phases := fun _ => .idle
  handed := []

def Serving.setPhase (serving : Serving) (request : Nat) (phase : RequestPhase) : Serving :=
  { serving with phases := Function.update serving.phases request phase }

def Serving.updateRequestDetails (serving : Serving) (details : RequestDetails) : Serving :=
  { serving with shared := details }

/-- `getRequestDetails`: what is handed over is what the fields hold at that moment. -/
def Serving.handOver (serving : Serving) (request : Nat) (recipient : Recipient) (times : Nat) : Serving :=
  { serving with
    handed := serving.handed ++ List.replicate times { request, recipient, details := serving.shared } }

namespace KoaJsonRpc

variable (app : KoaJsonRpc) (requests : Nat → HttpRequest)

/-- `getRequestResult` up to the call of the rate limiter. -/
def beginRequest (request : Json) : ItemPhase :=
  match app.beforeRateLimit request with
  | .answered _ => .finished
  | .awaiting (request, _) => .limiting request

/-- An item of a batch that is refused never gets to `getRequestResult`. -/
def beginBatchItem (item : Json) : ItemPhase :=
  match getProperty item "method" with
  | .error _ => .finished
  | .ok method =>
      match includesString app.batchRequestsDisallowedMethods method with
      | some _ => .finished
      | none => app.beginRequest item

/-- Every item of a batch, or the single request, begins in the stretch that follows
the parsing of the body. -/
def beginBody : Option Json → List ItemPhase
  | none => []
  | some (.arr items) =>
      if !app.batchRequestsEnabled || items.length > app.batchRequestsMaxSize then []
      else items.map app.beginBatchItem
  | some body => [app.beginRequest body]

def serve (serving : Serving) : ServingAction → Option Serving
  | .start request =>
      match serving.phases request with
      | .idle =>
          some ((serving.updateRequestDetails (requests request).details).setPhase request
            (if (requests request).isPost then .parsing else .serving []))
      | _ => none
  | .bodyParsed request =>
      match serving.phases request with
      | .parsing =>
          let items := app.beginBody (requests request).body
          some ((serving.handOver request .rateLimiter (items.countP ItemPhase.isLimiting)).setPhase request
            (.serving items))
      | _ => none
  | .rateLimitAnswered request index answer =>
      match serving.phases request with
      | .serving items =>
          match items[index]? with
          | some (.limiting body) =>
              match app.afterRateLimit body answer with
              | .answered _ => some (serving.setPhase request (.serving (items.set index .finished)))
              | .awaiting body =>
                  some ((serving.handOver request .relay 1).setPhase request
                    (.serving (items.set index (.executing body))))
          | _ => none
      | _ => none
  | .executed request index =>
      match serving.phases request with
      | .serving items =>
          match items[index]? with
          | some (.executing _) => some (serving.setPhase request (.serving (items.set index .finished)))
          | _ => none
      | _ => none

/-- Whatever was handed over for a request was computed from that request. -/
def Isolated (serving : Serving) : Prop :=
  ∀ handOver ∈ serving.handed, handOver.details = (requests handOver.request).details

/-- The request for which a step reads the fields: after parsing when an item gets as
far as the rate limiter, and whenever the rate limiter admits an item. -/
def reader : ServingAction → Option Nat
  | .bodyParsed request =>
      if (app.beginBody (requests request).body).countP ItemPhase.isLimiting = 0 then none else some request
  | .rateLimitAnswered request _ (.ok false) => some request
  | _ => none

def lastStarted (actions : List ServingAction) : Option Nat :=
  actions.foldl (fun last action => match action with | .start request => some request | _ => last) none

/-- Whenever a step reads the fields, the request started last is the one served, or
has the same details. -/
def ReadsOwn (actions : List ServingAction) : Prop :=
  ∀ before action, before ++ [action] <+: actions → ∀ request, app.reader requests action = some request →
    ((lastStarted before).map fun last => (requests last).details) = some (requests request).details

private theorem lastStarted_snoc (actions : List ServingAction) (action : ServingAction) :
    lastStarted (actions ++ [action]) =
      match action with | .start request => some request | _ => lastStarted actions := by
  simp only [lastStarted, List.foldl_append, List.foldl_cons, List.foldl_nil]

theorem readsOwn_snoc (actions : List ServingAction) (action : ServingAction) :
    app.ReadsOwn requests (actions ++ [action]) ↔ app.ReadsOwn requests actions ∧
      ∀ request, app.reader requests action = some request →
        ((lastStarted actions).map fun last => (requests last).details) = some (requests request).details := by
  constructor
  · intro own
    exact ⟨fun before earlier inside => own before earlier (inside.trans (List.prefix_append ..)),
      own actions action (List.prefix_refl _)⟩
  · rintro ⟨own, last⟩ before other inside
    rcases List.prefix_concat_iff.mp inside with same | inside
    · obtain ⟨rfl, same⟩ := List.append_inj' same rfl
      obtain rfl : other = action := by simpa using same
      exact last
    · exact own before other inside

/-- What one step does to the fields and to the details handed over. -/
theorem serve_effect {serving next : Serving} {action : ServingAction}
    (taken : app.serve requests serving action = some next) :
    (next.shared = match action with | .start request => (requests request).details | _ => serving.shared) ∧
      match app.reader requests action with
      | none => next.handed = serving.handed
      | some request => ∃ recipient times, times ≠ 0 ∧ next.handed =
          serving.handed ++ List.replicate times { request, recipient, details := serving.shared } := by
  cases action with
  | start request =>
    cases phase : serving.phases request <;> simp [serve, phase] at taken
    subst taken
    exact ⟨rfl, rfl⟩
  | bodyParsed request =>
    cases phase : serving.phases request <;> simp [serve, phase] at taken
    subst taken
    refine ⟨rfl, ?_⟩
    by_cases silent : (app.beginBody (requests request).body).countP ItemPhase.isLimiting = 0
    · simp [reader, silent, Serving.handOver, Serving.setPhase]
    · simp only [reader, silent, ↓reduceIte]
      exact ⟨.rateLimiter, _, silent, rfl⟩
  | rateLimitAnswered request index answer =>
    cases phase : serving.phases request with
    | idle => simp [serve, phase] at taken
    | parsing => simp [serve, phase] at taken
    | serving items =>
      rcases found : items[index]? with _ | ⟨body⟩ | ⟨body⟩ | _ <;> simp [serve, phase, found] at taken
      rcases answer with err | ⟨_ | _⟩ <;> simp [afterRateLimit] at taken <;> subst taken
      · exact ⟨rfl, rfl⟩
      · exact ⟨rfl, .relay, 1, Nat.one_ne_zero, rfl⟩
      · exact ⟨rfl, rfl⟩
  | executed request index =>
    cases phase : serving.phases request with
    | idle => simp [serve, phase] at taken
    | parsing => simp [serve, phase] at taken
    | serving items =>
      rcases found : items[index]? with _ | ⟨body⟩ | ⟨body⟩ | _ <;> simp [serve, phase, found] at taken
      subst taken
      exact ⟨rfl, rfl⟩

/-- A step keeps isolation exactly when the request it reads for owns the fields. -/
theorem isolated_serve_iff {serving next : Serving} {action : ServingAction}
    (taken : app.serve requests serving action = some next) :
    Isolated requests next ↔ Isolated requests serving ∧
      ∀ request, app.reader requests action = some request → serving.shared = (requests request).details := by
  obtain ⟨-, effect⟩ := app.serve_effect requests taken
  cases reads : app.reader requests action with
  | none =>
    have same : next.handed = serving.handed := by simpa [reads] using effect
    simp [Isolated, same]
  | some request =>
    rw [reads] at effect
    obtain ⟨recipient, times, some_, handed⟩ := effect
    simp [Isolated, handed, or_imp, forall_and, some_]

/-- Nothing but the start of a request can happen first. -/
theorem serve_initial {action : ServingAction} (notStart : ∀ request, action ≠ .start request) :
    app.serve requests .initial action = none := by
  cases action with
  | start request => exact absurd rfl (notStart request)
  | _ => rfl

/-- After a run the fields hold the details of the request started last. -/
theorem shared_eq_lastStarted {actions : List ServingAction} {serving : Serving}
    (reached : run (app.serve requests) .initial actions = some serving) :
    match lastStarted actions with
    | none => serving = .initial
    | some last => serving.shared = (requests last).details := by
  refine run_trace_induction
    (motive := fun actions serving => match lastStarted actions with
      | none => serving = Serving.initial
      | some last => serving.shared = (requests last).details) rfl ?_ reached
  intro actions before action after _ held taken
  have shared := (app.serve_effect requests taken).1
  rw [lastStarted_snoc]
  cases action with
  | start request => exact shared
  | _ =>
    cases last : lastStarted actions with
    | none =>
      obtain rfl : before = .initial := by simpa [last] using held
      rw [app.serve_initial requests (by simp)] at taken
      cases taken
    | some request => exact shared.trans (by simpa [last] using held)

/-- In every run, each request is served with its own details exactly when, at every
step that reads the fields, the request started last has the details of the one served. -/
theorem isolated_iff_readsOwn {actions : List ServingAction} {serving : Serving}
    (reached : run (app.serve requests) .initial actions = some serving) :
    Isolated requests serving ↔ app.ReadsOwn requests actions := by
  refine run_trace_induction
    (motive := fun actions serving => Isolated requests serving ↔ app.ReadsOwn requests actions) ?_ ?_ reached
  · simp [Isolated, ReadsOwn, Serving.initial]
  · intro actions before action after earlier held taken
    rw [app.isolated_serve_iff requests taken, app.readsOwn_snoc, held]
    have shared := app.shared_eq_lastStarted requests earlier
    cases last : lastStarted actions with
    | some request =>
      have stored : before.shared = (requests request).details := by simpa [last] using shared
      simp [stored]
    | none =>
      obtain rfl : before = .initial := by simpa [last] using shared
      have started : ∃ request, action = .start request := by
        by_contra other
        rw [app.serve_initial requests (by simpa using other)] at taken
        cases taken
      obtain ⟨request, rfl⟩ := started
      simp [reader]

/-- Two clients that each ask for the chain identifier. -/
def twoClients (request : Nat) : HttpRequest where
  reqId := if request = 0 then "request-a" else "request-b"
  ip := if request = 0 then "10.0.0.1" else "10.0.0.2"
  body := some (.obj [("jsonrpc", .str "2.0"), ("id", .num 1), ("method", .str "eth_chainId")])

/-- The second request starts while the relay executes the first one, which ends last. -/
def overlappingActions : List ServingAction :=
  [.start 0, .bodyParsed 0, .rateLimitAnswered 0 0 (.ok false), .start 1, .bodyParsed 1,
    .rateLimitAnswered 1 0 (.ok false), .executed 1 0, .executed 0 0]

private theorem readsOwn_overlapping : byDefault.ReadsOwn twoClients overlappingActions := by
  have snocs : overlappingActions = [] ++ [.start 0] ++ [.bodyParsed 0] ++ [.rateLimitAnswered 0 0 (.ok false)] ++
      [.start 1] ++ [.bodyParsed 1] ++ [.rateLimitAnswered 1 0 (.ok false)] ++ [.executed 1 0] ++ [.executed 0 0] := rfl
  rw [snocs]
  simp only [readsOwn_snoc]
  have nothing : byDefault.ReadsOwn twoClients [] := by simp [ReadsOwn]
  have reads_own (request other : Nat) (same : request = other) :
      (twoClients request).details = (twoClients other).details := congrArg _ (congrArg _ same)
  simpa [nothing, reader, lastStarted] using
    ⟨fun other _ _ _ => reads_own 0 other, fun other _ _ _ => reads_own 1 other⟩

/-- Both requests keep their details, as nothing is read for the first one any more
once the second has started. -/
theorem isolated_overlapping : ∃ serving,
    run (byDefault.serve twoClients) .initial overlappingActions = some serving ∧
      serving.handed.map HandOver.request = [0, 0, 1, 1] ∧ Isolated twoClients serving := by
  have reached : run (byDefault.serve twoClients) .initial overlappingActions = some _ := rfl
  exact ⟨_, reached, rfl, (isolated_iff_readsOwn byDefault twoClients reached).mpr readsOwn_overlapping⟩

/-- The body of the first request is parsed after the second one has started: the
rate limiter is given the details of the second. -/
theorem not_isolated_two_requests : ∃ serving,
    run (byDefault.serve twoClients) .initial [.start 0, .start 1, .bodyParsed 0] = some serving ∧
      ¬ Isolated twoClients serving := by
  refine ⟨_, rfl, fun isolated => ?_⟩
  have own := isolated { request := 0, recipient := .rateLimiter, details := (twoClients 1).details }
    (List.mem_singleton_self _)
  simp [HttpRequest.details, twoClients] at own

end KoaJsonRpc

end HieroRelay.Server
