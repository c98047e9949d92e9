import HieroRelay.Lib.Run

/-! The SDK client that the relay hands out: it is replaced after a number of uses, after a
while and after some errors, as far as the configuration says so. -/

namespace HieroRelay.Hapi

open HieroRelay.Lib (Meets meets_iff_of_invariant)

/-- `HAPI_CLIENT_TRANSACTION_RESET`, `HAPI_CLIENT_DURATION_RESET` in milliseconds and
`HAPI_CLIENT_ERROR_RESET`; zero and the empty list disable a criterion. -/
structure RotationConfig where
  transactionReset : Int
  durationReset : Int
  errorReset : List Int
  deriving Repr, DecidableEq

/-- The service; its clients are numbered as they are made. -/
structure HAPIService where
  initialTransactionCount : Int
  initialResetDuration : Int
  errorCodes : List Int
  isReinitEnabled : Bool
  isTimeResetDisabled : Bool
  client : Nat
  transactionCount : Int
  resetDuration : Int
  shouldReset : Bool
  deriving Repr, DecidableEq

namespace HAPIService

/-- The constructor. -/
def new (config : RotationConfig) (currentDateNow : Int) : HAPIService :=
  let isTimeResetDisabled := decide (currentDateNow + config.durationReset = currentDateNow)
  { initialTransactionCount := config.transactionReset
    initialResetDuration := config.durationReset
    errorCodes := config.errorReset
    isReinitEnabled := !(config.transactionReset = 0 && config.errorReset.length = 0 && isTimeResetDisabled)
    isTimeResetDisabled
    client := 0
    transactionCount := config.transactionReset
    resetDuration := currentDateNow + config.durationReset
    shouldReset := false }

variable (service : HAPIService)

def decrementTransactionCounter : HAPIService :=
  if service.transactionCount = 0 then service
  else
    { service with
      transactionCount := service.transactionCount - 1
      shouldReset := service.shouldReset || service.transactionCount - 1 ≤ 0 }

def decrementErrorCounter (statusCode : Int) : HAPIService :=
  if !service.isReinitEnabled || service.errorCodes.length = 0 then service
  else if service.errorCodes.contains statusCode then { service with shouldReset := true }
  else service

def checkResetDuration (now : Int) : HAPIService :=
  if service.isTimeResetDisabled then service
  else if service.resetDuration < now then { service with shouldReset := true }
  else service

def resetCounters (now : Int) : HAPIService :=
  { service with
    transactionCount := service.initialTransactionCount
    resetDuration := now + service.initialResetDuration
    shouldReset := false }

def resetClient (now : Int) : HAPIService := { service with client := service.client + 1 }.resetCounters now

/-- The service after the call, which returns its client. The clock is read where the
client is reset and where its duration is checked. -/
def getSDKClient (resetAt checkAt : Int) : HAPIService :=
  if !service.isReinitEnabled then service
  else
    ((if service.shouldReset then service.resetClient resetAt else service).decrementTransactionCounter).checkResetDuration
      checkAt

theorem decrementTransactionCounter_eq :
    service.decrementTransactionCounter =
      { service with
        transactionCount := if service.transactionCount = 0 then 0 else service.transactionCount - 1
        shouldReset := service.shouldReset || (service.transactionCount ≠ 0 && service.transactionCount - 1 ≤ 0) } := by
  cases service
  simp only [decrementTransactionCounter]
  split <;> simp_all

theorem decrementErrorCounter_eq (statusCode : Int) :
    service.decrementErrorCounter statusCode =
      { service with
        shouldReset := service.shouldReset || (service.isReinitEnabled && service.errorCodes.contains statusCode) } := by
  cases service
  simp only [decrementErrorCounter]
  split
  · grind
  · split <;> simp_all

theorem checkResetDuration_eq (now : Int) :
    service.checkResetDuration now =
      { service with
        shouldReset := service.shouldReset || (!service.isTimeResetDisabled && service.resetDuration < now) } := by
  cases service
  simp only [checkResetDuration]
  split
  · simp_all
  · split <;> grind

end HAPIService

/-- What is known of the client in use: when it was made, when it was handed out and which
codes were recorded since then. -/
structure ClientHistory where
  created : Int
  returned : List Int
  recorded : List Int
  deriving Repr, DecidableEq

def ClientHistory.new (created : Int) : ClientHistory := { created, returned := [], recorded := [] }

structure ObservedService where
  service : HAPIService
  history : ClientHistory
  deriving Repr, DecidableEq

inductive RotationLabel where
  | getSDKClient (resetAt checkAt : Int)
  | decrementErrorCounter (statusCode : Int)
  deriving Repr, DecidableEq

namespace ObservedService

def initial (config : RotationConfig) (now : Int) : ObservedService where
  service := .new config now
  history := .new now

/-- Another client than before is a new one. -/
def getSDKClient (observed : ObservedService) (resetAt checkAt : Int) : ObservedService :=
  let service := observed.service.getSDKClient resetAt checkAt
  let history := if service.client = observed.service.client then observed.history else .new resetAt
  { service, history := { history with returned := history.returned ++ [checkAt] } }

def serve (observed : ObservedService) : RotationLabel → Option ObservedService
  | .getSDKClient resetAt checkAt => some (observed.getSDKClient resetAt checkAt)
  | .decrementErrorCounter statusCode => some {
      service := observed.service.decrementErrorCounter statusCode
      history := { observed.history with recorded := observed.history.recorded ++ [statusCode] } }

end ObservedService

/-- A client that is returned now has not been handed out too often, is not past its reset
time, and none of the configured codes has been recorded since it was made. -/
structure WithinBounds (config : RotationConfig) (now : Int) (history : ClientHistory) : Prop where
  uses : 0 < config.transactionReset → history.returned.length ≤ config.transactionReset
  inTime : config.durationReset ≠ 0 → now ≤ history.created + config.durationReset
  noErrors : ∀ code ∈ history.recorded, code ∉ config.errorReset

/-- A criterion that is enabled asks for another client. -/
def Due (config : RotationConfig) (history : ClientHistory) : Prop :=
  (config.transactionReset ≠ 0 ∧ config.transactionReset ≤ history.returned.length) ∨
  (config.durationReset ≠ 0 ∧ ∃ time ∈ history.returned, history.created + config.durationReset < time) ∨
  ∃ code ∈ history.recorded, code ∈ config.errorReset

/-- Each client that is returned is within its bounds, and only an enabled criterion leads
to another client. -/
def Rotates (config : RotationConfig) (observed : ObservedService) : RotationLabel → Prop
  | .getSDKClient resetAt checkAt =>
      WithinBounds config checkAt (observed.getSDKClient resetAt checkAt).history ∧
      ((observed.getSDKClient resetAt checkAt).service.client ≠ observed.service.client → Due config observed.history)
  | .decrementErrorCounter statusCode =>
      (observed.service.decrementErrorCounter statusCode).client = observed.service.client

/-- The client is not asked for after its reset time, unless it is replaced in this call. -/
def Timely (observed : ObservedService) : RotationLabel → Prop
  | .getSDKClient resetAt checkAt =>
      observed.service.isTimeResetDisabled = true ∨
      checkAt ≤ if observed.service.shouldReset then resetAt + observed.service.initialResetDuration
        else observed.service.resetDuration
  | .decrementErrorCounter _ => True

/-- The counters agree with what is known of the client in use, and the flag is set exactly
for the reasons to replace it. -/
structure Consistent (config : RotationConfig) (observed : ObservedService) : Prop where
  count : observed.service.initialTransactionCount = config.transactionReset
  duration : observed.service.initialResetDuration = config.durationReset
  codes : observed.service.errorCodes = config.errorReset
  disabled : observed.service.isTimeResetDisabled = true ↔ config.durationReset = 0
  reinit : observed.service.isReinitEnabled = false →
    config.transactionReset = 0 ∧ config.errorReset = [] ∧ config.durationReset = 0
  remaining : config.transactionReset ≠ 0 →
    observed.service.transactionCount = config.transactionReset - observed.history.returned.length
  unlimited : config.transactionReset = 0 → observed.service.transactionCount = 0
  reset : observed.service.resetDuration = observed.history.created + config.durationReset
  spent : 0 < config.transactionReset → observed.history.returned.length ≤ config.transactionReset
  exhausted : 0 < config.transactionReset → config.transactionReset ≤ observed.history.returned.length →
    observed.service.shouldReset = true
  failed : (∃ code ∈ observed.history.recorded, code ∈ config.errorReset) → observed.service.shouldReset = true
  due : observed.service.shouldReset = true → Due config observed.history

namespace Consistent

variable {config : RotationConfig} {observed : ObservedService}

theorem initial (config : RotationConfig) (now : Int) : Consistent config (.initial config now) where
  count := rfl
  duration := rfl
  codes := rfl
  disabled := by
    simp only [ObservedService.initial, HAPIService.new, decide_eq_true_eq]
    omega
  reinit := by
    simp only [ObservedService.initial, HAPIService.new]
    grind
  remaining := by simp [ObservedService.initial, HAPIService.new, ClientHistory.new]
  unlimited := fun zero => zero
  reset := rfl
  spent positive := Int.le_of_lt positive
  exhausted positive least := absurd least (Int.not_le.mpr positive)
  failed := by simp [ObservedService.initial, ClientHistory.new]
  due := fun flagged => absurd flagged Bool.false_ne_true

theorem decrementErrorCounter (consistent : Consistent config observed) (statusCode : Int) :
    Consistent config {
      service := observed.service.decrementErrorCounter statusCode
      history := { observed.history with recorded := observed.history.recorded ++ [statusCode] } } := by
  rw [HAPIService.decrementErrorCounter_eq]
  refine { consistent with exhausted := ?_, failed := ?_, due := ?_ }
  · intro positive least
    rw [consistent.exhausted positive least, Bool.true_or]
  · rintro ⟨code, recorded, configured⟩
    rcases List.mem_append.mp recorded with earlier | now
    · rw [consistent.failed ⟨code, earlier, configured⟩, Bool.true_or]
    · obtain rfl := List.mem_singleton.mp now
      have enabled : observed.service.isReinitEnabled = true := by
        by_contra off
        rw [(consistent.reinit (Bool.eq_false_iff.mpr off)).2.1] at configured
        cases configured
      simp [enabled, consistent.codes, configured]
  · intro flagged
    rcases Bool.or_eq_true_iff.mp flagged with earlier | now
    · rcases consistent.due earlier with used | late | ⟨code, recorded, configured⟩
      · exact .inl used
      · exact .inr (.inl late)
      · exact .inr (.inr ⟨code, List.mem_append_left _ recorded, configured⟩)
    · have configured := (Bool.and_eq_true_iff.mp now).2
      rw [consistent.codes, List.contains_iff_mem] at configured
      exact .inr (.inr ⟨statusCode, List.mem_append_right _ List.mem_cons_self, configured⟩)

/-- A new client has its counters set anew. -/
theorem resetClient (consistent : Consistent config observed) (resetAt : Int) :
    Consistent config { service := observed.service.resetClient resetAt, history := .new resetAt } where
  count := consistent.count
  duration := consistent.duration
  codes := consistent.codes
  disabled := consistent.disabled
  reinit := consistent.reinit
  remaining := by
    intro limited
    simp [HAPIService.resetClient, HAPIService.resetCounters, ClientHistory.new, consistent.count]
  unlimited := by
    intro zero
    simpa [HAPIService.resetClient, HAPIService.resetCounters, consistent.count] using zero
  reset := by simp [HAPIService.resetClient, HAPIService.resetCounters, ClientHistory.new, consistent.duration]
  spent positive := Int.le_of_lt positive
  exhausted positive least := absurd least (Int.not_le.mpr positive)
  failed := by simp [ClientHistory.new]
  due := fun flagged => absurd flagged Bool.false_ne_true

/-- The client in use is handed out once more. -/
theorem use (consistent : Consistent config observed) (unflagged : observed.service.shouldReset = false)
    (checkAt : Int) :
    Consistent config {
      service := observed.service.decrementTransactionCounter.checkResetDuration checkAt
      history := { observed.history with returned := observed.history.returned ++ [checkAt] } } := by
  have fewer : 0 < config.transactionReset → observed.history.returned.length < config.transactionReset := by
    intro positive
    by_contra least
    rw [consistent.exhausted positive (Int.not_lt.mp least)] at unflagged
    cases unflagged
  rw [HAPIService.checkResetDuration_eq, HAPIService.decrementTransactionCounter_eq]
  refine { consistent with remaining := ?_, unlimited := ?_, spent := ?_, exhausted := ?_, failed := ?_, due := ?_ }
  · intro limited
    have remaining := consistent.remaining limited
    simp only [List.length_append, List.length_singleton]
    grind
  · intro zero
    simp [consistent.unlimited zero]
  · intro positive
    have least := fewer positive
    simp only [List.length_append, List.length_singleton]
    omega
  · intro positive least
    have limited : config.transactionReset ≠ 0 := by omega
    have remaining := consistent.remaining limited
    have before := fewer positive
    simp only [List.length_append, List.length_singleton] at least
    have last : observed.service.transactionCount = 1 := by omega
    simp [last]
  · intro recorded
    rw [consistent.failed recorded] at unflagged
    cases unflagged
  · intro flagged
    simp only [unflagged, Bool.false_or, Bool.or_eq_true, Bool.and_eq_true, decide_eq_true_eq] at flagged
    rcases flagged with ⟨present, last⟩ | ⟨enabled, late⟩
    · have limited : config.transactionReset ≠ 0 := fun zero => present (consistent.unlimited zero)
      have remaining := consistent.remaining limited
      refine .inl ⟨limited, ?_⟩
      simp only [List.length_append, List.length_singleton]
      omega
    · refine .inr (.inl ⟨?_, checkAt, List.mem_append_right _ List.mem_cons_self, ?_⟩)
      · intro zero
        rw [consistent.disabled.mpr zero] at enabled
        cases enabled
      · rw [consistent.reset] at late
        exact late

theorem client_use (service : HAPIService) (checkAt : Int) :
    (service.decrementTransactionCounter.checkResetDuration checkAt).client = service.client := by
  rw [HAPIService.checkResetDuration_eq, HAPIService.decrementTransactionCounter_eq]

/-- What a call of `getSDKClient` does. -/
theorem getSDKClient_cases (observed : ObservedService) (resetAt checkAt : Int) :
    (observed.service.isReinitEnabled = false ∧ observed.getSDKClient resetAt checkAt =
      { observed with history := { observed.history with returned := observed.history.returned ++ [checkAt] } }) ∨
    (observed.service.shouldReset = true ∧ observed.getSDKClient resetAt checkAt = {
      service := ((observed.service.resetClient resetAt).decrementTransactionCounter).checkResetDuration checkAt
      history := { ClientHistory.new resetAt with returned := [checkAt] } }) ∨
    (observed.service.shouldReset = false ∧ observed.getSDKClient resetAt checkAt = {
      service := observed.service.decrementTransactionCounter.checkResetDuration checkAt
      history := { observed.history with returned := observed.history.returned ++ [checkAt] } }) := by
  cases enabled : observed.service.isReinitEnabled with
  | false =>
    refine .inl ⟨rfl, ?_⟩
    simp [ObservedService.getSDKClient, HAPIService.getSDKClient, enabled]
  | true =>
    cases flagged : observed.service.shouldReset with
    | true =>
      refine .inr (.inl ⟨rfl, ?_⟩)
      have another : (observed.service.resetClient resetAt).client ≠ observed.service.client := Nat.succ_ne_self _
      simp [ObservedService.getSDKClient, HAPIService.getSDKClient, enabled, flagged, client_use, another,
        ClientHistory.new]
    | false =>
      refine .inr (.inr ⟨rfl, ?_⟩)
      simp [ObservedService.getSDKClient, HAPIService.getSDKClient, enabled, flagged, client_use]

/-- Without criteria the client is never replaced. -/
theorem useForever (consistent : Consistent config observed) (disabled : observed.service.isReinitEnabled = false)
    (checkAt : Int) : Consistent config
      { observed with history := { observed.history with returned := observed.history.returned ++ [checkAt] } } := by
  obtain ⟨noCount, noCodes, noDuration⟩ := consistent.reinit disabled
  refine { consistent with remaining := ?_, spent := ?_, exhausted := ?_, due := ?_ }
  · intro limited
    exact absurd noCount limited
  · intro positive
    omega
  · intro positive
    omega
  · intro flagged
    rcases consistent.due flagged with ⟨limited, _⟩ | ⟨timed, _⟩ | failed
    · exact absurd noCount limited
    · exact absurd noDuration timed
    · exact .inr (.inr failed)

theorem getSDKClient (consistent : Consistent config observed) (resetAt checkAt : Int) :
    Consistent config (observed.getSDKClient resetAt checkAt) := by
  rcases getSDKClient_cases observed resetAt checkAt with ⟨disabled, same⟩ | ⟨_, same⟩ | ⟨unflagged, same⟩
  · rw [same]
    exact consistent.useForever disabled checkAt
  · rw [same]
    exact (consistent.resetClient resetAt).use rfl checkAt
  · rw [same]
    exact consistent.use unflagged checkAt

theorem serve (before : ObservedService) (label : RotationLabel) (after : ObservedService)
    (consistent : Consistent config before) (served : before.serve label = some after) : Consistent config after := by
  cases label with
  | getSDKClient resetAt checkAt =>
    obtain rfl := Option.some.inj served
    exact consistent.getSDKClient resetAt checkAt
  | decrementErrorCounter statusCode =>
    obtain rfl := Option.some.inj served
    exact consistent.decrementErrorCounter statusCode

/-- Of the bounds only the one on the time is left open. -/
theorem withinBounds_iff (consistent : Consistent config observed)
    (noErrors : ∀ code ∈ observed.history.recorded, code ∉ config.errorReset) (now : Int) :
    WithinBounds config now observed.history ↔
      (config.durationReset ≠ 0 → now ≤ observed.history.created + config.durationReset) := by
  constructor
  · intro bounds
    exact bounds.inTime
  · intro inTime
    exact ⟨consistent.spent, inTime, noErrors⟩

private theorem timely_iff (consistent : Consistent config observed) (resetAt checkAt : Int) :
    Timely observed (.getSDKClient resetAt checkAt) ↔ (config.durationReset ≠ 0 →
      checkAt ≤ (if observed.service.shouldReset then resetAt else observed.history.created) + config.durationReset) := by
  rw [Timely, consistent.disabled, consistent.duration, consistent.reset, ← or_iff_not_imp_left]
  split
  · exact Iff.rfl
  · exact Iff.rfl

private theorem rotates_iff (consistent : Consistent config observed) (label : RotationLabel) :
    Rotates config observed label ↔ Timely observed label := by
  cases label with
  | decrementErrorCounter statusCode =>
    refine iff_of_true ?_ trivial
    rw [Rotates, HAPIService.decrementErrorCounter_eq]
  | getSDKClient resetAt checkAt =>
    have after := consistent.getSDKClient resetAt checkAt
    rw [timely_iff consistent, Rotates]
    rcases getSDKClient_cases observed resetAt checkAt with ⟨disabled, same⟩ | ⟨flagged, same⟩ | ⟨unflagged, same⟩
    · rw [same] at after ⊢
      obtain ⟨_, noCodes, noDuration⟩ := consistent.reinit disabled
      rw [after.withinBounds_iff (by simp [noCodes])]
      simp [noDuration]
    · rw [same] at after ⊢
      rw [after.withinBounds_iff (List.forall_mem_nil _), flagged, if_pos rfl]
      exact and_iff_left fun _ => consistent.due flagged
    · rw [same] at after ⊢
      have noErrors : ∀ code ∈ observed.history.recorded, code ∉ config.errorReset := by
        intro code recorded configured
        rw [consistent.failed ⟨code, recorded, configured⟩] at unflagged
        cases unflagged
      rw [after.withinBounds_iff noErrors, unflagged, if_neg Bool.false_ne_true]
      exact and_iff_left fun another => absurd (client_use observed.service checkAt) another

end Consistent

/-- In every run the clients are within their bounds exactly if none is asked for after its
reset time, except in the call that replaces it. -/
theorem rotates_iff_timely (config : RotationConfig) (now : Int) (labels : List RotationLabel) :
    Meets ObservedService.serve (Rotates config) (.initial config now) labels ↔
      Meets ObservedService.serve Timely (.initial config now) labels :=
  meets_iff_of_invariant Consistent.serve (fun _ label consistent => consistent.rotates_iff label)
    (.initial config now) labels

/-- When the clock is read. -/
def RotationLabel.times : RotationLabel → List Int
  | .getSDKClient resetAt checkAt => [resetAt, checkAt]
  | .decrementErrorCounter _ => []

/-- Only the time is limited, and the client is asked for again after an hour. -/
theorem not_rotates_afterHour :
    ¬ ∀ (config : RotationConfig) (now : Int) (labels : List RotationLabel),
      (config.transactionReset ≠ 0 ∨ config.durationReset ≠ 0 ∨ config.errorReset ≠ []) →
      (now :: labels.flatMap RotationLabel.times).Pairwise (· ≤ ·) →
      Meets ObservedService.serve (Rotates config) (.initial config now) labels := by
  intro rotates
  have late := (rotates { transactionReset := 0, durationReset := 3600000, errorReset := [] } 0
    [.getSDKClient 3600001 3600001] (.inr (.inl (by decide))) (by decide)).1.1.inTime (by decide)
  exact absurd late (by decide)

end HieroRelay.Hapi
