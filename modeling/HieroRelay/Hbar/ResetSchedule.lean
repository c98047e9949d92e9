import HieroRelay.Hbar.OperatorPlan

/-! When the limiter is reset next, from the constructor on and along runs of its calls
and the clock. -/

namespace HieroRelay.Hbar

open HieroRelay.Lib HieroRelay.Relay

inductive LimiterLabel where
  | addExpense (cost : Nat) (evmAddress : String) (requestDetails : RequestDetails)
  | shouldLimit (evmAddress : String) (requestDetails : RequestDetails) (estimatedTxFee : Nat)
  | resetLimiter (requestDetails : RequestDetails)
  | advance (duration : Nat)

namespace HbarLimitService

variable (service : HbarLimitService)

/-- The constructor rounds down to the midnight before. -/
def construct (midnight now : Nat) : LimiterState :=
  LimiterState.initial now (service.getResetTimestamp midnight now)

def serveLimiter (state : LimiterState) : LimiterLabel → Option LimiterState
  | .addExpense cost evmAddress requestDetails =>
      some (evaluate (service.addExpense cost evmAddress requestDetails).run state).2
  | .shouldLimit evmAddress requestDetails estimatedTxFee =>
      some (evaluate (service.shouldLimit evmAddress requestDetails estimatedTxFee).run state).2
  | .resetLimiter requestDetails => some (evaluate (service.resetLimiter requestDetails) state).2
  | .advance duration => some { state with now := state.now + duration }

/-- The step resets the spent amounts. -/
def Resets (state : LimiterState) : LimiterLabel → Prop
  | .resetLimiter _ => True
  | .shouldLimit _ _ _ => service.isEnabled = true ∧ state.now ≥ state.reset
  | _ => False

/-- The time is a whole number of durations after the time of a reset. -/
def OnBoundary (reset now : Nat) : Prop := ∃ windows, now = reset + windows * service.limitDuration

/-- The next reset is in the future, at most one duration ahead, and whole durations after
the one before. -/
structure NextWindow (before after now : Nat) : Prop where
  later : now < after
  whole : ∃ windows, after = before + windows * service.limitDuration
  near : after ≤ now + service.limitDuration

/-- The schedule of a run: the next window follows the constructor and every reset, and two
calls of `shouldLimit` that both reset have a boundary between them. -/
structure KeepsSchedule (midnight now : Nat) (labels : List LimiterLabel) : Prop where
  constructed : service.NextWindow midnight (service.construct midnight now).reset now
  afterReset : ∀ earlier label later before after, earlier ++ label :: later = labels →
    run service.serveLimiter (service.construct midnight now) earlier = some before →
    service.Resets before label → service.serveLimiter before label = some after →
    service.NextWindow before.reset after.reset after.now
  once : ∀ earlier evmAddress requestDetails estimatedTxFee between evmAddress' requestDetails' estimatedTxFee' later
      first second,
    earlier ++ .shouldLimit evmAddress requestDetails estimatedTxFee ::
      (between ++ .shouldLimit evmAddress' requestDetails' estimatedTxFee' :: later) = labels →
    run service.serveLimiter (service.construct midnight now) earlier = some first →
    service.Resets first (.shouldLimit evmAddress requestDetails estimatedTxFee) →
    run service.serveLimiter first (.shouldLimit evmAddress requestDetails estimatedTxFee :: between) = some second →
    service.Resets second (.shouldLimit evmAddress' requestDetails' estimatedTxFee') →
    ∃ windows, first.now < midnight + windows * service.limitDuration ∧
      midnight + windows * service.limitDuration ≤ second.now

/-- The constructor and the resets of a run all come between two boundaries. -/
structure ResetsOffBoundary (midnight now : Nat) (labels : List LimiterLabel) : Prop where
  constructed : ¬ service.OnBoundary midnight now
  resets : ∀ earlier label later before, earlier ++ label :: later = labels →
    run service.serveLimiter (service.construct midnight now) earlier = some before →
    service.Resets before label → ¬ service.OnBoundary before.reset before.now

theorem getResetTimestamp_of_le {reset now : Nat} (notPast : now ≤ reset) :
    service.getResetTimestamp reset now = reset := by
  rw [getResetTimestamp, if_neg (Nat.not_lt.mpr notPast)]

/-- One round of the loop is enough: the durations are rounded up. -/
theorem getResetTimestamp_of_lt {reset now : Nat} (past : reset < now) :
    service.getResetTimestamp reset now =
      reset + (now - reset + service.limitDuration - 1) / service.limitDuration * service.limitDuration := by
  have positive := service.limitDuration_pos
  have rounded := Nat.lt_div_mul_add positive (a := now - reset + service.limitDuration - 1)
  rw [getResetTimestamp, if_pos past]
  apply getResetTimestamp_of_le
  omega

/-- The timestamp is the first boundary that is not in the past. -/
theorem getResetTimestamp_spec (reset now : Nat) :
    now ≤ service.getResetTimestamp reset now ∧
      (reset ≤ now → service.getResetTimestamp reset now < now + service.limitDuration) ∧
      ∃ windows, service.getResetTimestamp reset now = reset + windows * service.limitDuration := by
  have positive := service.limitDuration_pos
  by_cases past : reset < now
  · have floor := Nat.div_mul_le_self (now - reset + service.limitDuration - 1) service.limitDuration
    have rounded := Nat.lt_div_mul_add positive (a := now - reset + service.limitDuration - 1)
    rw [service.getResetTimestamp_of_lt past]
    refine ⟨by omega, by omega, _, rfl⟩
  · rw [service.getResetTimestamp_of_le (Nat.le_of_not_lt past)]
    exact ⟨Nat.le_of_not_lt past, by omega, 0, by simp⟩

end HbarLimitService

/-- The clock and the time of the next reset are the same. -/
structure LimiterState.SameTimes (before after : LimiterState) : Prop where
  now : after.now = before.now
  reset : after.reset = before.reset

theorem LimiterState.SameTimes.trans {first second third : LimiterState} (one : first.SameTimes second)
    (two : second.SameTimes third) : first.SameTimes third where
  now := two.now.trans one.now
  reset := two.reset.trans one.reset

theorem sameTimes_bind {Middle Result : Type} {program : Throwing Middle} {next : Middle → Throwing Result}
    (first : ∀ state : LimiterState, state.SameTimes (evaluate program.run state).2)
    (second : ∀ result (state : LimiterState), state.SameTimes (evaluate (next result).run state).2)
    (state : LimiterState) :
    state.SameTimes (evaluate (program >>= next).run state).2 := by
  rw [evaluate_bind]
  have kept := first state
  cases evaluated : evaluate program.run state with
  | mk outcome after =>
    rw [evaluated] at kept
    cases outcome with
    | error error => exact kept
    | ok result => exact kept.trans (second result after)

namespace HbarLimitService

variable (service : HbarLimitService)

theorem sameTimes_operatorPlan (requestDetails : RequestDetails) (state : LimiterState) :
    state.SameTimes (service.operatorPlan state requestDetails).2 := by
  unfold operatorPlan
  cases service.planFor state service.operatorAddress requestDetails <;> exact ⟨rfl, rfl⟩

theorem sameTimes_callerPlan (evmAddress : String) (requestDetails : RequestDetails) (state : LimiterState) :
    state.SameTimes (service.callerPlan state evmAddress requestDetails).2 := by
  unfold callerPlan
  cases service.planFor state evmAddress requestDetails with
  | some plan => exact ⟨rfl, rfl⟩
  | none => by_cases missing : evmAddress = "" <;> simp only [missing, if_true, if_false] <;> exact ⟨rfl, rfl⟩

theorem sameTimes_addToAmountSpent (id : PlanId) (amount ttl : Nat) (state : LimiterState) :
    state.SameTimes (evaluate (HbarSpendingPlanRepository.addToAmountSpent service.sharedCacheEnabled id amount
      ttl).run state).2 := by
  rw [evaluate_addToAmountSpent]
  cases state.activePlan id <;> exact ⟨rfl, rfl⟩

/-- An expense leaves the clock and the schedule. -/
theorem sameTimes_addExpense (cost : Nat) (evmAddress : String) (requestDetails : RequestDetails)
    (state : LimiterState) :
    state.SameTimes (evaluate (service.addExpense cost evmAddress requestDetails).run state).2 := by
  unfold addExpense
  cases service.isEnabled with
  | false => exact ⟨rfl, rfl⟩
  | true =>
    simp only [if_true]
    apply sameTimes_bind
    · intro state
      rw [evaluate_getOperatorSpendingPlan]
      exact service.sameTimes_operatorPlan requestDetails state
    · intro operatorPlan
      apply sameTimes_bind
      · exact service.sameTimes_addToAmountSpent operatorPlan.id cost service.limitDuration
      · intro _ state
        rw [evaluate_lift_bind, evaluate_getRemainingBudget, evaluate_addExpenseToSpendingPlan]
        have read := service.sameTimes_operatorPlan requestDetails state
        have callers := service.sameTimes_callerPlan evmAddress requestDetails
          (service.operatorPlan state requestDetails).2
        cases own : service.callerPlan (service.operatorPlan state requestDetails).2 evmAddress requestDetails with
        | mk plan after =>
          rw [own] at callers
          cases plan with
          | none => exact read.trans callers
          | some plan =>
            have charged := service.sameTimes_addToAmountSpent plan.id cost service.limitDuration after
            exact (read.trans callers).trans charged

theorem times_resetLimiter (requestDetails : RequestDetails) (state : LimiterState) :
    (evaluate (service.resetLimiter requestDetails) state).2.now = state.now ∧
      (evaluate (service.resetLimiter requestDetails) state).2.reset =
        service.getResetTimestamp state.reset state.now := by
  obtain ⟨amountSpent, evaluated, -⟩ := evaluate_resetAmountSpentOfAllPlans state
  have kept := service.sameTimes_operatorPlan requestDetails { state with amountSpent }
  rw [evaluate_resetLimiter, evaluated]
  simp only [kept.now, kept.reset]
  trivial

private theorem times_shouldLimit (evmAddress : String) (requestDetails : RequestDetails) (estimatedTxFee : Nat)
    (state : LimiterState) :
    (evaluate (service.shouldLimit evmAddress requestDetails estimatedTxFee).run state).2.now = state.now ∧
      (evaluate (service.shouldLimit evmAddress requestDetails estimatedTxFee).run state).2.reset =
        if service.isEnabled = true ∧ state.now ≥ state.reset then service.getResetTimestamp state.reset state.now
        else state.reset := by
  cases enabled : service.isEnabled with
  | false =>
    simp only [shouldLimit, enabled, Bool.not_false, if_true, Bool.false_eq_true, false_and, if_false]
    exact ⟨rfl, rfl⟩
  | true =>
    have checked : (evaluate (service.isTotalBudgetExceeded estimatedTxFee requestDetails) state).2.now = state.now ∧
        (evaluate (service.isTotalBudgetExceeded estimatedTxFee requestDetails) state).2.reset =
          if state.now ≥ state.reset then service.getResetTimestamp state.reset state.now else state.reset := by
      rw [evaluate_isTotalBudgetExceeded]
      have kept := service.sameTimes_operatorPlan requestDetails
        (if state.now ≥ state.reset then (evaluate (service.resetLimiter requestDetails) state).2 else state)
      rw [kept.now, kept.reset]
      by_cases due : state.now ≥ state.reset
      · simp only [if_pos due]
        exact service.times_resetLimiter requestDetails state
      · simp only [if_neg due]
        trivial
    simp only [true_and]
    rcases service.evaluate_shouldLimit enabled evmAddress requestDetails estimatedTxFee state with
      stopped | created
    · rw [stopped]
      exact checked
    · have kept := service.sameTimes_callerPlan evmAddress requestDetails
        (evaluate (service.isTotalBudgetExceeded estimatedTxFee requestDetails) state).2
      rw [created, kept.now, kept.reset]
      exact checked

/-- What a step does to the schedule: a reset takes the next timestamp, and nothing else
changes it. -/
theorem serveLimiter_times {before after : LimiterState} {label : LimiterLabel}
    (taken : service.serveLimiter before label = some after) :
    before.now ≤ after.now ∧
      (service.Resets before label → after.now = before.now ∧
        after.reset = service.getResetTimestamp before.reset before.now) ∧
      (¬ service.Resets before label → after.reset = before.reset) := by
  cases label with
  | addExpense cost evmAddress requestDetails =>
    obtain rfl := Option.some.inj taken
    have kept := service.sameTimes_addExpense cost evmAddress requestDetails before
    exact ⟨Nat.le_of_eq kept.now.symm, False.elim, fun _ => kept.reset⟩
  | shouldLimit evmAddress requestDetails estimatedTxFee =>
    obtain rfl := Option.some.inj taken
    obtain ⟨now, reset⟩ := service.times_shouldLimit evmAddress requestDetails estimatedTxFee before
    refine ⟨Nat.le_of_eq now.symm, ?_, ?_⟩
    · intro due
      exact ⟨now, reset.trans (if_pos due)⟩
    · intro early
      exact reset.trans (if_neg early)
  | resetLimiter requestDetails =>
    obtain rfl := Option.some.inj taken
    obtain ⟨now, reset⟩ := service.times_resetLimiter requestDetails before
    exact ⟨Nat.le_of_eq now.symm, fun _ => ⟨now, reset⟩, fun early => absurd trivial early⟩
  | advance duration =>
    obtain rfl := Option.some.inj taken
    exact ⟨Nat.le_add_right _ _, False.elim, fun _ => rfl⟩

/-- The time of the next reset is a boundary of the windows, and at most one duration
ahead. -/
structure Scheduled (midnight : Nat) (state : LimiterState) : Prop where
  boundary : ∃ windows, state.reset = midnight + windows * service.limitDuration
  near : state.reset ≤ state.now + service.limitDuration

variable {service} {midnight now : Nat}

theorem scheduled_construct (started : midnight ≤ now) :
    service.Scheduled midnight (service.construct midnight now) := by
  obtain ⟨-, near, boundary⟩ := service.getResetTimestamp_spec midnight now
  exact ⟨boundary, Nat.le_of_lt (near started)⟩

/-- The timestamp after a scheduled state is at most one duration ahead. -/
theorem Scheduled.nextReset {state : LimiterState} (scheduled : service.Scheduled midnight state) :
    service.getResetTimestamp state.reset state.now ≤ state.now + service.limitDuration := by
  obtain ⟨-, near, -⟩ := service.getResetTimestamp_spec state.reset state.now
  by_cases early : state.now ≤ state.reset
  · rw [service.getResetTimestamp_of_le early]
    exact scheduled.near
  · exact Nat.le_of_lt (near (by omega))

theorem Scheduled.step {before after : LimiterState} {label : LimiterLabel}
    (scheduled : service.Scheduled midnight before) (taken : service.serveLimiter before label = some after) :
    service.Scheduled midnight after := by
  obtain ⟨later, resets, keeps⟩ := service.serveLimiter_times taken
  obtain ⟨windows, same⟩ := scheduled.boundary
  by_cases due : service.Resets before label
  · obtain ⟨sameNow, sameReset⟩ := resets due
    obtain ⟨-, -, more, next⟩ := service.getResetTimestamp_spec before.reset before.now
    constructor
    · refine ⟨windows + more, ?_⟩
      rw [sameReset, next, same, Nat.add_mul, Nat.add_assoc]
    · rw [sameNow, sameReset]
      exact scheduled.nextReset
  · have near := scheduled.near
    constructor
    · exact ⟨windows, (keeps due).trans same⟩
    · rw [keeps due]
      omega

/-- The time of the next reset never goes back. -/
theorem reset_le_of_step {before after : LimiterState} {label : LimiterLabel}
    (taken : service.serveLimiter before label = some after) : before.reset ≤ after.reset := by
  obtain ⟨-, resets, keeps⟩ := service.serveLimiter_times taken
  by_cases due : service.Resets before label
  · obtain ⟨-, -, windows, next⟩ := service.getResetTimestamp_spec before.reset before.now
    rw [(resets due).2, next]
    exact Nat.le_add_right _ _
  · exact Nat.le_of_eq (keeps due).symm

private theorem reset_le_of_run {before after : LimiterState} {labels : List LimiterLabel}
    (reached : run service.serveLimiter before labels = some after) : before.reset ≤ after.reset := by
  apply run_invariant (motive := fun state => before.reset ≤ state.reset) _ (Nat.le_refl _) reached
  intro middle label next above taken
  exact Nat.le_trans above (reset_le_of_step taken)

theorem scheduled_run (started : midnight ≤ now) {labels : List LimiterLabel} {state : LimiterState}
    (reached : run service.serveLimiter (service.construct midnight now) labels = some state) :
    service.Scheduled midnight state := by
  apply run_invariant _ (scheduled_construct started) reached
  intro before label after scheduled taken
  exact scheduled.step taken

/-- A timestamp that is in the future exactly off the boundaries. -/
theorem lt_getResetTimestamp_iff (reset now : Nat) :
    now < service.getResetTimestamp reset now ↔ ¬ service.OnBoundary reset now := by
  obtain ⟨notPast, near, windows, next⟩ := service.getResetTimestamp_spec reset now
  constructor
  · intro later on
    obtain ⟨passed, same⟩ := on
    have near := near (by omega)
    have positive := service.limitDuration_pos
    have below : passed < windows := by
      by_contra order
      have more := Nat.mul_le_mul_right service.limitDuration (Nat.le_of_not_lt order)
      omega
    have more := Nat.mul_le_mul_right service.limitDuration (Nat.succ_le_of_lt below)
    rw [Nat.succ_mul] at more
    omega
  · intro off
    by_contra order
    exact off ⟨windows, by omega⟩

/-- The schedule is kept exactly when no reset happens at a boundary to the millisecond. -/
theorem keepsSchedule_iff (service : HbarLimitService) {midnight now : Nat} (started : midnight ≤ now)
    (labels : List LimiterLabel) :
    service.KeepsSchedule midnight now labels ↔ service.ResetsOffBoundary midnight now labels := by
  constructor
  · intro keeps
    constructor
    · exact (lt_getResetTimestamp_iff midnight now).mp keeps.constructed.later
    · intro earlier label later before split reached due
      cases taken : service.serveLimiter before label with
      | none => cases label <;> cases taken
      | some after =>
        have next := keeps.afterReset earlier label later before after split reached due taken
        obtain ⟨sameNow, sameReset⟩ := (service.serveLimiter_times taken).2.1 due
        have ahead := next.later
        rw [sameNow, sameReset] at ahead
        exact (lt_getResetTimestamp_iff before.reset before.now).mp ahead
  · intro off
    have next : ∀ {earlier label later before after}, earlier ++ label :: later = labels →
        run service.serveLimiter (service.construct midnight now) earlier = some before →
        service.Resets before label → service.serveLimiter before label = some after →
        service.NextWindow before.reset after.reset after.now := by
      intro earlier label later before after split reached due taken
      have scheduled := scheduled_run started reached
      obtain ⟨sameNow, sameReset⟩ := (service.serveLimiter_times taken).2.1 due
      rw [sameNow, sameReset]
      constructor
      · exact (lt_getResetTimestamp_iff before.reset before.now).mpr
          (off.resets earlier label later before split reached due)
      · exact (service.getResetTimestamp_spec before.reset before.now).2.2
      · exact scheduled.nextReset
    constructor
    · constructor
      · exact (lt_getResetTimestamp_iff midnight now).mpr off.constructed
      · exact (service.getResetTimestamp_spec midnight now).2.2
      · exact (scheduled_construct started).near
    · intro earlier label later before after split reached due taken
      exact next split reached due taken
    · intro earlier evmAddress requestDetails estimatedTxFee between evmAddress' requestDetails' estimatedTxFee' later
        first second split reachedFirst due reachedSecond dueAgain
      rw [run_cons, Option.bind_eq_some_iff] at reachedSecond
      obtain ⟨afterFirst, taken, reachedSecond⟩ := reachedSecond
      have window := next split reachedFirst due taken
      have sameNow := ((service.serveLimiter_times taken).2.1 due).1
      have scheduled := (scheduled_run started reachedFirst).step taken
      obtain ⟨windows, boundary⟩ := scheduled.boundary
      have onwards := reset_le_of_run reachedSecond
      have ahead := window.later
      have past := dueAgain.2
      exact ⟨windows, by omega, by omega⟩

theorem exampleService_construct : (exampleService.construct 0 43200000).reset = 86400000 :=
  exampleService.getResetTimestamp_of_lt (by decide)

/-- A reset one millisecond after midnight. -/
theorem keepsSchedule_afterMidnight :
    exampleService.KeepsSchedule 0 43200000
      [.advance 43200001, .shouldLimit "0xa" { requestId := "", ipAddress := "" } 0] := by
  apply (keepsSchedule_iff exampleService (Nat.zero_le _) _).mpr
  constructor
  · intro ⟨windows, same⟩
    change 43200000 = 0 + windows * 86400000 at same
    omega
  · intro earlier label later before split reached due ⟨windows, same⟩
    cases earlier with
    | nil =>
      cases split
      cases due
    | cons first rest =>
      cases rest with
      | nil =>
        cases split
        obtain rfl := Option.some.inj reached
        change 86400001 = (exampleService.construct 0 43200000).reset + windows * 86400000 at same
        rw [exampleService_construct] at same
        omega
      | cons second rest =>
        have length := congrArg List.length split
        simp at length

/-- Two requests in the first millisecond of a window both reset. -/
theorem boundary_resetsTwice :
    ¬ exampleService.KeepsSchedule 0 43200000
      [.advance 43200000, .shouldLimit "0xa" { requestId := "", ipAddress := "" } 0,
        .addExpense 10 "0xa" { requestId := "", ipAddress := "" },
        .shouldLimit "0xb" { requestId := "", ipAddress := "" } 0] := by
  intro keeps
  obtain ⟨first, atMidnight⟩ : ∃ first, first = { exampleService.construct 0 43200000 with now := 86400000 } :=
    ⟨_, rfl⟩
  have now : first.now = 86400000 := by rw [atMidnight]
  have reset : first.reset = 86400000 := by
    rw [atMidnight]
    exact exampleService_construct
  have reached : run exampleService.serveLimiter (exampleService.construct 0 43200000) [.advance 43200000] =
      some first := by
    rw [atMidnight]
    rfl
  have due : exampleService.Resets first (.shouldLimit "0xa" { requestId := "", ipAddress := "" } 0) :=
    ⟨rfl, by omega⟩
  obtain ⟨middle, taken⟩ : ∃ middle, exampleService.serveLimiter first
      (.shouldLimit "0xa" { requestId := "", ipAddress := "" } 0) = some middle := ⟨_, rfl⟩
  obtain ⟨middleNow, middleReset⟩ := (exampleService.serveLimiter_times taken).2.1 due
  rw [now, reset, exampleService.getResetTimestamp_of_le (Nat.le_refl _)] at middleReset
  have kept := exampleService.sameTimes_addExpense 10 "0xa" { requestId := "", ipAddress := "" } middle
  obtain ⟨second, same⟩ : ∃ second, exampleService.serveLimiter middle
      (.addExpense 10 "0xa" { requestId := "", ipAddress := "" }) = some second := ⟨_, rfl⟩
  obtain rfl := Option.some.inj same
  have secondNow := kept.now.trans (middleNow.trans now)
  have dueAgain : exampleService.Resets
      (evaluate (exampleService.addExpense 10 "0xa" { requestId := "", ipAddress := "" }).run middle).2
      (.shouldLimit "0xb" { requestId := "", ipAddress := "" } 0) := by
    refine ⟨rfl, Nat.le_of_eq ?_⟩
    rw [secondNow, kept.reset, middleReset]
  have between : run exampleService.serveLimiter first
      [.shouldLimit "0xa" { requestId := "", ipAddress := "" } 0,
        .addExpense 10 "0xa" { requestId := "", ipAddress := "" }] =
      some (evaluate (exampleService.addExpense 10 "0xa" { requestId := "", ipAddress := "" }).run middle).2 := by
    rw [run_cons, taken]
    rfl
  obtain ⟨windows, after, upTo⟩ := keeps.once [.advance 43200000] "0xa" { requestId := "", ipAddress := "" } 0
    [.addExpense 10 "0xa" { requestId := "", ipAddress := "" }] "0xb" { requestId := "", ipAddress := "" } 0 [] _ _
    rfl reached due between dueAgain
  rw [secondNow] at upTo
  rw [now] at after
  exact absurd upTo (Nat.not_le.mpr after)

end HbarLimitService

end HieroRelay.Hbar
