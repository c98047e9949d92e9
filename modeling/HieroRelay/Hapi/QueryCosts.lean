import HieroRelay.Hapi.Network
import HieroRelay.Lib.Credits
import HieroRelay.Lib.Guarded
import Mathlib.Algebra.Order.Ring.Int
import Mathlib.Data.Int.ConditionallyCompleteOrder
import Mathlib.Data.Rat.Floor
import Mathlib.Tactic.IntervalCases
import Mathlib.Tactic.Linarith
import Mathlib.Tactic.NormNum
import Mathlib.Tactic.Ring

/-! What a contract call may cost the operator: how often it is tried, what is offered for it
and how long it waits between the tries. -/

namespace HieroRelay.Hapi

open HieroRelay.Lib
open HieroRelay.Relay (RequestDetails)

section Offers

theorem mathRound_mono {value other : Rat} (le : value ≤ other) : mathRound value ≤ mathRound other :=
  Rat.floor_monotone (by linarith)

private theorem costMultiplier_pos (retry : Nat) : 0 < costMultiplier retry := by
  unfold costMultiplier
  split <;> norm_num

private theorem costMultiplier_le {retry : Nat} (within : retry ≤ 3) : costMultiplier retry ≤ costMultiplier 3 := by
  interval_cases retry <;> norm_num [costMultiplier]

/-- The most that is offered for a query whose cost was asked for. -/
def highestOffer (baseCost : Int) : Int := max 0 (increasedCost baseCost 3)

private theorem increasedCost_le_highestOffer {baseCost : Int} {retry : Nat} (within : retry ≤ 3) :
    increasedCost baseCost retry ≤ highestOffer baseCost := by
  rcases le_or_gt 0 baseCost with positive | negative
  · apply le_max_of_le_right
    apply mathRound_mono
    have base : (0 : Rat) ≤ baseCost := Int.cast_nonneg positive
    exact mul_le_mul_of_nonneg_left (costMultiplier_le within) base
  · apply le_max_of_le_left
    have base : (baseCost : Rat) < 0 := Int.cast_lt_zero.mpr negative
    have below : (baseCost : Rat) * costMultiplier retry ≤ 0 :=
      (mul_neg_of_neg_of_pos base (costMultiplier_pos retry)).le
    calc increasedCost baseCost retry
        ≤ mathRound 0 := mathRound_mono below
      _ = 0 := by decide +kernel

end Offers

namespace Step

/-- The cost was asked for. -/
def asked : Step → Int
  | (⟨.getCost _, _⟩, _) => 1
  | _ => 0

def executed : Step → Int
  | (⟨.executeQuery _ _, _⟩, _) => 1
  | _ => 0

def waits : Step → Int
  | (⟨.setTimeout _, _⟩, _) => 1
  | _ => 0

/-- In milliseconds. -/
def delay : Step → Int
  | (⟨.setTimeout delay, _⟩, _) => delay
  | _ => 0

/-- What may be paid after the answer of `getCost`. -/
def allowance : Step → Int
  | (⟨.getCost _, answer⟩, _) =>
      match (answer : Except SdkError Int) with
      | .ok baseCost => highestOffer baseCost
      | .error _ => 0
  | _ => 0

def chargeCount (step : Step) : Int := step.charges.length

def paid (step : Step) : Int := (step.charges.map Charge.cost).sum

end Step

/-- The calls of a contract call that cost nothing. -/
def Op.Free : Op → Prop
  | .generate _ | .getCost _ | .emit _ | .setTimeout _ => True
  | _ => False

/-- A query is charged once at most, for no more than the payment that was set on it, and not at all
where the payment was too low or there is no operator. -/
def Step.Fair (operatorAccountId : Option String) : Step → Prop
  | (⟨.executeQuery _ payment, execution⟩, effect) =>
      effect.charges.length ≤ 1 ∧
        (∀ charge ∈ effect.charges, ∀ cost, payment.queryPayment = some cost → charge.cost ≤ cost) ∧
        (∀ e, execution.outcome = .error e → (SDKClientError.new e none none).isInsufficientTxFee →
          effect.charges = []) ∧
        (operatorAccountId = none → effect.charges = [])
  | (⟨op, _⟩, effect) => op.Free → effect.charges = []

/-- A network that charges what was set keeps to it. -/
theorem Step.Lawful.fair {operatorAccountId : Option String} {step : Step} (lawful : step.Lawful operatorAccountId) :
    step.Fair operatorAccountId := by
  obtain ⟨⟨op, answer⟩, effect⟩ := step
  cases op with
  | executeQuery query payment =>
    obtain ⟨_, kept, once, charged, free⟩ := lawful.charged
    refine ⟨once, fun charge member cost offered => ?_, free, lawful.operator⟩
    have own := (charged charge member).2.2
    rw [kept cost offered] at own
    exact (Option.some.inj own).ge
  | generate | getCost | emit | setTimeout => exact fun _ => lawful.charged
  | _ => exact False.elim

/-- What each call of a try changes a credit by: `offer` is the credit that the executions need from
one of them on, and `attempt` the one of the try. -/
structure Tariff (operatorAccountId : Option String) (change : Step → Int) (attempt : Int)
    (offer : Int → Nat → Int) : Prop where
  generate : ∀ account transactionId effect, Step.Fair operatorAccountId (⟨.generate account, transactionId⟩, effect) →
    0 ≤ change (⟨.generate account, transactionId⟩, effect)
  emit : ∀ event answer effect, Step.Fair operatorAccountId (⟨.emit event, answer⟩, effect) →
    0 ≤ change (⟨.emit event, answer⟩, effect)
  getCost : ∀ query baseCost effect, Step.Fair operatorAccountId (⟨.getCost query, .ok baseCost⟩, effect) →
    offer baseCost 0 ≤ attempt + change (⟨.getCost query, .ok baseCost⟩, effect)
  noCost : ∀ query e effect, Step.Fair operatorAccountId (⟨.getCost query, .error e⟩, effect) →
    0 ≤ attempt + change (⟨.getCost query, .error e⟩, effect)
  execute : ∀ query payment execution effect baseCost retry, retry ≤ 3 →
    payment.queryPayment = some (increasedCost baseCost retry) →
    Step.Fair operatorAccountId (⟨.executeQuery query payment, execution⟩, effect) →
    0 ≤ offer baseCost retry + change (⟨.executeQuery query payment, execution⟩, effect)
  raise : ∀ query payment execution effect baseCost retry, retry < 3 →
    Step.Fair operatorAccountId (⟨.executeQuery query payment, execution⟩, effect) →
    ∀ e, execution.outcome = .error e → (SDKClientError.new e none none).isInsufficientTxFee →
    offer baseCost (retry + 1) ≤ offer baseCost retry + change (⟨.executeQuery query payment, execution⟩, effect)
  unpaid : operatorAccountId = none → ∀ query execution effect,
    Step.Fair operatorAccountId (⟨.executeQuery query SDKClient.unpaid, execution⟩, effect) →
    0 ≤ attempt + change (⟨.executeQuery query SDKClient.unpaid, execution⟩, effect)

section Calls
variable {lawful : Step → Prop} {change : Step → Int} {credit : Int} {op : Op}

theorem affords_perform_bind {next : Answer op → Prog Op Answer Result} {left : Result → Int}
    (following : ∀ answer effect, lawful (⟨op, answer⟩, effect) →
      (next answer).Affords lawful change (credit + change (⟨op, answer⟩, effect)) left) :
    (perform op >>= next).Affords lawful change credit left :=
  Prog.affords_call following

private theorem affords_ask_bind {next : Answer op → Throwing Result} {left : Except Thrown Result → Int}
    (following : ∀ answer effect, lawful (⟨op, answer⟩, effect) →
      (next answer).run.Affords lawful change (credit + change (⟨op, answer⟩, effect)) left) :
    (ask op >>= next).run.Affords lawful change credit left :=
  Prog.affords_call following

end Calls

namespace Tariff

variable {operatorAccountId : Option String} {change : Step → Int} {attempt : Int} {offer : Int → Nat → Int}
  (tariff : Tariff operatorAccountId change attempt offer)
include tariff

/-- The executions of one try, with raised offers. -/
theorem affords_increaseCost (query : Query) (baseCost : Int) (retriesLeft : Nat) {currentRetry : Nat}
    (within : currentRetry + retriesLeft = 3) (payment : QueryPayment) :
    (SDKClient.increaseCostAndRetryExecution query payment baseCost currentRetry retriesLeft).Affords
      (Step.Fair operatorAccountId) change (offer baseCost currentRetry) fun _ => 0 := by
  induction retriesLeft generalizing currentRetry payment with
  | zero =>
    apply affords_perform_bind
    intro execution effect lawful
    exact Prog.affords_done (tariff.execute _ _ _ _ _ _ within.le rfl lawful)
  | succ retriesLeft ih =>
    apply affords_perform_bind
    intro execution effect lawful
    have enough := tariff.execute _ _ _ _ baseCost currentRetry (by omega) rfl lawful
    cases outcome : execution.outcome with
    | ok resp => exact Prog.affords_done enough
    | error e =>
      dsimp only
      split
      next insufficient =>
        have raised := tariff.raise _ _ _ _ baseCost currentRetry (by omega) lawful e outcome insufficient
        exact (ih (by omega) execution.payment).weaken raised fun _ => le_rfl
      next => exact Prog.affords_done enough

/-- A query with a payment, or one that nobody pays for. -/
theorem affords_tryQuery (query : Query) (payment : QueryPayment)
    (paying : payment.paymentTransactionId = none → operatorAccountId = none ∧ payment = SDKClient.unpaid) :
    (SDKClient.tryQuery query payment).Affords (Step.Fair operatorAccountId) change attempt fun _ => 0 := by
  rw [SDKClient.tryQuery]
  cases identified : payment.paymentTransactionId with
  | none =>
    obtain ⟨nobody, rfl⟩ := paying identified
    apply affords_perform_bind
    intro execution effect lawful
    exact Prog.affords_done (tariff.unpaid nobody _ _ _ lawful)
  | some transactionId =>
    apply affords_perform_bind
    intro baseCost effect lawful
    cases baseCost with
    | ok baseCost =>
      have asked := tariff.getCost _ _ _ lawful
      exact (tariff.affords_increaseCost query baseCost 3 rfl payment).weaken asked fun _ => le_rfl
    | error e => exact Prog.affords_done (tariff.noCost _ _ _ lawful)

private theorem affords_reported (query : Query) (requestDetails : RequestDetails)
    (originalCallerAddress : Option String)
    (result : SDKClient.Tried query) :
    (SDKClient.reported query requestDetails originalCallerAddress result).run.Affords
      (Step.Fair operatorAccountId) change 0 fun _ => 0 := by
  have emits : ∀ payment queryCost status, (SDKClient.emitQuery query payment queryCost status requestDetails
      originalCallerAddress).run.Affords (Step.Fair operatorAccountId) change 0 fun _ => 0 := by
    intro payment queryCost status
    cases queryCost with
    | none => exact Prog.affords_done le_rfl
    | some cost =>
      rw [SDKClient.emitQuery]
      split
      · apply Prog.affords_call
        intro answer effect lawful
        have free := tariff.emit _ _ _ lawful
        exact Prog.affords_done (by omega)
      · exact Prog.affords_done le_rfl
  obtain ⟨outcome, payment⟩ := result
  cases outcome with
  | ok answered =>
    exact affords_bindExcept (emits _ _ _) (fun _ => Prog.affords_done le_rfl) fun _ => le_rfl
  | error e =>
    exact affords_bindExcept (emits _ _ _) (fun _ => Prog.affords_done le_rfl) fun _ => le_rfl

theorem affords_executeQuery (query : Query) (payment : QueryPayment) (requestDetails : RequestDetails)
    (originalCallerAddress : Option String)
    (paying : payment.paymentTransactionId = none → operatorAccountId = none ∧ payment = SDKClient.unpaid) :
    (SDKClient.executeQuery query payment requestDetails originalCallerAddress).run.Affords
      (Step.Fair operatorAccountId) change attempt fun _ => 0 :=
  affords_lift_bind (tariff.affords_tryQuery query payment paying) fun result =>
    tariff.affords_reported query requestDetails originalCallerAddress result

end Tariff

theorem Tariff.affords_submitContractCallQuery {client : SDKClient} {change : Step → Int} {attempt : Int}
    {offer : Int → Nat → Int} (tariff : Tariff client.operatorAccountId change attempt offer)
    (recipient data : String) (gas : Nat) (sender : String) (requestDetails : RequestDetails) :
    (client.submitContractCallQuery recipient data gas sender requestDetails).run.Affords
      (Step.Fair client.operatorAccountId) change attempt fun _ => 0 := by
  rw [SDKClient.submitContractCallQuery]
  cases operator : client.operatorAccountId with
  | none =>
    rw [operator] at tariff
    exact tariff.affords_executeQuery (.contractCall _ _ _ _) _ _ _ fun _ => ⟨rfl, rfl⟩
  | some operatorAccountId =>
    rw [operator] at tariff
    apply affords_ask_bind
    intro transactionId effect fair
    have enough : attempt ≤ attempt + change (⟨.generate operatorAccountId, transactionId⟩, effect) :=
      le_add_of_nonneg_right (tariff.generate _ _ _ fair)
    refine (tariff.affords_executeQuery (.contractCall _ _ _ _) _ requestDetails sender ?_).weaken enough
      fun _ => le_rfl
    intro absent
    cases absent

section Charges
variable {operatorAccountId : Option String} {op : Op} {answer : Answer op} {query : Query} {payment : QueryPayment}
  {execution : QueryExecution query} {effect : Effect}

theorem paid_of_nil (none : effect.charges = []) : Step.paid (⟨op, answer⟩, effect) = 0 := by
  rw [Step.paid, Step.charges, none]
  rfl

theorem chargeCount_of_nil (none : effect.charges = []) : Step.chargeCount (⟨op, answer⟩, effect) = 0 := by
  rw [Step.chargeCount, Step.charges, none]
  rfl

/-- An execution is charged once at most. -/
theorem chargeCount_le (fair : Step.Fair operatorAccountId (⟨.executeQuery query payment, execution⟩, effect)) :
    Step.chargeCount (⟨.executeQuery query payment, execution⟩, effect) ≤ 1 :=
  Int.ofNat_le.mpr fair.1

/-- No more is paid for an execution than what was offered for it. -/
theorem paid_le (fair : Step.Fair operatorAccountId (⟨.executeQuery query payment, execution⟩, effect))
    {cost : Int} (offered : payment.queryPayment = some cost) {most : Int} (nonneg : 0 ≤ most) (le : cost ≤ most) :
    Step.paid (⟨.executeQuery query payment, execution⟩, effect) ≤ most := by
  obtain ⟨once, charged, _, _⟩ := fair
  rw [Step.paid, Step.charges]
  cases charges : effect.charges with
  | nil => exact nonneg
  | cons charge others =>
    have within := charged charge (charges ▸ List.mem_cons_self) cost offered
    rw [charges, List.length_cons] at once
    obtain rfl : others = [] := List.eq_nil_of_length_eq_zero (by omega)
    rw [List.map_singleton, List.sum_singleton]
    exact within.trans le

end Charges

section Tariffs
variable (operatorAccountId : Option String)

/-- The offers are paid from the answers of `getCost`. -/
theorem tariff_paid :
    Tariff operatorAccountId (fun step => step.allowance - step.paid) 0 fun baseCost _ => highestOffer baseCost where
  generate _ _ _ fair := by simp [Step.allowance, paid_of_nil (fair trivial)]
  emit _ _ _ fair := by simp [Step.allowance, paid_of_nil (fair trivial)]
  getCost _ _ _ fair := by simp [Step.allowance, paid_of_nil (fair trivial)]
  noCost _ _ _ fair := by simp [Step.allowance, paid_of_nil (fair trivial)]
  execute _ _ _ _ baseCost _ within offered fair := by
    have nonneg : 0 ≤ highestOffer baseCost := le_max_left _ _
    have le := paid_le fair offered nonneg (increasedCost_le_highestOffer within)
    simp only [Step.allowance]
    omega
  raise _ _ _ _ _ _ _ fair e outcome insufficient := by
    simp [Step.allowance, paid_of_nil (fair.2.2.1 e outcome insufficient)]
  unpaid nobody _ _ _ fair := by simp [Step.allowance, paid_of_nil (fair.2.2.2 nobody)]

/-- Every try is charged once at most: an offer that is raised was not taken. -/
theorem tariff_chargeCount : Tariff operatorAccountId (fun step => -step.chargeCount) 1 fun _ _ => 1 where
  generate _ _ _ fair := by simp [chargeCount_of_nil (fair trivial)]
  emit _ _ _ fair := by simp [chargeCount_of_nil (fair trivial)]
  getCost _ _ _ fair := by simp [chargeCount_of_nil (fair trivial)]
  noCost _ _ _ fair := by simp [chargeCount_of_nil (fair trivial)]
  execute _ _ _ _ _ _ _ _ fair := by
    have once := chargeCount_le fair
    omega
  raise _ _ _ _ _ _ _ fair e outcome insufficient := by
    simp [chargeCount_of_nil (fair.2.2.1 e outcome insufficient)]
  unpaid _ _ _ _ fair := by
    have once := chargeCount_le fair
    omega

/-- Of the executions of a try each has one that is left less. -/
theorem tariff_executed : Tariff operatorAccountId (fun step => -step.executed) 4 fun _ retry => 4 - retry where
  generate _ _ _ _ := le_rfl
  emit _ _ _ _ := le_rfl
  getCost _ _ _ _ := le_rfl
  noCost _ _ _ _ := by simp [Step.executed]
  execute _ _ _ _ _ _ within _ _ := by
    simp only [Step.executed]
    omega
  raise _ _ _ _ _ _ _ _ _ _ _ := by
    simp only [Step.executed]
    omega
  unpaid _ _ _ _ _ := by simp [Step.executed]

private theorem tariff_asked : Tariff operatorAccountId (fun step => -step.asked) 1 fun _ _ => 0 where
  generate _ _ _ _ := le_rfl
  emit _ _ _ _ := le_rfl
  getCost _ _ _ _ := le_rfl
  noCost _ _ _ _ := le_rfl
  execute _ _ _ _ _ _ _ _ _ := le_rfl
  raise _ _ _ _ _ _ _ _ _ _ _ := le_rfl
  unpaid _ _ _ _ _ := by simp [Step.asked]

private theorem tariff_waits : Tariff operatorAccountId (fun step => -step.waits) 0 fun _ _ => 0 where
  generate _ _ _ _ := le_rfl
  emit _ _ _ _ := le_rfl
  getCost _ _ _ _ := le_rfl
  noCost _ _ _ _ := le_rfl
  execute _ _ _ _ _ _ _ _ _ := le_rfl
  raise _ _ _ _ _ _ _ _ _ _ _ := le_rfl
  unpaid _ _ _ _ _ := le_rfl

end Tariffs

section Tries

/-- A try asks for the cost once, sends the query four times and is charged once, at most, and for
no more than the highest offer; it has no delay. -/
structure Attempt (query : Throwing ContractFunctionResult) (steps : List Step)
    (result : Except Thrown ContractFunctionResult) : Prop where
  ran : RanNoted query.run steps result
  asked : total Step.asked steps ≤ 1
  executed : total Step.executed steps ≤ 4
  charged : total Step.chargeCount steps ≤ 1
  paid : total Step.paid steps ≤ total Step.allowance steps
  undelayed : total Step.waits steps ≤ 0

/-- The tries of a run from one on: each but the last has timed out, and a delay follows it. -/
inductive Tries (query : Throwing ContractFunctionResult) : (retries retriesLeft : Nat) → List Step →
    Except Thrown (Option ContractFunctionResult) → Prop where
  | exhausted (retries : Nat) : Tries query retries 0 [] (.ok none)
  | last {retries retriesLeft : Nat} {steps : List Step} {result : Except Thrown ContractFunctionResult}
      {outcome : Except Thrown (Option ContractFunctionResult)} (attempt : Attempt query steps result)
      (ended : outcome ≠ .ok none) : Tries query retries (retriesLeft + 1) steps outcome
  | again {retries retriesLeft : Nat} {steps later : List Step} {e : Thrown} {effect : Effect}
      {outcome : Except Thrown (Option ContractFunctionResult)} (attempt : Attempt query steps (.error e))
      (timedOut : (SDKClientError.new e.toSdkError none none).isTimeoutExceeded = true)
      (free : effect.charges = []) (rest : Tries query (retries + 1) retriesLeft later outcome) :
      Tries query retries (retriesLeft + 1) (steps ++ (⟨.setTimeout (retries * 1000), ()⟩, effect) :: later) outcome

variable {client : SDKClient} {recipient data : String} {gas : Nat} {sender : String} {requestDetails : RequestDetails}
  {steps : List Step}

private theorem attempt_of_ran {result : Except Thrown ContractFunctionResult}
    (ran : RanNoted (client.submitContractCallQuery recipient data gas sender requestDetails).run steps result)
    (fair : ∀ step ∈ steps, step.Fair client.operatorAccountId) :
    Attempt (client.submitContractCallQuery recipient data gas sender requestDetails) steps result := by
  have spent : ∀ {change attempt offer}, Tariff client.operatorAccountId change attempt offer →
      0 ≤ attempt + total change steps :=
    fun tariff => tariff.affords_submitContractCallQuery recipient data gas sender requestDetails steps result ran fair
  have asked := spent (tariff_asked client.operatorAccountId)
  have executed := spent (tariff_executed client.operatorAccountId)
  have charged := spent (tariff_chargeCount client.operatorAccountId)
  have paid := spent (tariff_paid client.operatorAccountId)
  have undelayed := spent (tariff_waits client.operatorAccountId)
  rw [total_neg] at asked executed charged undelayed
  rw [total_sub] at paid
  constructor
  · exact ran
  all_goals omega

/-- The loop, unrolled: a try that timed out, its delay, and the tries after it. -/
theorem tries_of_ran {retries retriesLeft : Nat} {outcome : Except Thrown (Option ContractFunctionResult)}
    (ran : RanNoted (client.submitContractCallQueryWithRetry recipient data gas sender requestDetails retries
      retriesLeft).run steps outcome)
    (fair : ∀ step ∈ steps, step.Fair client.operatorAccountId) :
    Tries (client.submitContractCallQuery recipient data gas sender requestDetails) retries retriesLeft steps
      outcome := by
  induction retriesLeft generalizing retries steps with
  | zero =>
    obtain ⟨rfl, rfl⟩ := ranNoted_done_iff.mp ran
    exact .exhausted retries
  | succ retriesLeft ih =>
    rw [SDKClient.submitContractCallQueryWithRetry] at ran
    obtain ⟨tried, later, result, rfl, tryRan, followed⟩ := ranNoted_lift_bind_iff.mp ran
    obtain ⟨tryFair, laterFair⟩ := List.forall_mem_append.mp fair
    have attempt := attempt_of_ran tryRan tryFair
    cases result with
    | ok resp =>
      obtain ⟨rfl, rfl⟩ := ranNoted_done_iff.mp followed
      rw [List.append_nil]
      exact .last attempt (by simp)
    | error e =>
      dsimp only at followed
      split at followed
      next timedOut =>
        obtain ⟨answer, effect, others, rfl, rest⟩ := ranNoted_call_iff.mp followed
        obtain ⟨waitFair, restFair⟩ := List.forall_mem_cons.mp laterFair
        exact .again attempt timedOut (waitFair trivial) (ih rest restFair)
      next =>
        cases e <;>
          (obtain ⟨rfl, rfl⟩ := ranNoted_done_iff.mp followed
           rw [List.append_nil]
           exact .last attempt (by simp))

variable {query : Throwing ContractFunctionResult} {retries retriesLeft : Nat}
  {outcome : Except Thrown (Option ContractFunctionResult)}

/-- What every try keeps to, and no delay adds to, the whole run keeps to so often. -/
theorem Tries.total_le (tries : Tries query retries retriesLeft steps outcome) (change : Step → Int) {most : Int}
    (nonneg : 0 ≤ most) (each : ∀ {steps result}, Attempt query steps result → total change steps ≤ most)
    (delays : ∀ delay answer effect, effect.charges = [] → change (⟨.setTimeout delay, answer⟩, effect) ≤ 0) :
    total change steps ≤ most * retriesLeft := by
  induction tries with
  | exhausted retries => simp
  | @last retries retriesLeft _ _ _ attempt ended =>
    have own := each attempt
    have others : 0 ≤ most * retriesLeft := mul_nonneg nonneg (Int.natCast_nonneg _)
    push_cast
    linarith
  | @again retries _ _ _ _ _ _ attempt timedOut free rest ih =>
    have own := each attempt
    have waited := delays (retries * 1000) () _ free
    rw [total_append, total_cons]
    push_cast
    linarith

theorem waits_nonneg (step : Step) : 0 ≤ step.waits := by
  unfold Step.waits
  split
  · exact Int.one_nonneg
  · exact le_rfl

theorem total_waits_nonneg (steps : List Step) : 0 ≤ total Step.waits steps :=
  List.sum_nonneg (List.forall_mem_map.mpr fun step _ => waits_nonneg step)

private theorem delay_of_waits {step : Step} (undelayed : step.waits ≤ 0) : step.delay = 0 := by
  unfold Step.waits at undelayed
  unfold Step.delay
  split at undelayed
  · exact absurd undelayed (by decide)
  · rfl

/-- Where nothing waits, no time passes. -/
theorem total_delay_of_waits (undelayed : total Step.waits steps ≤ 0) : total Step.delay steps = 0 := by
  induction steps with
  | nil => rfl
  | cons step rest ih =>
    have own := waits_nonneg step
    have others := total_waits_nonneg rest
    rw [total_cons] at undelayed
    rw [total_cons, delay_of_waits (by omega), ih (by omega), add_zero]

/-- The delays are 0, 1, 2 and so on, in seconds. -/
theorem Tries.delay_le (tries : Tries query retries retriesLeft steps outcome) :
    2 * total Step.delay steps ≤ 1000 * (retriesLeft * (2 * retries + retriesLeft - 1)) := by
  induction tries with
  | exhausted retries => simp
  | @last retries retriesLeft _ _ _ attempt ended =>
    rw [total_delay_of_waits attempt.undelayed]
    have most : (0 : Int) ≤ (retriesLeft + 1) * (2 * retries + retriesLeft) := by positivity
    push_cast
    linarith
  | again attempt timedOut free rest ih =>
    rw [total_append, total_cons, total_delay_of_waits attempt.undelayed, Step.delay]
    push_cast at ih ⊢
    linarith

/-- There is no result only after the delays of all the tries. -/
theorem Tries.waits_eq (tries : Tries query retries retriesLeft steps outcome) (absent : outcome = .ok none) :
    total Step.waits steps = retriesLeft := by
  induction tries with
  | exhausted retries => rfl
  | last attempt ended => exact absurd absent ended
  | again attempt timedOut free rest ih =>
    have own := le_antisymm attempt.undelayed (total_waits_nonneg _)
    rw [total_append, total_cons, own, ih absent, Step.waits]
    push_cast
    ring

end Tries

section Raises

/-- The offer of the query was raised so often since its cost was asked for, each time after the
network had refused the one before. -/
inductive Raised (query : Query) (baseCost : Int) : Trail Op Answer → Nat → Prop where
  | asked (history : Trail Op Answer) : Raised query baseCost (history ++ [⟨.getCost query, .ok baseCost⟩]) 0
  | refused {history : Trail Op Answer} {retry : Nat} (raised : Raised query baseCost history retry)
      (payment : QueryPayment) (execution : QueryExecution query) {e : SdkError}
      (offered : payment.queryPayment = some (increasedCost baseCost retry)) (outcome : execution.outcome = .error e)
      (insufficient : (SDKClientError.new e none none).isInsufficientTxFee) :
      Raised query baseCost (history ++ [⟨.executeQuery query payment, execution⟩]) (retry + 1)

/-- A query that is paid for is sent with its cost or with a raised one. -/
def Offered (history : Trail Op Answer) : Op → Prop
  | .executeQuery query payment => payment = SDKClient.unpaid ∨ ∃ baseCost retry, retry ≤ 3 ∧
      payment.queryPayment = some (increasedCost baseCost retry) ∧ Raised query baseCost history retry
  | _ => True

variable {history : Trail Op Answer} {query : Query}

private theorem guards_increaseCost {baseCost : Int} {retriesLeft currentRetry : Nat}
    (within : currentRetry + retriesLeft = 3)
    (payment : QueryPayment) (raised : Raised query baseCost history currentRetry) :
    (SDKClient.increaseCostAndRetryExecution query payment baseCost currentRetry retriesLeft).Guards Offered
      (fun _ _ => True) history := by
  induction retriesLeft generalizing history currentRetry payment with
  | zero => exact ⟨.inr ⟨baseCost, currentRetry, within.le, rfl, raised⟩, fun _ => trivial⟩
  | succ retriesLeft ih =>
    refine ⟨.inr ⟨baseCost, currentRetry, by omega, rfl, raised⟩, fun execution => ?_⟩
    obtain ⟨outcome, left⟩ := execution
    cases outcome with
    | ok resp => trivial
    | error e =>
      change (if _ then _ else _ : Prog Op Answer (SDKClient.Tried query)).Guards _ _ _
      split
      next insufficient => exact ih (by omega) left (raised.refused _ ⟨.error e, left⟩ rfl rfl insufficient)
      next => trivial

private theorem guards_tryQuery (payment : QueryPayment)
    (paying : payment.paymentTransactionId = none → payment = SDKClient.unpaid) :
    (SDKClient.tryQuery query payment).Guards Offered (fun _ _ => True) history := by
  rw [SDKClient.tryQuery]
  cases identified : payment.paymentTransactionId with
  | none => exact ⟨.inl (paying identified), fun _ => trivial⟩
  | some transactionId =>
    refine ⟨trivial, fun baseCost => ?_⟩
    cases baseCost with
    | ok baseCost => exact guards_increaseCost rfl payment (.asked history)
    | error e => trivial

theorem guards_executeQuery (query : Query) (payment : QueryPayment) (requestDetails : RequestDetails)
    (originalCallerAddress : Option String)
    (paying : payment.paymentTransactionId = none → payment = SDKClient.unpaid) :
    (SDKClient.executeQuery query payment requestDetails originalCallerAddress).run.Guards Offered (fun _ _ => True)
      history := by
  refine guards_lift_bind (guards_tryQuery payment paying) ?_
  intro later result _
  have emits : ∀ payment queryCost status, (SDKClient.emitQuery query payment queryCost status requestDetails
      originalCallerAddress).run.Guards Offered (fun _ _ => True) later := by
    intro payment queryCost status
    cases queryCost with
    | none => trivial
    | some cost =>
      rw [SDKClient.emitQuery]
      split
      · exact ⟨trivial, fun _ => trivial⟩
      · trivial
  obtain ⟨outcome, left⟩ := result
  cases outcome with
  | ok answered => exact guards_bindExcept (emits _ _ _) (fun _ _ _ => trivial) fun _ _ _ => trivial
  | error e => exact guards_bindExcept (emits _ _ _) (fun _ _ _ => trivial) fun _ _ _ => trivial

variable (client : SDKClient) (recipient data : String) (gas : Nat) (sender : String) (requestDetails : RequestDetails)

private theorem guards_submitContractCallQuery :
    (client.submitContractCallQuery recipient data gas sender requestDetails).run.Guards Offered (fun _ _ => True)
      history := by
  rw [SDKClient.submitContractCallQuery]
  cases client.operatorAccountId with
  | none => exact guards_executeQuery (.contractCall _ _ _ _) _ _ _ fun _ => rfl
  | some operatorAccountId =>
    refine ⟨trivial, fun transactionId => ?_⟩
    refine guards_executeQuery (.contractCall _ _ _ _) _ _ _ ?_
    intro absent
    cases absent

private theorem guards_withRetry (retries retriesLeft : Nat) :
    (client.submitContractCallQueryWithRetry recipient data gas sender requestDetails retries retriesLeft).run.Guards
      Offered (fun _ _ => True) history := by
  induction retriesLeft generalizing history retries with
  | zero => trivial
  | succ retriesLeft ih =>
    rw [SDKClient.submitContractCallQueryWithRetry]
    refine guards_lift_bind (guards_submitContractCallQuery client recipient data gas sender requestDetails) ?_
    intro later result _
    cases result with
    | ok resp => trivial
    | error e =>
      dsimp only
      split
      · exact ⟨trivial, fun _ => ih (retries + 1)⟩
      · cases e <;> trivial

end Raises

/-- A contract call with its tries: each asks for the cost once, sends the query four times at most,
each time but the first for more than the network refused before, and is charged once at most; one
after the other is sent later and later, and there is no result only where none is left. -/
structure ContractCallCosts (client : SDKClient) (query : Throwing ContractFunctionResult) (steps : List Step)
    (outcome : Except Thrown (Option ContractFunctionResult)) : Prop where
  tries : Tries query 0 client.contractQueryTimeoutRetries steps outcome
  offered : ∀ before op answer effect after, steps = before ++ (⟨op, answer⟩, effect) :: after →
    Offered (before.map Prod.fst) op
  asked : total Step.asked steps ≤ client.contractQueryTimeoutRetries
  paid : total Step.paid steps ≤ total Step.allowance steps
  delayed : 2 * total Step.delay steps ≤
    1000 * (client.contractQueryTimeoutRetries * (client.contractQueryTimeoutRetries - 1))
  exhausted : outcome = .ok none → total Step.waits steps = client.contractQueryTimeoutRetries

/-- Whatever the network answers, as long as it charges for a query no more than what is set on it. -/
theorem contractCallCosts_ran (client : SDKClient) (recipient data : String) (gas : Nat) (sender : String)
    (requestDetails : RequestDetails) {steps : List Step} {outcome : Except Thrown (Option ContractFunctionResult)}
    (ran : RanNoted (client.submitContractCallQueryWithRetry recipient data gas sender requestDetails 0
      client.contractQueryTimeoutRetries).run steps outcome)
    (fair : ∀ step ∈ steps, step.Fair client.operatorAccountId) :
    ContractCallCosts client (client.submitContractCallQuery recipient data gas sender requestDetails) steps
      outcome := by
  have tries := tries_of_ran ran fair
  constructor
  · exact tries
  · intro before op answer effect after split
    have guards : (client.submitContractCallQueryWithRetry recipient data gas sender requestDetails 0
        client.contractQueryTimeoutRetries).run.Guards Offered (fun _ _ => True) [] :=
      guards_withRetry client recipient data gas sender requestDetails 0 client.contractQueryTimeoutRetries
    refine (guards.ran ran).1 (before.map Prod.fst) op answer (after.map Prod.fst) ?_
    rw [split, List.map_append, List.map_cons]
  · have once := tries.total_le Step.asked Int.one_nonneg Attempt.asked fun _ _ _ _ => le_rfl
    rwa [one_mul] at once
  · have each : ∀ {steps result}, Attempt (client.submitContractCallQuery recipient data gas sender requestDetails)
        steps result → total (fun step : Step => step.paid - step.allowance) steps ≤ 0 := by
      intro steps result attempt
      rw [total_sub]
      exact sub_nonpos.mpr attempt.paid
    have within := tries.total_le (fun step => step.paid - step.allowance) le_rfl each fun _ _ _ free => by
      simp [Step.allowance, paid_of_nil free]
    rw [zero_mul, total_sub] at within
    exact sub_nonpos.mp within
  · have delays := tries.delay_le
    rwa [Nat.cast_zero, mul_zero, zero_add] at delays
  · exact tries.waits_eq

def costClient : SDKClient where
  operatorAccountId := some "0.0.2"
  maxChunks := 20
  fileAppendChunkSize := 5120
  jumboTxEnabled := true
  contractQueryTimeoutRetries := 2
  maxTransactionFeeThreshold := 15000000
  fromBytes := fun _ => .error (.other "")

def costRequest : RequestDetails := { requestId := "1", ipAddress := "127.0.0.1" }

def costQuery : Query := .contractCall (SDKClient.contractIdOf "5") 100000 none none

def costPayment (retry : Nat) : QueryPayment where
  paymentTransactionId := some "0.0.2@1.1"
  queryPayment := some (increasedCost 100 retry)

/-- The cost has risen since it was asked for, so that the first offer is too low; the second one is
not used up. -/
def raisedSteps : List Step :=
  [(⟨.generate "0.0.2", "0.0.2@1.1"⟩, { charges := [], created := none }),
    (⟨.getCost costQuery, .ok 100⟩, { charges := [], created := none }),
    (⟨.executeQuery costQuery (costPayment 0), {
      outcome := .error { status := some .insufficientTxFee, message := "INSUFFICIENT_TX_FEE" }
      payment := costPayment 0 }⟩, { charges := [], created := none }),
    (⟨.executeQuery costQuery (costPayment 1), {
      outcome := .ok { bytes := [1] }
      payment := costPayment 1 }⟩, {
      charges := [{ executionMode := .QUERY, transactionId := "0.0.2@1.1", cost := 105 }]
      created := none }),
    (⟨.emit (.executeQuery {
      executionMode := .QUERY
      transactionId := some "0.0.2@1.1"
      txConstructorName := "ContractCallQuery"
      cost := increasedCost 100 1
      gasUsed := 0
      status := "SUCCESS"
      requestDetails := costRequest
      originalCallerAddress := some "" }), ()⟩, { charges := [], created := none })]

theorem increasedCost_hundred : increasedCost 100 1 = 110 := by
  decide +kernel

private theorem raisedSteps_ran :
    RanNoted (costClient.submitContractCallQueryWithRetry "0x5" "" 100000 "" costRequest 0 2).run raisedSteps
      (.ok (some { bytes := [1] })) := by
  have nonZero : increasedCost 100 1 ≠ 0 := by
    rw [increasedCost_hundred]
    decide
  have emitting : Ran (SDKClient.emitQuery costQuery (costPayment 1) (some (increasedCost 100 1)) "SUCCESS" costRequest
      (some "")).run ((raisedSteps.drop 4).map Prod.fst) (.ok ()) := by
    rw [SDKClient.emitQuery, if_pos nonZero]
    exact .call .done
  have reporting : Ran (SDKClient.reported costQuery costRequest (some "")
      (.ok ({ bytes := [1] }, some (increasedCost 100 1)), costPayment 1)).run ((raisedSteps.drop 4).map Prod.fst)
      (.ok { bytes := [1] }) :=
    ran_bindExcept_iff.mpr (.inl ⟨_, [], (), (List.append_nil _).symm, emitting, .done⟩)
  have trying : Ran (costClient.submitContractCallQuery "0x5" "" 100000 "" costRequest).run
      (raisedSteps.map Prod.fst) (.ok { bytes := [1] }) :=
    .call (.call (.call (.call reporting)))
  exact ran_lift_bind_iff.mpr ⟨_, [], _, (List.append_nil _).symm, trying, .done⟩

private theorem fair_raisedSteps : ∀ step ∈ raisedSteps, step.Fair costClient.operatorAccountId := by
  have refused : Step.Fair costClient.operatorAccountId (⟨.executeQuery costQuery (costPayment 0), {
      outcome := .error { status := some .insufficientTxFee, message := "INSUFFICIENT_TX_FEE" }
      payment := costPayment 0 }⟩, { charges := [], created := none }) :=
    ⟨Nat.zero_le 1, List.forall_mem_nil _, fun _ _ _ => rfl, fun _ => rfl⟩
  have taken : Step.Fair costClient.operatorAccountId (⟨.executeQuery costQuery (costPayment 1), {
      outcome := .ok { bytes := [1] }, payment := costPayment 1 }⟩, {
      charges := [{ executionMode := .QUERY, transactionId := "0.0.2@1.1", cost := 105 }]
      created := none }) := by
    refine ⟨Nat.le_refl 1, List.forall_mem_singleton.mpr ?_, ?_, ?_⟩
    · intro cost offered
      have most : cost = increasedCost 100 1 := (Option.some.inj offered).symm
      rw [most, increasedCost_hundred]
      decide
    · intro e outcome
      cases outcome
    · intro nobody
      cases nobody
  rw [raisedSteps]
  simp only [List.forall_mem_cons]
  exact ⟨fun _ => rfl, fun _ => rfl, refused, taken, fun _ => rfl, List.forall_mem_nil _⟩

theorem contractCallCosts_raised : ContractCallCosts costClient
    (costClient.submitContractCallQuery "0x5" "" 100000 "" costRequest) raisedSteps (.ok (some { bytes := [1] })) :=
  contractCallCosts_ran costClient "0x5" "" 100000 "" costRequest raisedSteps_ran fair_raisedSteps

end HieroRelay.Hapi
