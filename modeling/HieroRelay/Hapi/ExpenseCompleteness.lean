import HieroRelay.Hapi.ExpenseReports
import HieroRelay.Lib.Uniq

/-! Every charge leads to one call of `addExpense` exactly if no call that threw was
charged, no expense was refused before the one of its record, and the records show the
charges as debits of the operator. -/

namespace HieroRelay.Hapi

open HieroRelay.Lib
open HieroRelay.Relay (RequestDetails)

/-- `addExpense` threw for the fee of a transaction. -/
def Step.refused : Step → Bool
  | (⟨.addExpense expense, answer⟩, _) =>
      expense.executionMode = .TRANSACTION && !(answer : Except Thrown Unit).isOk
  | _ => false

/-- An expense of the fee of a transaction was refused. -/
def Refused (steps : List Step) : Prop := ∃ step ∈ steps, step.refused = true

instance (steps : List Step) : Decidable (Refused steps) :=
  inferInstanceAs (Decidable (∃ step ∈ steps, step.refused = true))

def Uncharged (steps : List Step) : Prop := ∀ step ∈ steps, step.charges = []

/-- No record is read. -/
def Unread (steps : List Step) : Prop := ∀ step ∈ steps, ∀ transactionId transfers, ¬ step.Reads transactionId transfers

theorem refused_append {first second : List Step} : Refused (first ++ second) ↔ Refused first ∨ Refused second := by
  simp only [Refused, List.mem_append, or_and_right, exists_or]

private theorem uncharged_append {first second : List Step} :
    Uncharged (first ++ second) ↔ Uncharged first ∧ Uncharged second := List.forall_mem_append

private theorem unread_append {first second : List Step} : Unread (first ++ second) ↔ Unread first ∧ Unread second :=
  List.forall_mem_append

theorem not_refused_nil : ¬ Refused [] := fun ⟨_, member, _⟩ => absurd member List.not_mem_nil

/-- The call of `addExpense` for a payload. -/
def expenseFor (payload : IExecuteQueryEventPayload) : Expense where
  cost := payload.cost
  evmAddress := payload.originalCallerAddress.getD ""
  requestDetails := payload.requestDetails
  executionMode := payload.executionMode
  transactionId := payload.transactionId

section Listeners
variable {operatorAccountId : Option String} {steps : List Step}

/-- The run of one `addExpense`. -/
structure Added (payload : IExecuteQueryEventPayload) (steps : List Step) (outcome : Except Thrown Unit) : Prop where
  expenses : expenses steps = [expenseFor payload]
  free : Uncharged steps
  unread : Unread steps
  refused : Refused steps ↔ payload.executionMode = .TRANSACTION ∧ outcome ≠ .ok ()

theorem added_run {payload : IExecuteQueryEventPayload} {outcome : Except Thrown Unit}
    (ran : RanNoted (MetricService.addExpenseAndCaptureMetrics payload).run steps outcome)
    (lawful : ∀ step ∈ steps, step.Lawful operatorAccountId) : Added payload steps outcome := by
  obtain ⟨answer, effect, others, rfl, following⟩ := ranNoted_ask_bind_iff.mp ran
  obtain ⟨first, later⟩ := List.forall_mem_cons.mp lawful
  cases answer with
  | error error =>
      obtain ⟨rfl, rfl⟩ := ranNoted_done_iff.mp following
      refine ⟨rfl, List.forall_mem_singleton.mpr first.charged, List.forall_mem_singleton.mpr fun _ _ => id, ?_⟩
      simp [Refused, Step.refused, Except.isOk, Except.toBool]
  | ok _ =>
      obtain ⟨_, observed, others, rfl, ended⟩ := ranNoted_call_iff.mp following
      obtain ⟨rfl, rfl⟩ := ranNoted_done_iff.mp ended
      refine ⟨rfl, List.forall_mem_cons.mpr ⟨first.charged, List.forall_mem_singleton.mpr
        (later _ List.mem_cons_self).charged⟩, List.forall_mem_cons.mpr ⟨fun _ _ => id,
        List.forall_mem_singleton.mpr fun _ _ => id⟩, ?_⟩
      simp [Refused, Step.refused, Except.isOk, Except.toBool]

/-- What a listener learns of a transaction. -/
structure Learned (transactionId : TransactionId) (accountId : String) (steps : List Step)
    (metrics : ITransactionRecordMetric) : Prop where
  read : ∃ transfers, ∃ step ∈ steps, step.Reads transactionId transfers
  reads : ∀ step ∈ steps, ∀ asked transfers, step.Reads asked transfers →
    asked = transactionId ∧ metrics.transactionFee = getTransferAmountSumForAccount transfers accountId
  expenses : expenses steps = []
  accepted : ¬ Refused steps
  charged : ∀ step ∈ steps, ∀ charge ∈ step.charges, charge.executionMode = .RECORD ∧
    charge.transactionId = transactionId ∧ charge.cost = metrics.txRecordChargeAmount

theorem learned_run {transactionId : TransactionId} {accountId : String} {requestDetails : RequestDetails}
    {defaultToConsensusNode : Bool}
    {outcome : Except Thrown (Option ITransactionRecordMetric)}
    (ran : RanNoted (MetricService.getTransactionRecordMetrics defaultToConsensusNode transactionId accountId
      requestDetails).run steps outcome)
    (lawful : ∀ step ∈ steps, step.Lawful operatorAccountId)
    (retrieved : ∀ step ∈ steps, step.Retrieves) :
    ∃ metrics, outcome = .ok (some metrics) ∧ Learned transactionId accountId steps metrics := by
  rw [MetricService.getTransactionRecordMetrics, ExceptT.run_bind_lift, ranNoted_bind_iff] at ran
  obtain ⟨asked, ended, metrics, rfl, asking, ending⟩ := ran
  cases defaultToConsensusNode with
  | true =>
      obtain ⟨answer, effect, others, rfl, following⟩ := ranNoted_ask_bind_iff.mp asking
      obtain ⟨transfers, shown⟩ := retrieved _ List.mem_cons_self
      obtain ⟨-, transactionRecord, exchangeRate, rfl, rate, -⟩ := shown
      change RanNoted (transactionRecord.metrics accountId).run others metrics at following
      rw [TransactionRecord.metrics, rate] at following
      obtain ⟨rfl, rfl⟩ := ranNoted_done_iff.mp following
      obtain ⟨rfl, rfl⟩ := ranNoted_done_iff.mp ending
      refine ⟨_, rfl, ⟨_, _, List.mem_cons_self, rfl, transactionRecord, exchangeRate, rfl, rate, rfl⟩,
        List.forall_mem_singleton.mpr ?_, rfl, ?_, List.forall_mem_singleton.mpr ?_⟩
      · intro asked transfers read
        obtain ⟨rfl, _, _, same, -, rfl⟩ := read
        cases same
        exact ⟨rfl, rfl⟩
      · simp [Refused, Step.refused]
      intro charge charged
      obtain ⟨mode, identifier, listed⟩ := (lawful _ List.mem_cons_self).charged.2 charge charged
      exact ⟨mode, identifier, listed transactionRecord exchangeRate rfl rate⟩
  | false =>
      obtain ⟨answer, effect, others, rfl, following⟩ := ranNoted_ask_bind_iff.mp asking
      obtain ⟨transfers, shown⟩ := retrieved _ List.mem_cons_self
      obtain ⟨-, records, record, rfl, found, -⟩ := shown
      change RanNoted (mirrorMetrics transactionId accountId (some records)).run others metrics at following
      rw [mirrorMetrics, found] at following
      obtain ⟨rfl, rfl⟩ := ranNoted_done_iff.mp following
      obtain ⟨rfl, rfl⟩ := ranNoted_done_iff.mp ending
      refine ⟨_, rfl, ⟨_, _, List.mem_cons_self, rfl, records, record, rfl, found, rfl⟩,
        List.forall_mem_singleton.mpr ?_, rfl, ?_, List.forall_mem_singleton.mpr ?_⟩
      · intro asked transfers read
        obtain ⟨rfl, _, _, same, sameRecord, rfl⟩ := read
        cases same
        cases found.symm.trans sameRecord
        exact ⟨rfl, rfl⟩
      · simp [Refused, Step.refused]
      intro charge charged
      rw [Step.charges, show effect.charges = [] from (lawful _ List.mem_cons_self).charged] at charged
      exact absurd charged List.not_mem_nil

theorem addedNonZero_run {payload : IExecuteQueryEventPayload} {outcome : Except Thrown Unit}
    (ran : RanNoted (MetricService.addNonZero payload).run steps outcome)
    (lawful : ∀ step ∈ steps, step.Lawful operatorAccountId) :
    (payload.cost = 0 ∧ steps = [] ∧ outcome = .ok ()) ∨ (payload.cost ≠ 0 ∧ Added payload steps outcome) := by
  rw [MetricService.addNonZero] at ran
  by_cases zero : payload.cost = 0
  · rw [if_neg (not_not_intro zero)] at ran
    obtain ⟨rfl, rfl⟩ := ranNoted_done_iff.mp ran
    exact .inl ⟨zero, rfl, rfl⟩
  · rw [if_pos zero] at ran
    exact .inr ⟨zero, added_run ran lawful⟩

/-- The fee of a transaction is added first, and then the one of its record, unless the
first call threw. -/
theorem adding_run {fee record : IExecuteQueryEventPayload} {outcome : Except Thrown Unit}
    (ofFee : fee.executionMode = .TRANSACTION) (ofRecord : record.executionMode = .RECORD)
    (ran : RanNoted (MetricService.addNonZero fee >>= fun _ => MetricService.addNonZero record).run steps outcome)
    (lawful : ∀ step ∈ steps, step.Lawful operatorAccountId) :
    expenses steps = (if fee.cost = 0 then [] else [expenseFor fee]) ++
        (if record.cost = 0 ∨ Refused steps then [] else [expenseFor record]) ∧ Uncharged steps ∧ Unread steps := by
  rcases ranNoted_bindExcept_iff.mp ran with ⟨first, second, _, rfl, firstRan, secondRan⟩ | ⟨error, _, firstRan⟩
  · obtain ⟨lawfulFirst, lawfulSecond⟩ := List.forall_mem_append.mp lawful
    have before : expenses first = (if fee.cost = 0 then [] else [expenseFor fee]) ∧
        Uncharged first ∧ Unread first ∧ ¬ Refused first := by
      rcases addedNonZero_run firstRan lawfulFirst with ⟨zero, rfl, _⟩ | ⟨nonZero, added⟩
      · rw [if_pos zero]
        exact ⟨rfl, List.forall_mem_nil _, List.forall_mem_nil _, not_refused_nil⟩
      · rw [if_neg nonZero]
        exact ⟨added.expenses, added.free, added.unread, fun refused => (added.refused.mp refused).2 rfl⟩
    have after : expenses second = (if record.cost = 0 then [] else [expenseFor record]) ∧
        Uncharged second ∧ Unread second ∧ ¬ Refused second := by
      rcases addedNonZero_run secondRan lawfulSecond with ⟨zero, rfl, _⟩ | ⟨nonZero, added⟩
      · rw [if_pos zero]
        exact ⟨rfl, List.forall_mem_nil _, List.forall_mem_nil _, not_refused_nil⟩
      · rw [if_neg nonZero]
        refine ⟨added.expenses, added.free, added.unread, fun refused => ?_⟩
        have other := (added.refused.mp refused).1
        rw [ofRecord] at other
        cases other
    have accepted : ¬ Refused (first ++ second) := fun refused =>
      (refused_append.mp refused).elim before.2.2.2 after.2.2.2
    refine ⟨?_, uncharged_append.mpr ⟨before.2.1, after.2.1⟩, unread_append.mpr ⟨before.2.2.1, after.2.2.1⟩⟩
    rw [expenses_append, before.1, after.1]
    simp only [accepted, or_false]
  · rcases addedNonZero_run firstRan lawful with ⟨_, _, same⟩ | ⟨nonZero, added⟩
    · cases same
    · have refused : Refused steps := added.refused.mpr ⟨ofFee, nofun⟩
      rw [if_neg nonZero, if_pos (.inr refused), added.expenses]
      exact ⟨rfl, added.free, added.unread⟩

/-- The costs that a listener adds for an execution mode. -/
def costsOf (executionMode : ExecutionMode) (steps : List Step) : List Int :=
  ((expenses steps).filter fun expense => expense.executionMode = executionMode).map Expense.cost

private theorem costs_added {fee record : IExecuteQueryEventPayload} (ofFee : fee.executionMode = .TRANSACTION)
    (ofRecord : record.executionMode = .RECORD) (noFee noRecord : Prop) [Decidable noFee] [Decidable noRecord]
    (added : expenses steps = (if noFee then [] else [expenseFor fee]) ++ (if noRecord then [] else [expenseFor record])) :
    costsOf .TRANSACTION steps = (if noFee then [] else [fee.cost]) ∧
      costsOf .RECORD steps = if noRecord then [] else [record.cost] := by
  simp only [costsOf, added]
  by_cases first : noFee <;> by_cases second : noRecord <;> simp [first, second, expenseFor, ofFee, ofRecord]

/-- What the listener of a transaction reads and adds, and what it is charged. -/
structure Captured (transactionId : TransactionId) (accountId : String) (fee recordAmount : Int) (steps : List Step) :
    Prop where
  read : ∃ transfers, ∃ step ∈ steps, step.Reads transactionId transfers
  reads : ∀ step ∈ steps, ∀ asked transfers, step.Reads asked transfers →
    asked = transactionId ∧ fee = getTransferAmountSumForAccount transfers accountId
  own : ∀ expense ∈ expenses steps, expense.transactionId = some transactionId
  fee : costsOf .TRANSACTION steps = if fee = 0 then [] else [fee]
  record : costsOf .RECORD steps =
    if recordAmount = 0 ∨ Refused steps then [] else [recordAmount]
  charged : ∀ step ∈ steps, ∀ charge ∈ step.charges, charge.executionMode = .RECORD ∧
    charge.transactionId = transactionId ∧ charge.cost = recordAmount

theorem captured_run {defaultToConsensusNode : Bool} {payload : IExecuteTransactionEventPayload}
    {outcome : Except Thrown Unit}
    (ran : RanNoted (MetricService.captureTransactionMetrics defaultToConsensusNode payload).run steps outcome)
    (lawful : ∀ step ∈ steps, step.Lawful operatorAccountId)
    (retrieved : ∀ step ∈ steps, step.Retrieves) :
    ∃ fee recordAmount, Captured payload.transactionId payload.operatorAccountId fee recordAmount steps := by
  have noError : ∀ (steps : List Step) error, (∀ step ∈ steps, step.Lawful operatorAccountId) →
      (∀ step ∈ steps, step.Retrieves) → ¬ RanNoted (MetricService.getTransactionRecordMetrics
        defaultToConsensusNode payload.transactionId payload.operatorAccountId payload.requestDetails).run steps
        (.error error) := by
    intro steps error kept found asking
    obtain ⟨_, same, _⟩ := learned_run asking kept found
    cases same
  rcases ranNoted_bindExcept_iff.mp ran with ⟨asked, others, metrics, rfl, asking, adding⟩ | ⟨error, _, asking⟩
  case inr => exact absurd asking (noError steps error lawful retrieved)
  obtain ⟨lawfulAsked, lawfulRest⟩ := List.forall_mem_append.mp lawful
  obtain ⟨⟨transactionFee, txRecordChargeAmount, gasUsed, status⟩, same, learned⟩ :=
    learned_run asking lawfulAsked (List.forall_mem_append.mp retrieved).1
  cases same
  refine ⟨transactionFee, txRecordChargeAmount, ?_⟩
  change RanNoted (MetricService.addNonZero (MetricService.expenseOf payload .TRANSACTION transactionFee gasUsed status)
    >>= fun _ => MetricService.addNonZero (MetricService.expenseOf payload .RECORD txRecordChargeAmount 0 status)).run
    others outcome at adding
  obtain ⟨added, uncharged, unread⟩ := adding_run rfl rfl adding lawfulRest
  have refused : Refused (asked ++ others) ↔ Refused others := by
    rw [refused_append]
    exact or_iff_right learned.accepted
  have all : expenses (asked ++ others) = expenses others := by rw [expenses_append, learned.expenses, List.nil_append]
  have costs := costs_added rfl rfl _ _ added
  constructor
  · obtain ⟨transfers, step, member, read⟩ := learned.read
    exact ⟨transfers, step, List.mem_append_left _ member, read⟩
  · refine List.forall_mem_append.mpr ⟨learned.reads, ?_⟩
    intro step member asked transfers read
    exact absurd read (unread step member asked transfers)
  · rw [all, added]
    intro expense member
    rcases List.mem_append.mp member with ofFee | ofRecord
    · rw [List.mem_singleton.mp (List.mem_ite_nil_left.mp ofFee).2]
      rfl
    · rw [List.mem_singleton.mp (List.mem_ite_nil_left.mp ofRecord).2]
      rfl
  · rw [costsOf, all]
    exact costs.1
  · simp only [costsOf, all, refused]
    exact costs.2
  · refine List.forall_mem_append.mpr ⟨learned.charged, ?_⟩
    intro step member charge charged
    rw [uncharged step member] at charged
    exact absurd charged List.not_mem_nil

end Listeners

private theorem foldl_sub_amount (transfers : List Transfer) (acc : Int) :
    transfers.foldl (fun acc transfer => acc - transfer.amount) acc = acc - (transfers.map Transfer.amount).sum := by
  induction transfers generalizing acc with
  | nil => simp
  | cons transfer rest ih =>
    rw [List.foldl_cons, ih, List.map_cons, List.sum_cons]
    omega

/-- The sum is the one of the debits. -/
theorem getTransferAmountSum_eq (transfers : List Transfer) (accountId : String) :
    getTransferAmountSumForAccount transfers accountId =
      -((transfers.filter fun transfer => transfer.accountId = accountId ∧ transfer.amount < 0).map
        Transfer.amount).sum := by
  rw [getTransferAmountSumForAccount, foldl_sub_amount]
  omega

theorem Event.Covers.transactionId {event : Event} {charge : Charge} (covers : event.Covers charge) :
    event.transactionId = some charge.transactionId := by
  cases event with
  | executeTransaction payload => exact congrArg some covers.2.symm
  | executeQuery payload => exact covers.2.1

namespace History

variable {client : SDKClient} {defaultToConsensusNode : Bool} {history : History client defaultToConsensusNode}

/-- Every event of the history with the run of its listener. -/
def listened (history : History client defaultToConsensusNode) : List (Event × List Step) :=
  history.flatMap fun run => (events run.steps).zip run.listeners

/-- No charged call threw, where a record was charged no expense was refused before, and the
records that were read show the charges. -/
structure Lossless (history : History client defaultToConsensusNode) : Prop where
  returned : lostCharges history.steps = []
  accepted : ∀ run ∈ history, ∀ steps ∈ run.listeners, steps.flatMap Step.charges ≠ [] → ¬ Refused steps
  shown : ∀ step ∈ history.listenerSteps, ∀ transactionId transfers, step.Reads transactionId transfers →
    history.Shows transactionId transfers

theorem events_steps : (listened history).map Prod.fst = events history.steps := by
  induction history with
  | nil => rfl
  | cons run rest ih =>
      have aligned := run.listened.length_eq
      simp only [listened, steps, List.flatMap_cons, List.map_append, events_append] at ih ⊢
      rw [List.map_fst_zip aligned.le, ih]

theorem listenerSteps_eq : history.listenerSteps = (listened history).flatMap Prod.snd := by
  induction history with
  | nil => rfl
  | cons run rest ih =>
      have aligned := run.listened.length_eq
      have first : ((events run.steps).zip run.listeners).flatMap Prod.snd = run.listeners.flatten := by
        rw [List.flatMap_def, List.map_snd_zip aligned.ge]
      simp only [listened, listenerSteps, List.flatMap_cons, List.flatMap_append] at ih ⊢
      rw [ih, first]

/-- Each listener ran for its event. -/
theorem ran_of_mem_listened {event : Event} {steps : List Step} (member : (event, steps) ∈ listened history) :
    ∃ outcome, RanNoted (MetricService.listener defaultToConsensusNode event).run steps outcome := by
  obtain ⟨run, _, zipped⟩ := List.mem_flatMap.mp member
  exact List.forall₂_iff_zip.mp run.listened |>.2 zipped

theorem mem_listenerSteps {event : Event} {steps : List Step} (member : (event, steps) ∈ listened history)
    {step : Step} (present : step ∈ steps) : step ∈ history.listenerSteps := by
  rw [listenerSteps_eq]
  exact List.mem_flatMap.mpr ⟨_, member, present⟩

/-- The account of the whole history. -/
theorem accounted (lawful : history.Lawful) : Accounted client.operatorAccountId [] history.steps := by
  have each : ∀ run ∈ history, Accounted client.operatorAccountId [] run.steps := by
    intro run member
    apply accounts_program client run.operation run.steps () run.ran
    intro step present
    exact lawful.step step (List.mem_append_left _ (List.mem_flatMap.mpr ⟨run, member, present⟩))
  clear lawful
  induction history with
  | nil => exact accounted_nil _
  | cons run rest ih =>
      obtain ⟨first, later⟩ := List.forall_mem_cons.mp each
      exact first.append (ih later)

/-- No identifier belongs to two events, or to an event and a lost charge. -/
theorem count_eventIds_le (lawful : history.Lawful) (id : TransactionId) :
    (eventIds history.steps).count id + (lostIds history.steps).count id ≤ 1 := by
  have within := (accounted lawful).ids id
  have once := List.nodup_iff_count_le_one.mp lawful.fresh id
  rw [List.count_nil, Nat.zero_add] at within
  exact within.trans once

/-- The costs that a listener adds for a charge. -/
def costsFor (charge : Charge) (steps : List Step) : List Int :=
  ((Hapi.expenses steps).filter fun expense =>
    expense.executionMode = charge.executionMode ∧ expense.transactionId = some charge.transactionId).map Expense.cost

theorem costsAdded_eq (charge : Charge) :
    history.costsAdded charge = (listened history).flatMap fun heard => costsFor charge heard.2 := by
  rw [costsAdded, expenses, listenerSteps_eq, Hapi.expenses, List.filterMap_flatMap, List.filter_flatMap,
    List.map_flatMap]
  rfl

/-- A listener adds expenses for the identifier of its event only. -/
theorem own_of_listened (lawful : history.Lawful) (retrieved : history.Retrieved) {event : Event} {steps : List Step}
    (member : (event, steps) ∈ listened history) :
    ∀ expense ∈ Hapi.expenses steps, expense.transactionId = event.transactionId := by
  obtain ⟨outcome, ran⟩ := ran_of_mem_listened member
  have kept : ∀ step ∈ steps, step.Lawful client.operatorAccountId := fun step present =>
    lawful.step step (List.mem_append_right _ (mem_listenerSteps member present))
  cases event with
  | executeTransaction payload =>
      obtain ⟨_, _, captured⟩ := captured_run ran kept fun step present =>
        retrieved step (mem_listenerSteps member present)
      exact captured.own
  | executeQuery payload =>
      rw [(added_run ran kept).expenses]
      exact List.forall_mem_singleton.mpr rfl

private theorem costsFor_eq {charge : Charge} {steps : List Step}
    (own : ∀ expense ∈ Hapi.expenses steps, expense.transactionId = some charge.transactionId) :
    costsFor charge steps = costsOf charge.executionMode steps := by
  rw [costsFor, costsOf]
  congr 1
  apply List.filter_congr
  intro expense member
  simp [own expense member]

theorem costsFor_other {charge : Charge} {steps : List Step} {identifier : Option TransactionId}
    (own : ∀ expense ∈ Hapi.expenses steps, expense.transactionId = identifier)
    (other : identifier ≠ some charge.transactionId) : costsFor charge steps = [] := by
  rw [costsFor, List.map_eq_nil_iff, List.filter_eq_nil_iff]
  intro expense member
  simp [own expense member, other]

theorem eventIds_steps : (listened history).filterMap (fun heard => heard.1.transactionId) = eventIds history.steps := by
  rw [eventIds, ← events_steps, List.filterMap_map]
  rfl

/-- The costs of a charge are those that the listener of its event adds. -/
theorem costsAdded_of_listened (lawful : history.Lawful) (retrieved : history.Retrieved) {event : Event}
    {steps : List Step} {charge : Charge} (member : (event, steps) ∈ listened history)
    (identifier : event.transactionId = some charge.transactionId) :
    history.costsAdded charge = costsOf charge.executionMode steps := by
  have once : ((listened history).filterMap fun heard => heard.1.transactionId).count charge.transactionId ≤ 1 := by
    have within := count_eventIds_le lawful charge.transactionId
    rw [eventIds_steps]
    omega
  rw [costsAdded_eq, flatMap_eq_of_key (fun heard => heard.1.transactionId) member identifier once]
  · apply costsFor_eq
    intro expense present
    rw [own_of_listened lawful retrieved member expense present, identifier]
  · rintro ⟨other, heard⟩ present apart
    exact costsFor_other (own_of_listened lawful retrieved present) apart

/-- A lost charge is added nowhere. -/
theorem costsAdded_lost (lawful : history.Lawful) (retrieved : history.Retrieved) {charge : Charge}
    (lost : charge ∈ lostCharges history.steps) : history.costsAdded charge = [] := by
  have within := count_eventIds_le lawful charge.transactionId
  have listed : 0 < (lostIds history.steps).count charge.transactionId :=
    List.count_pos_iff.mpr (List.mem_map_of_mem lost)
  rw [costsAdded_eq, List.flatMap_eq_nil_iff]
  rintro ⟨event, steps⟩ member
  apply costsFor_other (own_of_listened lawful retrieved member)
  intro same
  have emitted : charge.transactionId ∈ eventIds history.steps := by
    rw [← eventIds_steps]
    exact List.mem_filterMap.mpr ⟨_, member, same⟩
  have count := List.count_pos_iff.mpr emitted
  omega

theorem sent_of_listened (lawful : history.Lawful) {event : Event} {steps : List Step}
    (member : (event, steps) ∈ listened history) : event.SentBy client.operatorAccountId := by
  apply (accounted lawful).sent
  rw [← events_steps]
  exact List.mem_map_of_mem member

/-- The fee that the listener of a charged transaction adds. -/
theorem costsOf_transaction (lawful : history.Lawful) (retrieved : history.Retrieved)
    (shown : ∀ step ∈ history.listenerSteps, ∀ transactionId transfers, step.Reads transactionId transfers →
      history.Shows transactionId transfers)
    {payload : IExecuteTransactionEventPayload} {steps : List Step} {charge : Charge}
    (member : (.executeTransaction payload, steps) ∈ listened history) (charged : charge ∈ history.charges)
    (positive : 0 < charge.cost) (covers : (Event.executeTransaction payload).Covers charge) :
    costsOf charge.executionMode steps = [charge.cost] := by
  obtain ⟨outcome, ran⟩ := ran_of_mem_listened member
  obtain ⟨fee, recordAmount, captured⟩ := captured_run ran
    (fun step present => lawful.step step (List.mem_append_right _ (mem_listenerSteps member present)))
    (fun step present => retrieved step (mem_listenerSteps member present))
  obtain ⟨mode, identifier⟩ := covers
  obtain ⟨transfers, step, present, read⟩ := captured.read
  have debits := shown step (mem_listenerSteps member present) _ transfers read charge charged mode identifier _
    (sent_of_listened lawful member)
  have sum := (captured.reads step present _ transfers read).2
  rw [getTransferAmountSum_eq, debits, Int.neg_neg] at sum
  rw [mode, captured.fee, sum, if_neg positive.ne']

/-- A record that is read shows the charge whose cost its listener adds. -/
theorem shows_of_added (lawful : history.Lawful) (retrieved : history.Retrieved) (complete : history.Complete)
    {event : Event} {steps : List Step} (member : (event, steps) ∈ listened history) {step : Step}
    (present : step ∈ steps) {transactionId : TransactionId} {transfers : List Transfer}
    (read : step.Reads transactionId transfers) : history.Shows transactionId transfers := by
  obtain ⟨outcome, ran⟩ := ran_of_mem_listened member
  have kept : ∀ step ∈ steps, step.Lawful client.operatorAccountId := fun step present =>
    lawful.step step (List.mem_append_right _ (mem_listenerSteps member present))
  cases event with
  | executeTransaction payload =>
      obtain ⟨fee, recordAmount, captured⟩ := captured_run ran kept fun step present =>
        retrieved step (mem_listenerSteps member present)
      obtain ⟨rfl, sum⟩ := captured.reads step present _ transfers read
      intro charge charged mode identifier operatorAccountId operator
      have sent : client.operatorAccountId = some payload.operatorAccountId := sent_of_listened lawful member
      obtain rfl : payload.operatorAccountId = operatorAccountId := Option.some.inj (sent.symm.trans operator)
      have added := complete charge charged
      rw [costsAdded_of_listened lawful retrieved member (congrArg some identifier.symm), mode, captured.fee] at added
      rw [getTransferAmountSum_eq] at sum
      split at added
      next => cases added
      next =>
        cases added
        omega
  | executeQuery payload => exact absurd read ((added_run ran kept).unread step present transactionId transfers)

/-- The listener of an event adds the cost of the charge that the event covers. -/
theorem costsOf_covered (lawful : history.Lawful) (retrieved : history.Retrieved)
    (shown : ∀ step ∈ history.listenerSteps, ∀ transactionId transfers, step.Reads transactionId transfers →
      history.Shows transactionId transfers) {event : Event}
    {steps : List Step} {charge : Charge} (member : (event, steps) ∈ listened history)
    (charged : charge ∈ history.charges) (positive : 0 < charge.cost) (covers : event.Covers charge) :
    costsOf charge.executionMode steps = [charge.cost] := by
  cases event with
  | executeTransaction payload => exact costsOf_transaction lawful retrieved shown member charged positive covers
  | executeQuery payload =>
      obtain ⟨outcome, ran⟩ := ran_of_mem_listened member
      have added := added_run ran fun step present =>
        lawful.step step (List.mem_append_right _ (mem_listenerSteps member present))
      have mode : payload.executionMode = .QUERY := sent_of_listened lawful member
      obtain ⟨queried, _, cost⟩ := covers
      rw [costsOf, added.expenses, queried]
      simp [expenseFor, mode, cost]

/-- Only the listener of a transaction is charged, for its record. -/
theorem record_of_listened (lawful : history.Lawful) (retrieved : history.Retrieved) {event : Event}
    {steps : List Step} (member : (event, steps) ∈ listened history) {step : Step} (present : step ∈ steps)
    {charge : Charge} (charged : charge ∈ step.charges) :
    event.transactionId = some charge.transactionId ∧
      costsOf charge.executionMode steps = if Refused steps then [] else [charge.cost] := by
  obtain ⟨outcome, ran⟩ := ran_of_mem_listened member
  have kept : ∀ step ∈ steps, step.Lawful client.operatorAccountId := fun step present =>
    lawful.step step (List.mem_append_right _ (mem_listenerSteps member present))
  cases event with
  | executeTransaction payload =>
      obtain ⟨_, recordAmount, captured⟩ := captured_run ran kept fun step present =>
        retrieved step (mem_listenerSteps member present)
      obtain ⟨mode, identifier, listed⟩ := captured.charged step present charge charged
      have nonZero : charge.cost ≠ 0 := ((kept step present).positive charge charged).ne'
      refine ⟨congrArg some identifier.symm, ?_⟩
      rw [mode, captured.record, ← listed]
      simp only [nonZero, false_or]
  | executeQuery payload =>
      rw [(added_run ran kept).free step present] at charged
      exact absurd charged List.not_mem_nil

theorem mem_lostCharges {steps : List Step} {charge : Charge} :
    charge ∈ lostCharges steps ↔ ∃ step ∈ steps, step.rejected = true ∧ charge ∈ step.charges := by
  simp only [lostCharges, List.mem_flatMap, List.mem_filter, and_assoc]

theorem mem_listened {steps : List Step} :
    (∃ event, (event, steps) ∈ listened history) ↔ ∃ run ∈ history, steps ∈ run.listeners := by
  constructor
  · rintro ⟨event, member⟩
    obtain ⟨run, present, zipped⟩ := List.mem_flatMap.mp member
    exact ⟨run, present, (List.of_mem_zip zipped).2⟩
  · rintro ⟨run, present, member⟩
    have all : ((events run.steps).zip run.listeners).map Prod.snd = run.listeners :=
      List.map_snd_zip run.listened.length_eq.ge
    rw [← all] at member
    obtain ⟨⟨event, _⟩, zipped, rfl⟩ := List.mem_map.mp member
    exact ⟨event, List.mem_flatMap.mpr ⟨run, present, zipped⟩⟩

end History

def exampleClient : SDKClient where
  operatorAccountId := some "0.0.2"
  maxChunks := 20
  fileAppendChunkSize := 5120
  jumboTxEnabled := true
  contractQueryTimeoutRetries := 3
  maxTransactionFeeThreshold := 15000000
  fromBytes := fun _ => .ok { toAddress := "0x5", callData := [], otherFields := [] }

def exampleRequest : RequestDetails := { requestId := "1", ipAddress := "127.0.0.1" }

def freeEffect : Effect := { charges := [], created := none }

def exampleTransaction : Transaction := .ethereum { toAddress := "0x5", callData := [], otherFields := [] } none 15000000

/-- The limiter lets the transaction through. -/
def letThrough : Step :=
  (⟨.shouldLimit .TRANSACTION "eth_sendRawTransaction" "EthereumTransaction" "0xa" exampleRequest none, .ok false⟩,
    freeEffect)

def exampleOperation : Operation := .submitEthereumTransaction [] "eth_sendRawTransaction" exampleRequest "0xa" 1 12

/-- The connection times out, but the transaction reached consensus. -/
def timedOut : Step :=
  (⟨.execute exampleTransaction,
    { outcome := .error { status := none, message := "timeout exceeded" }, transactionId := some "0.0.2@1.1" }⟩,
    { charges := [{ executionMode := .TRANSACTION, transactionId := "0.0.2@1.1", cost := 100 }], created := none })

def timedOutRun : OperationRun exampleClient false where
  operation := exampleOperation
  steps := [letThrough, timedOut]
  listeners := []
  ran := .call (.call .done)
  listened := .nil

/-- The transaction is answered, and its event has its identifier. -/
def answered : Step :=
  (⟨.execute exampleTransaction,
    { outcome := .ok { transactionId := "0.0.2@1.1" }, transactionId := some "0.0.2@1.1" }⟩,
    { charges := [{ executionMode := .TRANSACTION, transactionId := "0.0.2@1.1", cost := 100 }], created := none })

def receiptRead : Step :=
  (⟨.getReceipt { transactionId := "0.0.2@1.1" } .executeTransaction, .ok { status := .success, fileId := none }⟩,
    freeEffect)

def examplePayload : IExecuteTransactionEventPayload where
  transactionId := "0.0.2@1.1"
  requestDetails := exampleRequest
  txConstructorName := "EthereumTransaction"
  operatorAccountId := "0.0.2"
  originalCallerAddress := "0xa"

def emitted : Step := (⟨.emit (.executeTransaction examplePayload), ()⟩, freeEffect)

/-- The record shows the fee, and is charged too. -/
def recordRead : Step :=
  (⟨.getTransactionRecord "0.0.2@1.1", .ok {
      status := .success
      exchangeRate := some 10
      transfers := [{ accountId := "0.0.2", amount := -100 }, { accountId := "0.0.3", amount := 100 }]
      gasUsed := none }⟩,
    { charges := [{ executionMode := .RECORD, transactionId := "0.0.2@1.1", cost := calculateTxRecordChargeAmount 10 }]
      created := none })

def expenseAdded (executionMode : ExecutionMode) (cost : Int) : Step :=
  (⟨.addExpense {
      cost, evmAddress := "0xa", requestDetails := exampleRequest, executionMode, transactionId := some "0.0.2@1.1" },
    .ok ()⟩, freeEffect)

def metricsCaptured (executionMode : ExecutionMode) (cost : Int) : Step :=
  (⟨.captureMetrics executionMode "EthereumTransaction" "SUCCESS" cost 0, ()⟩, freeEffect)

theorem calculateTxRecordChargeAmount_ten : calculateTxRecordChargeAmount 10 = 100000 := by
  decide +kernel

def heardSteps : List Step :=
  [recordRead, expenseAdded .TRANSACTION 100, metricsCaptured .TRANSACTION 100,
    expenseAdded .RECORD (calculateTxRecordChargeAmount 10), metricsCaptured .RECORD (calculateTxRecordChargeAmount 10)]

private theorem heardSteps_ran :
    RanNoted (MetricService.listener true (.executeTransaction examplePayload)).run heardSteps (.ok ()) := by
  have nonZero : calculateTxRecordChargeAmount 10 ≠ 0 := by
    rw [calculateTxRecordChargeAmount_ten]
    decide
  refine .call (.call (.call ?_))
  change Ran (MetricService.addNonZero _).run _ _
  rw [MetricService.addNonZero, if_pos (by exact nonZero)]
  exact .call (.call .done)

def answeredRun : OperationRun exampleClient true where
  operation := exampleOperation
  steps := [letThrough, answered, receiptRead, emitted]
  listeners := [heardSteps]
  ran := .call (.call (.call (.call .done)))
  listened := .cons ⟨.ok (), heardSteps_ran⟩ .nil

private theorem lawful_answeredRun : History.Lawful [answeredRun] := by
  have free : ∀ step : Step, step.Charged → step.charges = [] → step.Lawful exampleClient.operatorAccountId := by
    intro step charged none
    exact ⟨charged, by rw [none]; exact List.forall_mem_nil _, fun _ => none⟩
  refine ⟨?_, by decide⟩
  refine List.forall_mem_append.mpr ⟨?_, ?_⟩
  · refine List.forall_mem_cons.mpr ⟨free _ rfl rfl, List.forall_mem_cons.mpr ⟨?_, ?_⟩⟩
    · refine ⟨⟨Nat.le_refl 1, List.forall_mem_singleton.mpr rfl, ?_⟩, List.forall_mem_singleton.mpr (by decide), nofun⟩
      rintro _ ⟨⟩
      exact ⟨by decide, List.forall_mem_singleton.mpr rfl⟩
    · exact List.forall_mem_cons.mpr ⟨free _ rfl rfl, List.forall_mem_singleton.mpr (free _ rfl rfl)⟩
  · refine List.forall_mem_cons.mpr ⟨⟨⟨Nat.le_refl 1, List.forall_mem_singleton.mpr ⟨rfl, rfl, ?_⟩⟩,
      List.forall_mem_singleton.mpr ?_, nofun⟩, ?_⟩
    · rintro _ _ ⟨⟩ ⟨⟩
      rfl
    · rw [calculateTxRecordChargeAmount_ten]
      decide
    · exact List.forall_mem_cons.mpr ⟨free _ rfl rfl, List.forall_mem_cons.mpr ⟨free _ rfl rfl,
        List.forall_mem_cons.mpr ⟨free _ rfl rfl, List.forall_mem_singleton.mpr (free _ rfl rfl)⟩⟩⟩

private theorem retrieved_answeredRun : History.Retrieved [answeredRun] := by
  refine List.forall_mem_cons.mpr ⟨⟨_, rfl, _, 10, rfl, rfl, rfl⟩, ?_⟩
  exact List.forall_mem_cons.mpr ⟨trivial, List.forall_mem_cons.mpr ⟨trivial,
      List.forall_mem_cons.mpr ⟨trivial, List.forall_mem_singleton.mpr trivial⟩⟩⟩

end HieroRelay.Hapi
