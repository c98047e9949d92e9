import HieroRelay.Hapi.Network

/-! Which charges of the network reach `addExpense`: every charge of a call that returned
is covered by one event with its own identifier. -/

namespace HieroRelay.Hapi

open HieroRelay.Lib
open HieroRelay.Relay (RequestDetails)

namespace Event

def transactionId : Event → Option TransactionId
  | .executeTransaction payload => some payload.transactionId
  | .executeQuery payload => payload.transactionId

/-- The event tells of the charge; the fee of a transaction is in its record. -/
def Covers (charge : Charge) : Event → Prop
  | .executeTransaction payload =>
      charge.executionMode = .TRANSACTION ∧ charge.transactionId = payload.transactionId
  | .executeQuery payload =>
      charge.executionMode = .QUERY ∧ payload.transactionId = some charge.transactionId ∧ payload.cost = charge.cost

/-- What the client puts into its events. -/
def SentBy (operatorAccountId : Option String) : Event → Prop
  | .executeTransaction payload => operatorAccountId = some payload.operatorAccountId
  | .executeQuery payload => payload.executionMode = .QUERY

end Event

def eventIds (steps : List Step) : List TransactionId := (events steps).filterMap Event.transactionId

def lostIds (steps : List Step) : List TransactionId := (lostCharges steps).map Charge.transactionId

/-- The events of a run have identifiers that the run made or was given, apart from those
of the lost charges, and cover all its other charges. -/
structure Accounted (operatorAccountId : Option String) (given : List TransactionId) (steps : List Step) : Prop where
  ids : ∀ id, (eventIds steps).count id + (lostIds steps).count id ≤
    given.count id + (steps.flatMap Step.names).count id
  covered : ∀ step ∈ steps, step.rejected = false → ∀ charge ∈ step.charges,
    ∃ event ∈ events steps, event.Covers charge
  sent : ∀ event ∈ events steps, event.SentBy operatorAccountId

section Append
variable {first second : List Step}

@[simp] theorem events_append : events (first ++ second) = events first ++ events second := List.filterMap_append

@[simp] theorem expenses_append : expenses (first ++ second) = expenses first ++ expenses second :=
  List.filterMap_append

@[simp] theorem eventIds_append : eventIds (first ++ second) = eventIds first ++ eventIds second := by
  simp [eventIds]

@[simp] theorem lostIds_append : lostIds (first ++ second) = lostIds first ++ lostIds second := by
  simp [lostIds, lostCharges]

theorem Accounted.append {given more : List TransactionId} {operatorAccountId : Option String}
    (before : Accounted operatorAccountId given first) (after : Accounted operatorAccountId more second) :
    Accounted operatorAccountId (given ++ more) (first ++ second) := by
  constructor
  · intro id
    have inFirst := before.ids id
    have inSecond := after.ids id
    simp only [eventIds_append, lostIds_append, List.count_append, List.flatMap_append]
    omega
  · intro step member returned charge charged
    rw [events_append]
    rcases List.mem_append.mp member with inFirst | inSecond
    · obtain ⟨event, emitted, covers⟩ := before.covered step inFirst returned charge charged
      exact ⟨event, List.mem_append_left _ emitted, covers⟩
    · obtain ⟨event, emitted, covers⟩ := after.covered step inSecond returned charge charged
      exact ⟨event, List.mem_append_right _ emitted, covers⟩
  · rw [events_append]
    exact List.forall_mem_append.mpr ⟨before.sent, after.sent⟩

end Append

theorem accounted_nil (operatorAccountId : Option String) : Accounted operatorAccountId [] [] := by
  constructor
  · intro id
    rfl
  · exact List.forall_mem_nil _
  · exact List.forall_mem_nil _

theorem accounted_additive (operatorAccountId : Option String) : Additive (Accounted operatorAccountId []) where
  nil := accounted_nil operatorAccountId
  append _ _ before after := before.append after

/-- Every run of the program is accounted. -/
abbrev Accounts (operatorAccountId : Option String) (program : Prog Op Answer Result) : Prop :=
  program.Always (Step.Lawful operatorAccountId) (Accounted operatorAccountId [])

section Steps
variable {operatorAccountId : Option String} {op : Op} {answer : Answer op} {effect : Effect}

theorem ranNoted_ask_bind_iff {next : Answer op → Throwing Result} {steps : List Step}
    {outcome : Except Thrown Result} :
    RanNoted (ask op >>= next).run steps outcome ↔
      ∃ answer effect others, steps = (⟨op, answer⟩, effect) :: others ∧ RanNoted (next answer).run others outcome :=
  ranNoted_call_iff

theorem ranNoted_perform_bind_iff {next : Answer op → Prog Op Answer Result} {steps : List Step} {result : Result} :
    RanNoted (perform op >>= next) steps result ↔
      ∃ answer effect others, steps = (⟨op, answer⟩, effect) :: others ∧ RanNoted (next answer) others result :=
  ranNoted_call_iff

/-- What only returns or throws after a call does nothing. -/
theorem ranNoted_of_bind_done {call : Throwing First} {next : First → Throwing Second} {steps : List Step}
    {outcome : Except Thrown Second} (ran : RanNoted (call >>= next).run steps outcome)
    (final : ∀ value, ∃ result, (next value).run = .done result) : ∃ result, RanNoted call.run steps result := by
  rcases ranNoted_bindExcept_iff.mp ran with ⟨first, second, value, rfl, called, ended⟩ | ⟨error, _, called⟩
  · obtain ⟨result, same⟩ := final value
    rw [same] at ended
    rw [(ranNoted_done_iff.mp ended).1, List.append_nil]
    exact ⟨_, called⟩
  · exact ⟨_, called⟩

/-- A call that charges nothing, names nothing and emits nothing. -/
def Op.Quiet : Op → Prop
  | .shouldLimit _ _ _ _ _ _ | .getReceipt _ _ | .getCost _ | .setTimeout _ => True
  | _ => False

theorem accounted_quiet (quiet : op.Quiet) (lawful : Step.Lawful operatorAccountId (⟨op, answer⟩, effect)) :
    Accounted operatorAccountId [] [(⟨op, answer⟩, effect)] := by
  have none : effect.charges = [] := by
    cases op <;> first | exact quiet.elim | exact lawful.charged
  constructor
  · intro id
    cases op <;> first | exact quiet.elim | rfl
  · intro step member _ charge charged
    obtain rfl := List.mem_singleton.mp member
    rw [Step.charges, none] at charged
    exact absurd charged List.not_mem_nil
  · cases op <;> first | exact quiet.elim | exact List.forall_mem_nil _

theorem accounts_quiet {next : Answer op → Prog Op Answer Result} (quiet : op.Quiet)
    (accounts : ∀ answer, Accounts operatorAccountId (next answer)) : Accounts operatorAccountId (.call op next) := by
  intro steps result ran lawful
  obtain ⟨answer, effect, others, rfl, rest⟩ := ranNoted_call_iff.mp ran
  obtain ⟨first, later⟩ := List.forall_mem_cons.mp lawful
  exact (accounted_quiet quiet first).append (accounts answer others result rest later)

theorem accounts_done (result : Result) : Accounts operatorAccountId (.done result : Prog Op Answer Result) :=
  Prog.always_done (accounted_additive operatorAccountId) result

theorem accounts_bind {call : Throwing First} {next : First → Throwing Second}
    (first : Accounts operatorAccountId call.run) (second : ∀ value, Accounts operatorAccountId (next value).run) :
    Accounts operatorAccountId (call >>= next).run :=
  first.bindExcept (accounted_additive operatorAccountId) second

theorem accounts_awaited (answer : Except Error Result) (thrown : Error → Thrown) :
    Accounts operatorAccountId (awaited answer thrown).run := accounts_done _

end Steps

section Transactions
variable (client : SDKClient)

theorem accounts_throwHbarLimit {operatorAccountId : Option String} (shouldThrowHbarLimit : Bool)
    (callerName txConstructorName originalCallerAddress : String) (requestDetails : RequestDetails)
    (estimatedTxFee : Option Int) :
    Accounts operatorAccountId (SDKClient.throwHbarLimit shouldThrowHbarLimit callerName txConstructorName
      originalCallerAddress requestDetails estimatedTxFee).run := by
  cases shouldThrowHbarLimit with
  | false => exact accounts_done _
  | true =>
      refine accounts_quiet ?quiet ?next
      case quiet => trivial
      intro answer
      apply accounts_bind (accounts_awaited answer id)
      intro shouldLimit
      cases shouldLimit with
      | true => exact accounts_done _
      | false => exact accounts_done _

/-- The charges of a call that threw are lost. -/
theorem accounted_rejected {operatorAccountId : Option String} {step : Step} (rejected : step.rejected = true)
    (named : step.names = step.charges.map Charge.transactionId) (silent : step.event = none) :
    Accounted operatorAccountId [] [step] := by
  have none : events [step] = [] := by rw [events, List.filterMap_cons_none silent, List.filterMap_nil]
  constructor
  · intro id
    rw [eventIds, none, lostIds, lostCharges, List.filter_cons_of_pos rejected]
    simp [named]
  · intro other member returned
    obtain rfl := List.mem_singleton.mp member
    rw [rejected] at returned
    cases returned
  · rw [none]
    exact List.forall_mem_nil _

/-- The events after a call that returned may have the identifiers that it made, and have
to cover its charges. -/
theorem accounted_returned {operatorAccountId : Option String} {step : Step} {others : List Step}
    (returned : step.rejected = false) (silent : step.event = none)
    (rest : Accounted operatorAccountId step.names others)
    (told : ∀ charge ∈ step.charges, ∃ event ∈ events others, event.Covers charge) :
    Accounted operatorAccountId [] (step :: others) := by
  have emitted : events (step :: others) = events others := List.filterMap_cons_none silent
  have kept : lostIds (step :: others) = lostIds others := by
    rw [lostIds, lostCharges, List.filter_cons_of_neg (by rw [returned]; exact Bool.false_ne_true)]
    rfl
  constructor
  · intro id
    have following := rest.ids id
    rw [eventIds, emitted, kept, List.flatMap_cons, List.count_append, List.count_nil, Nat.zero_add]
    exact following
  · rw [emitted]
    intro other member answered charge charged
    rcases List.mem_cons.mp member with rfl | inRest
    · exact told charge charged
    · exact rest.covered other inRest answered charge charged
  · rw [emitted]
    exact rest.sent

/-- A run may be given more identifiers than its events have. -/
theorem Accounted.given {operatorAccountId : Option String} {given : List TransactionId} {steps : List Step}
    (accounted : Accounted operatorAccountId [] steps) : Accounted operatorAccountId given steps := by
  constructor
  · intro id
    have own := accounted.ids id
    rw [List.count_nil] at own
    omega
  · exact accounted.covered
  · exact accounted.sent

/-- An event has the identifier that it was given. -/
theorem accounted_emit {operatorAccountId : Option String} {event : Event} {effect : Effect}
    (lawful : Step.Lawful operatorAccountId (⟨.emit event, ()⟩, effect)) (sent : event.SentBy operatorAccountId) :
    Accounted operatorAccountId event.transactionId.toList [(⟨.emit event, ()⟩, effect)] := by
  have none : effect.charges = [] := lawful.charged
  constructor
  · intro id
    have emitted : eventIds [(⟨.emit event, ()⟩, effect)] = event.transactionId.toList := by
      cases same : event.transactionId <;> simp [eventIds, events, Step.event, same]
    rw [emitted]
    exact Nat.le_refl _
  · intro step member _ charge charged
    obtain rfl := List.mem_singleton.mp member
    rw [Step.charges, none] at charged
    exact absurd charged List.not_mem_nil
  · intro other member
    obtain rfl := List.mem_singleton.mp member
    exact sent

/-- The event of a transaction, where there is an operator. -/
theorem accounted_emitTransaction {transactionId : TransactionId} {requestDetails : RequestDetails}
    {txConstructorName originalCallerAddress : String} {steps : List Step} {outcome : Except Thrown Unit}
    (ran : RanNoted (client.emitTransaction transactionId requestDetails txConstructorName originalCallerAddress).run
      steps outcome) (lawful : ∀ step ∈ steps, step.Lawful client.operatorAccountId) :
    Accounted client.operatorAccountId [transactionId] steps ∧
      (client.operatorAccountId = none ∨ ∃ payload, payload.transactionId = transactionId ∧
        events steps = [.executeTransaction payload]) := by
  rw [SDKClient.emitTransaction] at ran
  cases operator : client.operatorAccountId with
  | none =>
      rw [operator] at ran
      obtain ⟨rfl, _⟩ := ranNoted_done_iff.mp ran
      exact ⟨(accounted_nil none).given, .inl rfl⟩
  | some operatorAccountId =>
      rw [operator] at ran lawful
      obtain ⟨_, effect, others, rfl, ended⟩ := ranNoted_call_iff.mp ran
      obtain ⟨rfl, _⟩ := ranNoted_done_iff.mp ended
      exact ⟨accounted_emit (lawful _ List.mem_cons_self) rfl, .inr ⟨_, rfl, rfl⟩⟩

theorem settled_run (transactionResponse : TransactionResponse) (submission : Submission)
    (receipt : Except SdkError TransactionReceipt) :
    ∃ result, (SDKClient.settled transactionResponse submission receipt).run = .done result := by
  unfold SDKClient.settled
  split
  · exact ⟨_, rfl⟩
  · dsimp only
    split <;> exact ⟨_, rfl⟩

private theorem accounts_tryTransaction (transaction : Transaction) (callerName : String)
    (requestDetails : RequestDetails)
    (originalCallerAddress : String) :
    Accounts client.operatorAccountId
      (client.tryTransaction transaction callerName requestDetails originalCallerAddress).run := by
  intro steps outcome ran lawful
  obtain ⟨submission, effect, others, rfl, answeredRun⟩ := ranNoted_ask_bind_iff.mp ran
  obtain ⟨first, later⟩ := List.forall_mem_cons.mp lawful
  cases answered : submission.outcome with
  | error e =>
      rw [answered] at answeredRun
      obtain ⟨rfl, _⟩ := ranNoted_done_iff.mp answeredRun
      refine accounted_rejected ?rejected ?named rfl
      case rejected => simp only [Step.rejected, answered]; rfl
      case named => simp only [Step.names, answered]; rfl
  | ok transactionResponse =>
      rw [answered] at answeredRun
      obtain ⟨receipt, waited, others, rfl, settling⟩ := ranNoted_ask_bind_iff.mp answeredRun
      obtain ⟨second, rest⟩ := List.forall_mem_cons.mp later
      have named : Step.names (⟨.execute transaction, submission⟩, effect) = [transactionResponse.transactionId] := by
        simp only [Step.names, answered]
      obtain ⟨_, modes, responses⟩ := first.charged
      obtain ⟨identified, same⟩ := responses transactionResponse answered
      rw [if_pos identified] at settling
      obtain ⟨_, emitting⟩ := ranNoted_of_bind_done settling fun _ => settled_run transactionResponse submission receipt
      obtain ⟨accounted, told⟩ := accounted_emitTransaction client emitting rest
      have quiet : Op.Quiet (.getReceipt transactionResponse .executeTransaction) := trivial
      refine accounted_returned (by simp only [Step.rejected, answered]; rfl) rfl ?_ ?_
      · rw [named]
        exact (accounted_quiet quiet second).append accounted
      · intro charge charged
        rcases told with none | ⟨payload, identifier, alone⟩
        · rw [first.operator none] at charged
          exact absurd charged List.not_mem_nil
        · refine ⟨.executeTransaction payload, ?_, modes charge charged, ?_⟩
          · change _ ∈ events others
            rw [alone]
            exact List.mem_cons_self
          · rw [identifier]
            exact same charge charged

theorem accounts_executeTransaction (transaction : Transaction) (callerName : String) (requestDetails : RequestDetails)
    (shouldThrowHbarLimit : Bool) (originalCallerAddress : String) (estimatedTxFee : Option Int) :
    Accounts client.operatorAccountId (client.executeTransaction transaction callerName requestDetails
      shouldThrowHbarLimit originalCallerAddress estimatedTxFee).run := by
  apply accounts_bind
  · exact accounts_throwHbarLimit shouldThrowHbarLimit callerName transaction.constructorName originalCallerAddress
      requestDetails estimatedTxFee
  · intro _
    exact accounts_tryTransaction client transaction callerName requestDetails originalCallerAddress

/-- The events of several responses, where there is an operator. -/
theorem accounted_emitTransactions {requestDetails : RequestDetails} {originalCallerAddress : String}
    {transactionResponses : List TransactionResponse} {steps : List Step} {outcome : Except Thrown Unit}
    (ran : RanNoted (client.emitTransactions requestDetails originalCallerAddress transactionResponses).run steps outcome)
    (lawful : ∀ step ∈ steps, step.Lawful client.operatorAccountId) :
    Accounted client.operatorAccountId (transactionResponses.map TransactionResponse.transactionId) steps ∧
      (client.operatorAccountId = none ∨ ∀ transactionId ∈ transactionResponses.map TransactionResponse.transactionId,
        ∃ payload, payload.transactionId = transactionId ∧ .executeTransaction payload ∈ events steps) := by
  induction transactionResponses generalizing steps with
  | nil =>
      obtain ⟨rfl, _⟩ := ranNoted_done_iff.mp ran
      exact ⟨accounted_nil _, .inr (List.forall_mem_nil _)⟩
  | cons transactionResponse rest ih =>
      rcases ranNoted_bindExcept_iff.mp ran with ⟨first, others, _, rfl, emitting, following⟩ | ⟨error, _, emitting⟩
      · obtain ⟨lawfulFirst, lawfulRest⟩ := List.forall_mem_append.mp lawful
        obtain ⟨accounted, told⟩ := accounted_emitTransaction client emitting lawfulFirst
        obtain ⟨accountedRest, toldRest⟩ := ih following lawfulRest
        refine ⟨accounted.append accountedRest, ?_⟩
        rcases told with none | ⟨payload, identifier, alone⟩
        · exact .inl none
        rcases toldRest with none | each
        · exact .inl none
        refine .inr (List.forall_mem_cons.mpr ⟨⟨payload, identifier, ?_⟩, ?_⟩)
        · rw [events_append, alone]
          exact List.mem_cons_self
        · intro transactionId member
          obtain ⟨other, same, present⟩ := each transactionId member
          rw [events_append]
          exact ⟨other, same, List.mem_append_right _ present⟩
      · have none : client.operatorAccountId = none := by
          rw [SDKClient.emitTransaction] at emitting
          cases operator : client.operatorAccountId with
          | none => rfl
          | some operatorAccountId =>
              rw [operator] at emitting
              obtain ⟨_, _, _, _, ended⟩ := ranNoted_call_iff.mp emitting
              cases (ranNoted_done_iff.mp ended).2
        rw [SDKClient.emitTransaction, none] at emitting
        obtain ⟨rfl, _⟩ := ranNoted_done_iff.mp emitting
        exact ⟨(accounted_nil _).given, .inl none⟩

private theorem accounts_tryAllTransaction (transaction : FileAppendTransaction) (requestDetails : RequestDetails)
    (originalCallerAddress : String) :
    Accounts client.operatorAccountId
      (client.tryAllTransaction transaction requestDetails originalCallerAddress).run := by
  intro steps outcome ran lawful
  obtain ⟨answer, effect, others, rfl, answeredRun⟩ := ranNoted_ask_bind_iff.mp ran
  obtain ⟨first, later⟩ := List.forall_mem_cons.mp lawful
  cases answer with
  | error e =>
      obtain ⟨rfl, _⟩ := ranNoted_done_iff.mp answeredRun
      exact accounted_rejected rfl rfl rfl
  | ok transactionResponses =>
      obtain ⟨modes, responses⟩ := first.charged
      have identified := responses transactionResponses rfl
      obtain ⟨accounted, told⟩ := accounted_emitTransactions client answeredRun later
      refine accounted_returned rfl rfl accounted ?_
      intro charge charged
      rcases told with none | each
      · rw [first.operator none] at charged
        exact absurd charged List.not_mem_nil
      · obtain ⟨payload, identifier, present⟩ := each charge.transactionId
          (identified.subset (List.mem_map_of_mem charged))
        exact ⟨.executeTransaction payload, present, modes charge charged, identifier.symm⟩

private theorem accounts_executeAllTransaction (transaction : FileAppendTransaction) (callerName : String)
    (requestDetails : RequestDetails) (shouldThrowHbarLimit : Bool) (originalCallerAddress : String)
    (estimatedTxFee : Option Int) :
    Accounts client.operatorAccountId (client.executeAllTransaction transaction callerName requestDetails
      shouldThrowHbarLimit originalCallerAddress estimatedTxFee).run := by
  apply accounts_bind
  · exact accounts_throwHbarLimit shouldThrowHbarLimit callerName "FileAppendTransaction" originalCallerAddress
      requestDetails estimatedTxFee
  · intro _
    exact accounts_tryAllTransaction client transaction requestDetails originalCallerAddress

end Transactions

section Queries
variable {operatorAccountId : Option String} {query : Query}

/-- The run of the `try` block of a query: it emits nothing, and what it was charged is the
payment that is left on the query, and the cost that goes with the response. -/
structure Attempted (payment : QueryPayment) (steps : List Step) (result : SDKClient.Tried query) : Prop where
  silent : events steps = []
  returned : ∀ step ∈ steps, step.rejected = false
  named : steps.flatMap Step.names =
    if payment.paymentTransactionId = none then result.2.paymentTransactionId.toList else []
  kept : ∀ transactionId, payment.paymentTransactionId = some transactionId →
    result.2.paymentTransactionId = some transactionId
  charged : ∀ step ∈ steps, ∀ charge ∈ step.charges, charge.executionMode = .QUERY ∧
    result.2.paymentTransactionId = some charge.transactionId ∧ result.2.queryPayment = some charge.cost ∧
    ∀ response cost, result.1 = .ok (response, cost) → cost = some charge.cost

theorem attempted_once {payment : QueryPayment} {execution : QueryExecution query} {effect : Effect} {cost : Option Int}
    (lawful : Step.Lawful operatorAccountId (⟨.executeQuery query payment, execution⟩, effect))
    (paid : cost = execution.payment.queryPayment) :
    Attempted payment [(⟨.executeQuery query payment, execution⟩, effect)] (SDKClient.tried execution cost) := by
  obtain ⟨keptId, _, _, charged, _⟩ := lawful.charged
  constructor
  · rfl
  · intro step member
    obtain rfl := List.mem_singleton.mp member
    rfl
  · rw [List.flatMap_singleton]
    cases identified : payment.paymentTransactionId with
    | some transactionId => simp [Step.names, identified]
    | none => simp [Step.names, identified, SDKClient.tried]
  · exact keptId
  · intro step member charge mem
    obtain rfl := List.mem_singleton.mp member
    obtain ⟨mode, identifier, payed⟩ := charged charge mem
    refine ⟨mode, identifier, payed, ?_⟩
    intro response other answered
    rw [SDKClient.tried] at answered
    cases outcome : execution.outcome with
    | error e =>
        rw [outcome] at answered
        cases answered
    | ok resp =>
        rw [outcome] at answered
        cases answered
        rw [paid, payed]

/-- The payment that is set before an attempt does not matter. -/
theorem Attempted.unset {payment : QueryPayment} {cost : Option Int} {steps : List Step}
    {result : SDKClient.Tried query}
    (attempted : Attempted { payment with queryPayment := cost } steps result) : Attempted payment steps result :=
  ⟨attempted.silent, attempted.returned, attempted.named, attempted.kept, attempted.charged⟩

/-- An attempt that costs nothing before the others. -/
theorem Attempted.after {payment : QueryPayment} {execution : QueryExecution query} {effect : Effect}
    {transactionId : TransactionId} {others : List Step} {result : SDKClient.Tried query}
    (rest : Attempted execution.payment others result) (free : effect.charges = [])
    (identified : payment.paymentTransactionId = some transactionId)
    (same : execution.payment.paymentTransactionId = some transactionId) :
    Attempted payment ((⟨.executeQuery query payment, execution⟩, effect) :: others) result := by
  constructor
  · exact rest.silent
  · exact List.forall_mem_cons.mpr ⟨rfl, rest.returned⟩
  · have following := rest.named
    rw [same, if_neg (Option.some_ne_none _)] at following
    rw [List.flatMap_cons, following, identified, if_neg (Option.some_ne_none _)]
    simp [Step.names, identified]
  · intro other given
    rw [identified] at given
    cases given
    exact rest.kept transactionId same
  · refine List.forall_mem_cons.mpr ⟨?_, rest.charged⟩
    intro charge charged
    rw [Step.charges, free] at charged
    exact absurd charged List.not_mem_nil

private theorem attempted_increaseCost {transactionId : TransactionId} {baseCost : Int} {retriesLeft : Nat}
    {currentRetry : Nat} {payment : QueryPayment} {steps : List Step} {result : SDKClient.Tried query}
    (identified : payment.paymentTransactionId = some transactionId)
    (ran : RanNoted (SDKClient.increaseCostAndRetryExecution query payment baseCost currentRetry retriesLeft) steps result)
    (lawful : ∀ step ∈ steps, step.Lawful operatorAccountId) : Attempted payment steps result := by
  induction retriesLeft generalizing currentRetry payment steps with
  | zero =>
      obtain ⟨execution, effect, others, rfl, ended⟩ := ranNoted_perform_bind_iff.mp ran
      obtain ⟨rfl, rfl⟩ := ranNoted_done_iff.mp ended
      have first := lawful _ List.mem_cons_self
      exact (attempted_once first (first.charged.2.1 _ rfl).symm).unset
  | succ retriesLeft ih =>
      obtain ⟨execution, effect, others, rfl, following⟩ := ranNoted_perform_bind_iff.mp ran
      obtain ⟨first, later⟩ := List.forall_mem_cons.mp lawful
      obtain ⟨keptId, keptCost, _, _, tooLow⟩ := first.charged
      have once := (attempted_once first (keptCost _ rfl).symm).unset
      cases outcome : execution.outcome with
      | ok resp =>
          rw [outcome] at following
          obtain ⟨rfl, rfl⟩ := ranNoted_done_iff.mp following
          exact once
      | error e =>
          rw [outcome] at following
          dsimp only at following
          split at following
          next insufficient =>
            have further : Attempted { payment with queryPayment := some (increasedCost baseCost currentRetry) } _ result :=
              (ih (keptId transactionId identified) following later).after (tooLow e outcome insufficient) identified
                (keptId transactionId identified)
            exact further.unset
          next =>
            obtain ⟨rfl, rfl⟩ := ranNoted_done_iff.mp following
            exact once

private theorem attempted_tryQuery {payment : QueryPayment} {steps : List Step} {result : SDKClient.Tried query}
    (ran : RanNoted (SDKClient.tryQuery query payment) steps result)
    (lawful : ∀ step ∈ steps, step.Lawful operatorAccountId) : Attempted payment steps result := by
  rw [SDKClient.tryQuery] at ran
  cases identified : payment.paymentTransactionId with
  | none =>
      rw [identified] at ran
      obtain ⟨execution, effect, others, rfl, ended⟩ := ranNoted_perform_bind_iff.mp ran
      obtain ⟨rfl, rfl⟩ := ranNoted_done_iff.mp ended
      exact attempted_once (lawful _ List.mem_cons_self) rfl
  | some transactionId =>
      rw [identified] at ran
      obtain ⟨baseCost, effect, others, rfl, following⟩ := ranNoted_perform_bind_iff.mp ran
      obtain ⟨first, later⟩ := List.forall_mem_cons.mp lawful
      have free : effect.charges = [] := first.charged
      have uncharged : ∀ charge ∈ Step.charges (⟨.getCost query, baseCost⟩, effect), False := by
        intro charge charged
        rw [Step.charges, free] at charged
        exact absurd charged List.not_mem_nil
      have rest : Attempted payment others result := by
        cases baseCost with
        | ok baseCost => exact attempted_increaseCost identified following later
        | error e =>
            obtain ⟨rfl, rfl⟩ := ranNoted_done_iff.mp following
            refine ⟨rfl, List.forall_mem_nil _, ?_, fun _ same => same, List.forall_mem_nil _⟩
            rw [identified, if_neg (Option.some_ne_none _)]
            rfl
      refine ⟨rest.silent, List.forall_mem_cons.mpr ⟨rfl, rest.returned⟩, rest.named, rest.kept, ?_⟩
      exact List.forall_mem_cons.mpr ⟨fun charge charged => (uncharged charge charged).elim, rest.charged⟩

/-- The attempts of a query with the event after them. -/
theorem Attempted.accounted {payment : QueryPayment} {steps emitted : List Step} {result : SDKClient.Tried query}
    (attempted : Attempted payment steps result)
    (rest : Accounted operatorAccountId result.2.paymentTransactionId.toList emitted)
    (told : ∀ step ∈ steps, ∀ charge ∈ step.charges, ∃ event ∈ events emitted, event.Covers charge) :
    Accounted operatorAccountId payment.paymentTransactionId.toList (steps ++ emitted) := by
  have kept : lostIds steps = [] := by
    rw [lostIds, lostCharges, List.filter_eq_nil_iff.mpr]
    · rfl
    · intro step member
      rw [attempted.returned step member]
      exact Bool.false_ne_true
  have silent : eventIds steps = [] := by rw [eventIds, attempted.silent, List.filterMap_nil]
  constructor
  · intro id
    have following := rest.ids id
    rw [eventIds_append, silent, List.nil_append, lostIds_append, kept, List.nil_append, List.flatMap_append,
      List.count_append, attempted.named]
    cases identified : payment.paymentTransactionId with
    | none =>
        rw [if_pos rfl]
        simp only [Option.toList_none, List.count_nil]
        omega
    | some transactionId =>
        rw [attempted.kept transactionId identified] at following
        rw [if_neg (Option.some_ne_none _), List.count_nil, Nat.zero_add]
        exact following
  · rw [events_append, attempted.silent, List.nil_append]
    intro step member returned charge charged
    rcases List.mem_append.mp member with inAttempts | inRest
    · exact told step inAttempts charge charged
    · exact rest.covered step inRest returned charge charged
  · rw [events_append, attempted.silent, List.nil_append]
    exact rest.sent

theorem accounted_emitQuery {payment : QueryPayment} {queryCost : Option Int} {status : String}
    {requestDetails : RequestDetails} {originalCallerAddress : Option String} {steps : List Step}
    {outcome : Except Thrown Unit}
    (ran : RanNoted (SDKClient.emitQuery query payment queryCost status requestDetails originalCallerAddress).run steps
      outcome) (lawful : ∀ step ∈ steps, step.Lawful operatorAccountId) :
    Accounted operatorAccountId payment.paymentTransactionId.toList steps ∧ outcome = .ok () ∧
      ∀ cost, queryCost = some cost → cost ≠ 0 → ∃ payload, payload.transactionId = payment.paymentTransactionId ∧
        payload.cost = cost ∧ .executeQuery payload ∈ events steps := by
  cases queryCost with
  | none =>
      obtain ⟨rfl, rfl⟩ := ranNoted_done_iff.mp ran
      exact ⟨(accounted_nil _).given, rfl, nofun⟩
  | some cost =>
      rw [SDKClient.emitQuery] at ran
      split at ran
      next nonZero =>
        obtain ⟨_, effect, others, rfl, ended⟩ := ranNoted_call_iff.mp ran
        obtain ⟨rfl, rfl⟩ := ranNoted_done_iff.mp ended
        refine ⟨accounted_emit (lawful _ List.mem_cons_self) rfl, rfl, ?_⟩
        rintro _ ⟨⟩ _
        exact ⟨_, rfl, rfl, List.mem_cons_self⟩
      next zero =>
        obtain ⟨rfl, rfl⟩ := ranNoted_done_iff.mp ran
        refine ⟨(accounted_nil _).given, rfl, ?_⟩
        rintro _ ⟨⟩ nonZero
        exact absurd nonZero zero

theorem accounted_executeQuery {payment : QueryPayment} {requestDetails : RequestDetails}
    {originalCallerAddress : Option String} {steps : List Step} {outcome : Except Thrown query.Response}
    (ran : RanNoted (SDKClient.executeQuery query payment requestDetails originalCallerAddress).run steps outcome)
    (lawful : ∀ step ∈ steps, step.Lawful operatorAccountId) :
    Accounted operatorAccountId payment.paymentTransactionId.toList steps := by
  rw [SDKClient.executeQuery, ExceptT.run_bind_lift, ranNoted_bind_iff] at ran
  obtain ⟨attempts, emitted, ⟨result, left⟩, rfl, trying, following⟩ := ran
  obtain ⟨lawfulAttempts, lawfulRest⟩ := List.forall_mem_append.mp lawful
  have attempted := attempted_tryQuery trying lawfulAttempts
  have positive : ∀ step : Step, step ∈ attempts → ∀ charge ∈ step.charges, charge.cost ≠ 0 := by
    intro step member charge charged
    exact ((lawfulAttempts step member).positive charge charged).ne'
  cases result with
  | ok answered =>
      obtain ⟨_, emitting⟩ := ranNoted_of_bind_done following fun _ => ⟨_, rfl⟩
      obtain ⟨accounted, _, told⟩ := accounted_emitQuery emitting lawfulRest
      refine attempted.accounted accounted ?_
      intro step member charge charged
      obtain ⟨mode, identifier, _, paid⟩ := attempted.charged step member charge charged
      obtain ⟨payload, same, cost, present⟩ := told charge.cost (paid answered.1 answered.2 rfl)
        (positive step member charge charged)
      exact ⟨.executeQuery payload, present, mode, same.trans identifier, cost⟩
  | error e =>
      obtain ⟨_, emitting⟩ := ranNoted_of_bind_done following fun _ => ⟨_, rfl⟩
      obtain ⟨accounted, _, told⟩ := accounted_emitQuery emitting lawfulRest
      refine attempted.accounted accounted ?_
      intro step member charge charged
      obtain ⟨mode, identifier, paid, _⟩ := attempted.charged step member charge charged
      obtain ⟨payload, same, cost, present⟩ := told charge.cost paid (positive step member charge charged)
      exact ⟨.executeQuery payload, present, mode, same.trans identifier, cost⟩

theorem accounts_executeQuery (requestDetails : RequestDetails) (originalCallerAddress : Option String) :
    Accounts operatorAccountId
      (SDKClient.executeQuery query SDKClient.unpaid requestDetails originalCallerAddress).run :=
  fun _ _ ran lawful => accounted_executeQuery ran lawful

end Queries

section Operations
variable (client : SDKClient)

theorem accounts_submitContractCallQuery (recipient data : String) (gas : Nat) (sender : String)
    (requestDetails : RequestDetails) :
    Accounts client.operatorAccountId
      (client.submitContractCallQuery recipient data gas sender requestDetails).run := by
  intro steps outcome ran lawful
  rw [SDKClient.submitContractCallQuery] at ran
  cases operator : client.operatorAccountId with
  | none =>
      rw [operator] at ran lawful
      exact accounted_executeQuery ran lawful
  | some operatorAccountId =>
      rw [operator] at ran lawful
      obtain ⟨transactionId, effect, others, rfl, querying⟩ := ranNoted_ask_bind_iff.mp ran
      obtain ⟨first, later⟩ := List.forall_mem_cons.mp lawful
      refine accounted_returned rfl rfl (accounted_executeQuery querying later) ?_
      intro charge charged
      rw [Step.charges, show effect.charges = [] from first.charged] at charged
      exact absurd charged List.not_mem_nil

private theorem accounts_submitContractCallQueryWithRetry (recipient data : String) (gas : Nat) (sender : String)
    (requestDetails : RequestDetails) (retries retriesLeft : Nat) :
    Accounts client.operatorAccountId (client.submitContractCallQueryWithRetry recipient data gas sender requestDetails
      retries retriesLeft).run := by
  induction retriesLeft generalizing retries with
  | zero => exact accounts_done _
  | succ retriesLeft ih =>
      rw [SDKClient.submitContractCallQueryWithRetry, ExceptT.run_bind_lift]
      apply (accounts_submitContractCallQuery client recipient data gas sender requestDetails).bind
        (accounted_additive client.operatorAccountId)
      intro result
      cases result with
      | ok resp => exact accounts_done _
      | error e =>
          dsimp only
          split
          · refine accounts_quiet ?quiet ?next
            case quiet => trivial
            intro _
            exact ih (retries + 1)
          · cases e <;> exact accounts_done _

theorem accounts_createFile (callData : List UInt8) (requestDetails : RequestDetails)
    (callerName originalCallerAddress : String) (rate : Rat) :
    Accounts client.operatorAccountId
      (client.createFile callData requestDetails callerName originalCallerAddress rate).run := by
  apply accounts_bind (accounts_throwHbarLimit _ _ _ _ _ _)
  intro _
  apply accounts_bind (accounts_executeTransaction client _ _ _ _ _ _)
  intro fileCreateTxResponse
  refine accounts_quiet ?quiet ?next
  case quiet => trivial
  intro answer
  apply accounts_bind (accounts_awaited answer _)
  intro receipt
  cases receipt.fileId with
  | none => exact accounts_done _
  | some fileId =>
      have appending : Accounts client.operatorAccountId
          (client.appendToFile fileId callData requestDetails callerName originalCallerAddress).run := by
        rw [SDKClient.appendToFile]
        split
        · exact accounts_executeAllTransaction client _ _ _ _ _ _
        · exact accounts_done _
      apply accounts_bind appending
      intro _
      apply accounts_bind
      · apply accounts_bind (accounts_executeQuery requestDetails (some originalCallerAddress))
        intro fileInfo
        rw [SDKClient.checkSize]
        split <;> exact accounts_done _
      · intro _
        exact accounts_done _

private theorem accounts_submitEthereumTransaction (transactionBuffer : List UInt8) (callerName : String)
    (requestDetails : RequestDetails) (originalCallerAddress : String) (networkGasPriceInWeiBars : Nat) (rate : Rat) :
    Accounts client.operatorAccountId (client.submitEthereumTransaction transactionBuffer callerName requestDetails
      originalCallerAddress networkGasPriceInWeiBars rate).run := by
  apply accounts_bind (accounts_awaited _ _)
  intro ethereumTransactionData
  apply accounts_bind
  · rw [SDKClient.prepareTransaction]
    split
    · exact accounts_done _
    · apply accounts_bind (accounts_createFile client _ _ _ _ _)
      intro created
      cases created <;> exact accounts_done _
  · rintro ⟨ethereumTransaction, fileId⟩
    apply accounts_bind (accounts_executeTransaction client _ _ _ _ _ _)
    intro txResponse
    exact accounts_done _

private theorem accounts_deleteFile (fileId : FileId) (requestDetails : RequestDetails)
    (callerName originalCallerAddress : String) :
    Accounts client.operatorAccountId (client.deleteFile fileId requestDetails callerName originalCallerAddress) := by
  apply Prog.Always.bind (accounted_additive client.operatorAccountId)
  · apply accounts_bind (accounts_executeTransaction client _ _ _ _ _ _)
    intro _
    apply accounts_bind (accounts_executeQuery requestDetails (some originalCallerAddress))
    intro _
    exact accounts_done _
  · intro _
    exact accounts_done _

/-- Every run of an operation accounts for what it was charged. -/
theorem accounts_program (operation : Operation) :
    Accounts client.operatorAccountId (client.program operation) := by
  cases operation with
  | submitEthereumTransaction transactionBuffer callerName requestDetails originalCallerAddress gasPrice rate =>
      exact (accounts_submitEthereumTransaction client transactionBuffer callerName requestDetails originalCallerAddress
        gasPrice rate).bind (accounted_additive client.operatorAccountId) fun _ => accounts_done ()
  | createFile callData requestDetails callerName originalCallerAddress rate =>
      exact (accounts_createFile client callData requestDetails callerName originalCallerAddress rate).bind
        (accounted_additive client.operatorAccountId) fun _ => accounts_done ()
  | deleteFile fileId requestDetails callerName originalCallerAddress =>
      exact accounts_deleteFile client fileId requestDetails callerName originalCallerAddress
  | executeQuery query requestDetails originalCallerAddress =>
      exact (accounts_executeQuery requestDetails originalCallerAddress).bind
        (accounted_additive client.operatorAccountId) fun _ => accounts_done ()
  | submitContractCallQuery recipient data gas sender requestDetails =>
      exact (accounts_submitContractCallQuery client recipient data gas sender requestDetails).bind
        (accounted_additive client.operatorAccountId) fun _ => accounts_done ()
  | submitContractCallQueryWithRetry recipient data gas sender requestDetails =>
      exact (accounts_submitContractCallQueryWithRetry client recipient data gas sender requestDetails 0
        client.contractQueryTimeoutRetries).bind (accounted_additive client.operatorAccountId) fun _ => accounts_done ()

end Operations

end HieroRelay.Hapi
