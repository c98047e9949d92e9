import HieroRelay.Hapi.MetricService
import HieroRelay.Lib.Noted
import Mathlib.Algebra.Order.Ring.Int

/-! What the network does for each call of the relay, which the relay does not see: what it
charges to the operator and which file it creates. -/

namespace HieroRelay.Hapi

open HieroRelay.Lib (Noted Prog RanNoted)

/-- What the operator pays for a transaction, a query or a record. -/
structure Charge where
  executionMode : ExecutionMode
  transactionId : TransactionId
  cost : Int
  deriving Repr, DecidableEq

structure Effect where
  charges : List Charge
  created : Option FileId
  deriving Repr, DecidableEq

/-- A call, its answer and what it did on the network. -/
abbrev Step := Noted Op Answer Effect

namespace Step

def charges (step : Step) : List Charge := step.2.charges

/-- The call threw, whatever it did on the network. -/
def rejected : Step → Bool
  | (⟨.execute _, submission⟩, _) => !submission.outcome.isOk
  | (⟨.executeAll _, answer⟩, _) => !(answer : Except SdkError (List TransactionResponse)).isOk
  | _ => false

/-- The identifiers that are new with this call. -/
def names : Step → List TransactionId
  | (⟨.execute _, submission⟩, effect) =>
      match submission.outcome with
      | .ok transactionResponse => [transactionResponse.transactionId]
      | .error _ => effect.charges.map Charge.transactionId
  | (⟨.executeAll _, answer⟩, effect) =>
      match (answer : Except SdkError (List TransactionResponse)) with
      | .ok transactionResponses => transactionResponses.map TransactionResponse.transactionId
      | .error _ => effect.charges.map Charge.transactionId
  | (⟨.generate _, transactionId⟩, _) => [transactionId]
  | (⟨.executeQuery _ payment, execution⟩, _) =>
      match payment.paymentTransactionId with
      | some _ => []
      | none => execution.payment.paymentTransactionId.toList
  | _ => []

def event : Step → Option Event
  | (⟨.emit event, _⟩, _) => some event
  | _ => none

def expense : Step → Option Expense
  | (⟨.addExpense expense, _⟩, _) => some expense
  | _ => none

/-- What the network charges and what the SDK reports of it: a transaction has the
identifier of its response, a query is charged the payment that was set on it, and not at all
where the payment was too low, and a record costs its listed fee. -/
def Charged : Step → Prop
  | (⟨.execute _, submission⟩, effect) =>
      effect.charges.length ≤ 1 ∧ (∀ charge ∈ effect.charges, charge.executionMode = .TRANSACTION) ∧
        ∀ transactionResponse, submission.outcome = .ok transactionResponse →
          transactionResponse.transactionId ≠ "" ∧
          ∀ charge ∈ effect.charges, charge.transactionId = transactionResponse.transactionId
  | (⟨.executeAll _, answer⟩, effect) =>
      (∀ charge ∈ effect.charges, charge.executionMode = .TRANSACTION) ∧
        ∀ transactionResponses, (answer : Except SdkError (List TransactionResponse)) = .ok transactionResponses →
          (effect.charges.map Charge.transactionId).Sublist
            (transactionResponses.map TransactionResponse.transactionId)
  | (⟨.executeQuery _ payment, execution⟩, effect) =>
      (∀ transactionId, payment.paymentTransactionId = some transactionId →
        execution.payment.paymentTransactionId = some transactionId) ∧
      (∀ cost, payment.queryPayment = some cost → execution.payment.queryPayment = some cost) ∧
      effect.charges.length ≤ 1 ∧
      (∀ charge ∈ effect.charges, charge.executionMode = .QUERY ∧
        execution.payment.paymentTransactionId = some charge.transactionId ∧
        execution.payment.queryPayment = some charge.cost) ∧
      ∀ e, execution.outcome = .error e → (SDKClientError.new e none none).isInsufficientTxFee → effect.charges = []
  | (⟨.getTransactionRecord transactionId, answer⟩, effect) =>
      effect.charges.length ≤ 1 ∧
        ∀ charge ∈ effect.charges, charge.executionMode = .RECORD ∧ charge.transactionId = transactionId ∧
          ∀ transactionRecord exchangeRate, (answer : Except SdkError TransactionRecord) = .ok transactionRecord →
            transactionRecord.exchangeRate = some exchangeRate →
              charge.cost = calculateTxRecordChargeAmount exchangeRate
  | (_, effect) => effect.charges = []

/-- The record of the transaction is read, with these transfers. -/
def Reads (transactionId : TransactionId) (transfers : List Transfer) : Step → Prop
  | (⟨.getTransactionRecord asked, answer⟩, _) =>
      asked = transactionId ∧ ∃ transactionRecord exchangeRate,
        (answer : Except SdkError TransactionRecord) = .ok transactionRecord ∧
          transactionRecord.exchangeRate = some exchangeRate ∧ transactionRecord.transfers = transfers
  | (⟨.getTransactionById asked _, answer⟩, _) =>
      asked = transactionId ∧ ∃ records record,
        (answer : Except Thrown (Option (List MirrorNodeTransactionRecord))) = .ok (some records) ∧
          findRecord transactionId records = some record ∧ record.transfers = transfers
  | _ => False

/-- The record that is asked for is retrieved. -/
def Retrieves (step : Step) : Prop :=
  match step with
  | (⟨.getTransactionRecord transactionId, _⟩, _) => ∃ transfers, step.Reads transactionId transfers
  | (⟨.getTransactionById transactionId _, _⟩, _) => ∃ transfers, step.Reads transactionId transfers
  | _ => True

/-- The charges of a step, for the operator of the client. -/
structure Lawful (operatorAccountId : Option String) (step : Step) : Prop where
  charged : step.Charged
  positive : ∀ charge ∈ step.charges, 0 < charge.cost
  operator : operatorAccountId = none → step.charges = []

end Step

section Runs
variable (steps : List Step)

def events : List Event := steps.filterMap Step.event

def expenses : List Expense := steps.filterMap Step.expense

/-- The charges of calls that threw. -/
def lostCharges : List Charge := (steps.filter Step.rejected).flatMap Step.charges

end Runs

/-- An operation of the client. -/
inductive Operation where
  | submitEthereumTransaction (transactionBuffer : List UInt8) (callerName : String)
      (requestDetails : Relay.RequestDetails) (originalCallerAddress : String) (networkGasPriceInWeiBars : Nat)
      (currentNetworkExchangeRateInCents : Rat)
  | createFile (callData : List UInt8) (requestDetails : Relay.RequestDetails)
      (callerName originalCallerAddress : String) (currentNetworkExchangeRateInCents : Rat)
  | deleteFile (fileId : FileId) (requestDetails : Relay.RequestDetails) (callerName originalCallerAddress : String)
  | executeQuery (query : Query) (requestDetails : Relay.RequestDetails) (originalCallerAddress : Option String)
  | submitContractCallQuery (recipient data : String) (gas : Nat) (sender : String)
      (requestDetails : Relay.RequestDetails)
  | submitContractCallQueryWithRetry (recipient data : String) (gas : Nat) (sender : String)
      (requestDetails : Relay.RequestDetails)

/-- The program of an operation, whose result does not matter here. -/
def SDKClient.program (client : SDKClient) : Operation → Prog Op Answer Unit
  | .submitEthereumTransaction transactionBuffer callerName requestDetails originalCallerAddress gasPrice rate => do
      let _ ← (client.submitEthereumTransaction transactionBuffer callerName requestDetails originalCallerAddress
        gasPrice rate).run
  | .createFile callData requestDetails callerName originalCallerAddress rate => do
      let _ ← (client.createFile callData requestDetails callerName originalCallerAddress rate).run
  | .deleteFile fileId requestDetails callerName originalCallerAddress =>
      client.deleteFile fileId requestDetails callerName originalCallerAddress
  | .executeQuery query requestDetails originalCallerAddress => do
      let _ ← (SDKClient.executeQuery query SDKClient.unpaid requestDetails originalCallerAddress).run
  | .submitContractCallQuery recipient data gas sender requestDetails => do
      let _ ← (client.submitContractCallQuery recipient data gas sender requestDetails).run
  | .submitContractCallQueryWithRetry recipient data gas sender requestDetails => do
      let _ ← (client.submitContractCallQueryWithRetry recipient data gas sender requestDetails 0
        client.contractQueryTimeoutRetries).run

/-- A run of an operation, and of the listener of each event that it emitted. However they
interleave, each of them is given its answers in its own order. -/
structure OperationRun (client : SDKClient) (defaultToConsensusNode : Bool) where
  operation : Operation
  steps : List Step
  listeners : List (List Step)
  ran : RanNoted (client.program operation) steps ()
  listened : List.Forall₂ (fun event listened =>
    ∃ outcome, RanNoted (MetricService.listener defaultToConsensusNode event).run listened outcome)
    (events steps) listeners

/-- Any number of operations, in any order of their steps. -/
abbrev History (client : SDKClient) (defaultToConsensusNode : Bool) :=
  List (OperationRun client defaultToConsensusNode)

namespace History

variable {client : SDKClient} {defaultToConsensusNode : Bool} (history : History client defaultToConsensusNode)

/-- The steps of the operations. -/
def steps : List Step := history.flatMap OperationRun.steps

/-- The steps of the listeners. -/
def listenerSteps : List Step := history.flatMap fun run => run.listeners.flatten

/-- Everything that the network charged to the operator. -/
def charges : List Charge := (history.steps ++ history.listenerSteps).flatMap Step.charges

def expenses : List Expense := Hapi.expenses history.listenerSteps

/-- The network keeps to its rules, and no two transactions have one identifier. -/
structure Lawful : Prop where
  step : ∀ step ∈ history.steps ++ history.listenerSteps, step.Lawful client.operatorAccountId
  fresh : (history.steps.flatMap Step.names).Nodup

/-- The debits of the operator among the net transfers add up to what the transaction was charged. -/
def Shows (transactionId : TransactionId) (transfers : List Transfer) : Prop :=
  ∀ charge ∈ history.charges, charge.executionMode = .TRANSACTION → charge.transactionId = transactionId →
    ∀ operatorAccountId, client.operatorAccountId = some operatorAccountId →
      ((transfers.filter fun transfer => transfer.accountId = operatorAccountId ∧ transfer.amount < 0).map
        Transfer.amount).sum = -charge.cost

/-- Every record that a listener asks for is retrieved. -/
def Retrieved : Prop := ∀ step ∈ history.listenerSteps, step.Retrieves

/-- The calls of `addExpense` with the cost of what was charged. -/
def costsAdded (charge : Charge) : List Int :=
  (history.expenses.filter fun expense =>
    expense.executionMode = charge.executionMode ∧ expense.transactionId = some charge.transactionId).map Expense.cost

/-- Every charge led to exactly one call of `addExpense`, with its cost. -/
def Complete : Prop := ∀ charge ∈ history.charges, history.costsAdded charge = [charge.cost]

end History

end HieroRelay.Hapi
