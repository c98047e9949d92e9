import HieroRelay.Hapi.ExpenseReports
import HieroRelay.Hapi.TransactionService

/-! The file that a raw transaction puts its call data in is deleted exactly if no call
after its creation fails: the identifier of the file comes back with the answer only. -/

namespace HieroRelay.Hapi

open HieroRelay.Lib
open HieroRelay.Relay (RequestDetails)

namespace Step

def created (step : Step) : Option FileId := step.2.created

/-- The file that `deleteFile` is called for. -/
def deleted : Step → Option FileId
  | (⟨.deleteFile fileId _ _ _ _, _⟩, _) => some fileId
  | _ => none

end Step

/-- The answer ends the submission: the limiter stops it, a call throws, the receipt tells
of a wrong nonce or, where the file is created, of no file, or the file is empty. -/
def fails : Exchange Op Answer → Bool
  | ⟨.shouldLimit _ _ _ _ _ _, answer⟩ =>
      match (answer : Except Thrown Bool) with
      | .ok shouldLimit => shouldLimit
      | .error _ => true
  | ⟨.execute _, submission⟩ => !submission.outcome.isOk
  | ⟨.executeAll _, answer⟩ => !(answer : Except SdkError (List TransactionResponse)).isOk
  | ⟨.getReceipt _ .executeTransaction, answer⟩ =>
      match (answer : Except SdkError TransactionReceipt) with
      | .ok _ => false
      | .error e => (SDKClientError.new e none none).status = .wrongNonce
  | ⟨.getReceipt _ .createFile, answer⟩ =>
      match (answer : Except SdkError TransactionReceipt) with
      | .ok receipt => receipt.fileId.isNone
      | .error _ => true
  | ⟨.executeQuery (.fileInfo _) _, execution⟩ =>
      match (execution.outcome : Except SdkError FileInfo) with
      | .ok fileInfo => fileInfo.size = 0
      | .error _ => true
  | ⟨.cachedExchangeRate _, answer⟩ => !(answer : Except Thrown (Option ExchangeRate)).isOk
  | ⟨.getNetworkExchangeRate _, answer⟩ => !(answer : Except Thrown ExchangeRate).isOk
  | ⟨.cacheExchangeRate _ _ _, answer⟩ => !(answer : Except Thrown Unit).isOk
  | _ => false

def createdFiles (steps : List Step) : List FileId := steps.filterMap Step.created

def deletedFiles (steps : List Step) : List FileId := steps.filterMap Step.deleted

def Unfailing (steps : List Step) : Prop := ∀ step ∈ steps, fails step.1 = false

/-- A file is created by a transaction of the operator that creates one, and the receipt of
that transaction has its identifier. -/
structure FilesLawful (operatorAccountId : Option String) (steps : List Step) : Prop where
  creator : ∀ step ∈ steps, ∀ fileId, step.created = some fileId →
    operatorAccountId ≠ none ∧ ∃ contents, step.1.1 = .execute (.fileCreate contents)
  receipt : ∀ transaction submission effect transactionResponse reader receipt after fileId,
    (⟨.execute transaction, submission⟩, effect) ∈ steps → effect.created = some fileId →
    submission.outcome = .ok transactionResponse →
    (⟨.getReceipt transactionResponse reader, .ok receipt⟩, after) ∈ steps → receipt.fileId = some fileId

/-- The program returns something good exactly if none of its calls fails. -/
def Clean (good : Result → Prop) (program : Throwing Result) : Prop :=
  ∀ steps outcome, RanNoted program.run steps outcome →
    ((∃ result, outcome = .ok result ∧ good result) ↔ Unfailing steps)

/-- The program never returns anything good. -/
def Never (good : Result → Prop) (program : Throwing Result) : Prop :=
  ∀ (steps : List Step) outcome, RanNoted program.run steps outcome → ¬ ∃ result, outcome = .ok result ∧ good result

section Rules
variable {good : Result → Prop} {better : Next → Prop} {program : Throwing Result} {next : Result → Throwing Next}

theorem clean_return {result : Result} (holds : good result) : Clean good (pure result) := by
  intro steps outcome ran
  obtain ⟨rfl, rfl⟩ := ranNoted_done_iff.mp ran
  exact ⟨fun _ => List.forall_mem_nil _, fun _ => ⟨result, rfl, holds⟩⟩

/-- The rule for one program after another, where what is not good leads to an error. -/
theorem Clean.bind (first : Clean good program) (second : ∀ result, good result → Clean better (next result))
    (bad : ∀ result, ¬ good result → Never better (next result)) : Clean better (program >>= next) := by
  intro steps outcome ran
  rcases ranNoted_bindExcept_iff.mp ran with ⟨begun, ended, result, rfl, firstRan, secondRan⟩ | ⟨error, rfl, firstRan⟩
  · have before := first begun (.ok result) firstRan
    rw [Unfailing, List.forall_mem_append]
    by_cases holds : good result
    · have unfailing := before.mp ⟨result, rfl, holds⟩
      exact (second result holds ended outcome secondRan).trans (and_iff_right unfailing).symm
    · have failing : ¬ Unfailing begun := by
        intro unfailing
        obtain ⟨_, same, other⟩ := before.mpr unfailing
        cases same
        exact holds other
      exact iff_of_false (bad result holds ended outcome secondRan) fun both => failing both.1
  · have before := first steps (.error error) firstRan
    refine iff_of_false nofun fun unfailing => ?_
    obtain ⟨_, same, _⟩ := before.mpr unfailing
    cases same

/-- The rule where every result is good. -/
theorem Clean.then (first : Clean (fun _ => True) program) (second : ∀ result, Clean better (next result)) :
    Clean better (program >>= next) :=
  first.bind (fun result _ => second result) fun _ none => absurd trivial none

theorem never_throw (error : Thrown) : Never good (throw error) := by
  rintro steps outcome ran ⟨result, same, _⟩
  obtain ⟨_, rfl⟩ := ranNoted_done_iff.mp ran
  cases same

theorem never_after {call : Throwing First} {next : First → Throwing Result}
    (second : ∀ value, Never good (next value)) :
    Never good (call >>= next) := by
  rintro steps outcome ran ⟨result, rfl, holds⟩
  rcases ranNoted_bindExcept_iff.mp ran with ⟨_, ended, value, rfl, _, nextRan⟩ | ⟨_, different, _⟩
  · exact second value ended _ nextRan ⟨result, rfl, holds⟩
  · cases different

/-- The rule for a call: where its answer fails the program returns nothing good. -/
theorem clean_call {op : Op} {next : Answer op → Throwing Result}
    (passing : ∀ answer, fails ⟨op, answer⟩ = false → Clean good (next answer))
    (failing : ∀ answer, fails ⟨op, answer⟩ = true → Never good (next answer)) : Clean good (ask op >>= next) := by
  intro steps outcome ran
  obtain ⟨answer, effect, others, rfl, following⟩ := ranNoted_ask_bind_iff.mp ran
  rw [Unfailing, List.forall_mem_cons]
  cases failed : fails ⟨op, answer⟩ with
  | false => exact (passing answer failed others outcome following).trans (and_iff_right rfl).symm
  | true => exact iff_of_false (failing answer failed others outcome following) nofun

/-- The rule for a call that cannot fail. -/
theorem clean_unfailing {op : Op} {next : Answer op → Throwing Result} (never : ∀ answer, fails ⟨op, answer⟩ = false)
    (passing : ∀ answer, Clean good (next answer)) : Clean good (ask op >>= next) := by
  apply clean_call
  · intro answer _
    exact passing answer
  · intro answer failed
    rw [never answer] at failed
    cases failed

/-- The rule for a call whose errors are thrown. -/
theorem clean_awaited {Error Value : Type} {op : Op} {read : Answer op → Except Error Value} {thrown : Error → Thrown}
    {next : Value → Throwing Result} (throws : ∀ answer, fails ⟨op, answer⟩ = !(read answer).isOk)
    (passing : ∀ value, Clean good (next value)) :
    Clean good (ask op >>= fun answer => awaited (read answer) thrown >>= next) := by
  apply clean_call
  · intro answer passed
    rw [throws] at passed
    cases found : read answer with
    | ok value => exact passing value
    | error error =>
        rw [found] at passed
        cases passed
  · intro answer failed
    rw [throws] at failed
    cases found : read answer with
    | ok value =>
        rw [found] at failed
        cases failed
    | error error => exact never_throw (thrown error)

end Rules

section Operations
variable (client : SDKClient)

theorem clean_throwHbarLimit (shouldThrowHbarLimit : Bool) (callerName txConstructorName originalCallerAddress : String)
    (requestDetails : RequestDetails) (estimatedTxFee : Option Int) :
    Clean (fun _ => True) (SDKClient.throwHbarLimit shouldThrowHbarLimit callerName txConstructorName
      originalCallerAddress requestDetails estimatedTxFee) := by
  cases shouldThrowHbarLimit with
  | false => exact clean_return trivial
  | true =>
      apply clean_call
      · intro answer passed
        match answer, passed with
        | .ok false, _ => exact clean_return trivial
      · intro answer failed
        match answer, failed with
        | .ok true, _ => exact never_throw _
        | .error error, _ => exact never_throw error

/-- Only a wrong nonce in the receipt throws. -/
theorem settled_eq (transactionResponse : TransactionResponse) (submission : Submission)
    (receipt : Except SdkError TransactionReceipt) :
    ∃ thrown, SDKClient.settled transactionResponse submission receipt =
      if fails ⟨.getReceipt transactionResponse .executeTransaction, receipt⟩ = true then throw thrown
      else pure transactionResponse := by
  cases receipt with
  | ok receipt => exact ⟨.other "", rfl⟩
  | error e =>
      refine ⟨.sdkClient (SDKClientError.new e submission.transactionId e.nodeAccountId), ?_⟩
      simp only [fails, decide_eq_true_eq]
      rfl

variable {operatorAccountId : String} (operator : client.operatorAccountId = some operatorAccountId)
include operator

theorem clean_emitTransaction (transactionId : TransactionId) (requestDetails : RequestDetails)
    (txConstructorName originalCallerAddress : String) :
    Clean (fun _ => True)
      (client.emitTransaction transactionId requestDetails txConstructorName originalCallerAddress) := by
  rw [SDKClient.emitTransaction, operator]
  exact clean_unfailing (fun _ => rfl) fun _ => clean_return trivial

private theorem clean_tryTransaction (transaction : Transaction) (callerName : String) (requestDetails : RequestDetails)
    (originalCallerAddress : String) :
    Clean (fun _ => True) (client.tryTransaction transaction callerName requestDetails originalCallerAddress) := by
  apply clean_call
  · intro submission passed
    obtain ⟨outcome, transactionId⟩ := submission
    match outcome, passed with
    | .ok transactionResponse, _ =>
        have emitting : Clean (fun _ => True) (if transactionResponse.transactionId ≠ "" then
            client.emitTransaction transactionResponse.transactionId requestDetails transaction.constructorName
              originalCallerAddress else return () : Throwing Unit) := by
          split
          · exact clean_emitTransaction client operator _ _ _ _
          · exact clean_return trivial
        apply clean_call
        · intro receipt passed
          apply emitting.then
          intro _
          obtain ⟨_, same⟩ := settled_eq transactionResponse ⟨.ok transactionResponse, transactionId⟩ receipt
          rw [same, if_neg (by rw [passed]; exact Bool.false_ne_true)]
          exact clean_return trivial
        · intro receipt failed
          apply never_after
          intro _
          obtain ⟨thrown, same⟩ := settled_eq transactionResponse ⟨.ok transactionResponse, transactionId⟩ receipt
          rw [same, if_pos failed]
          exact never_throw thrown
  · intro submission failed
    obtain ⟨outcome, transactionId⟩ := submission
    match outcome, failed with
    | .error e, _ => exact never_throw _

theorem clean_executeTransaction (transaction : Transaction) (callerName : String) (requestDetails : RequestDetails)
    (shouldThrowHbarLimit : Bool) (originalCallerAddress : String) (estimatedTxFee : Option Int) :
    Clean (fun _ => True) (client.executeTransaction transaction callerName requestDetails shouldThrowHbarLimit
      originalCallerAddress estimatedTxFee) :=
  (clean_throwHbarLimit _ _ _ _ _ _).then fun _ => clean_tryTransaction client operator _ _ _ _

private theorem clean_emitTransactions (requestDetails : RequestDetails) (originalCallerAddress : String)
    (transactionResponses : List TransactionResponse) :
    Clean (fun _ => True) (client.emitTransactions requestDetails originalCallerAddress transactionResponses) := by
  induction transactionResponses with
  | nil => exact clean_return trivial
  | cons transactionResponse rest ih => exact (clean_emitTransaction client operator _ _ _ _).then fun _ => ih

private theorem clean_appendToFile (fileId : FileId) (callData : List UInt8) (requestDetails : RequestDetails)
    (callerName originalCallerAddress : String) :
    Clean (fun _ => True)
      (client.appendToFile fileId callData requestDetails callerName originalCallerAddress) := by
  rw [SDKClient.appendToFile]
  split
  · apply (clean_throwHbarLimit _ _ _ _ _ _).then
    intro _
    apply clean_call
    · intro answer passed
      cases answer with
      | ok transactionResponses => exact clean_emitTransactions client operator _ _ _
      | error e => cases passed
    · intro answer failed
      cases answer with
      | ok transactionResponses => cases failed
      | error e => exact never_throw _
  · exact clean_return trivial

omit operator in
private theorem clean_emitQuery (query : Query) (payment : QueryPayment) (queryCost : Option Int) (status : String)
    (requestDetails : RequestDetails) (originalCallerAddress : Option String) :
    Clean (fun _ => True)
      (SDKClient.emitQuery query payment queryCost status requestDetails originalCallerAddress) := by
  cases queryCost with
  | none => exact clean_return trivial
  | some cost =>
      rw [SDKClient.emitQuery]
      split
      · exact clean_unfailing (fun _ => rfl) fun _ => clean_return trivial
      · exact clean_return trivial

omit operator in
private theorem clean_checkFile (fileId : FileId) (requestDetails : RequestDetails) (originalCallerAddress : String) :
    Clean (fun _ => True) (SDKClient.checkFile fileId requestDetails originalCallerAddress) := by
  have whole : SDKClient.checkFile fileId requestDetails originalCallerAddress =
      ask (.executeQuery (.fileInfo fileId) SDKClient.unpaid) >>= fun execution =>
        SDKClient.reported (.fileInfo fileId) requestDetails originalCallerAddress
          (SDKClient.tried execution execution.payment.queryPayment) >>= SDKClient.checkSize requestDetails := rfl
  rw [whole]
  apply clean_call
  · intro execution passed
    obtain ⟨outcome, payment⟩ := execution
    cases outcome with
    | error e => cases passed
    | ok fileInfo =>
        have nonEmpty : ¬ fileInfo.size = 0 := of_decide_eq_false passed
        change Clean _ ((SDKClient.emitQuery _ _ _ _ _ _ >>= fun _ => pure fileInfo) >>= _)
        rw [bind_assoc]
        apply (clean_emitQuery _ _ _ _ _ _).then
        intro _
        rw [pure_bind, SDKClient.checkSize, if_neg nonEmpty]
        exact clean_return trivial
  · intro execution failed
    obtain ⟨outcome, payment⟩ := execution
    cases outcome with
    | ok fileInfo =>
        have empty : fileInfo.size = 0 := of_decide_eq_true failed
        change Never _ ((SDKClient.emitQuery _ _ _ _ _ _ >>= fun _ => pure fileInfo) >>= _)
        rw [bind_assoc]
        apply never_after
        intro _
        rw [pure_bind, SDKClient.checkSize, if_pos empty]
        exact never_throw _
    | error e =>
        change Never _ ((SDKClient.emitQuery _ _ _ _ _ _ >>= fun _ => throw _) >>= _)
        rw [bind_assoc]
        apply never_after
        intro _
        exact never_throw _

/-- The file that is created is the one of the receipt. -/
theorem clean_createFile (callData : List UInt8) (requestDetails : RequestDetails)
    (callerName originalCallerAddress : String) (rate : Rat) :
    Clean (fun created => created.isSome)
      (client.createFile callData requestDetails callerName originalCallerAddress rate) := by
  apply (clean_throwHbarLimit _ _ _ _ _ _).then
  intro _
  apply (clean_executeTransaction client operator _ _ _ _ _ _).then
  intro fileCreateTxResponse
  apply clean_call
  · intro answer passed
    match answer, passed with
    | .ok ⟨status, some fileId⟩, _ =>
        apply (clean_appendToFile client operator _ _ _ _ _).then
        intro _
        apply (clean_checkFile _ _ _).then
        intro _
        exact clean_return rfl
  · intro answer failed
    match answer, failed with
    | .ok ⟨status, none⟩, _ =>
        rintro steps outcome ran ⟨result, rfl, holds⟩
        obtain ⟨_, same⟩ := ranNoted_done_iff.mp ran
        cases same
        cases holds
    | .error e, _ => exact never_throw _

private theorem clean_prepareTransaction (ethereumTransactionData : EthereumTransactionData) (callerName : String)
    (requestDetails : RequestDetails) (originalCallerAddress : String) (networkGasPriceInWeiBars : Nat) (rate : Rat) :
    Clean (fun _ => True) (client.prepareTransaction ethereumTransactionData callerName requestDetails
      originalCallerAddress networkGasPriceInWeiBars rate) := by
  rw [SDKClient.prepareTransaction]
  split
  · exact clean_return trivial
  · apply (clean_createFile client operator _ _ _ _ _).bind
    · intro created holds
      obtain ⟨fileId, rfl⟩ := Option.isSome_iff_exists.mp holds
      exact clean_return trivial
    · intro created none
      rw [Bool.not_eq_true, Option.isSome_eq_false_iff, Option.isNone_iff_eq_none] at none
      rw [none]
      exact never_throw _

private theorem clean_submitEthereumTransaction {transactionBuffer : List UInt8}
    {ethereumTransactionData : EthereumTransactionData}
    (decoded : client.fromBytes transactionBuffer = .ok ethereumTransactionData) (callerName : String)
    (requestDetails : RequestDetails) (originalCallerAddress : String) (networkGasPriceInWeiBars : Nat) (rate : Rat) :
    Clean (fun _ => True) (client.submitEthereumTransaction transactionBuffer callerName requestDetails
      originalCallerAddress networkGasPriceInWeiBars rate) := by
  rw [SDKClient.submitEthereumTransaction, decoded]
  apply (clean_prepareTransaction client operator ethereumTransactionData callerName requestDetails originalCallerAddress
    networkGasPriceInWeiBars rate).then
  intro prepared
  apply (clean_executeTransaction client operator _ _ _ _ _ _).then
  intro txResponse
  exact clean_return trivial

end Operations

/-- A call that neither creates nor deletes a file. -/
def Op.Plain : Op → Prop
  | .execute (.fileCreate _) => False
  | .deleteFile _ _ _ _ _ => False
  | _ => True

/-- A call that sends nothing: neither a transaction, nor the deletion or the receipt of a file. -/
def Op.Idle : Op → Prop
  | .execute _ => False
  | .executeAll _ => False
  | .deleteFile _ _ _ _ _ => False
  | .getReceipt _ .createFile => False
  | _ => True

theorem Op.Idle.plain {op : Op} (idle : op.Idle) : op.Plain := by
  cases op with
  | execute transaction => exact idle.elim
  | deleteFile fileId requestDetails callerName interactingEntity originalCallerAddress => exact idle
  | _ => trivial

section Plain
variable (client : SDKClient)

theorem idle_throwHbarLimit (shouldThrowHbarLimit : Bool) (callerName txConstructorName originalCallerAddress : String)
    (requestDetails : RequestDetails) (estimatedTxFee : Option Int) :
    (SDKClient.throwHbarLimit shouldThrowHbarLimit callerName txConstructorName originalCallerAddress requestDetails
      estimatedTxFee).run.Asks Op.Idle := by
  cases shouldThrowHbarLimit with
  | false => trivial
  | true =>
      refine ⟨trivial, fun answer => ?_⟩
      match answer with
      | .ok true | .ok false | .error _ => trivial

theorem idle_emitTransaction (transactionId : TransactionId) (requestDetails : RequestDetails)
    (txConstructorName originalCallerAddress : String) :
    (client.emitTransaction transactionId requestDetails txConstructorName originalCallerAddress).run.Asks
      Op.Idle := by
  rw [SDKClient.emitTransaction]
  split
  · exact ⟨trivial, fun _ => trivial⟩
  · trivial

theorem idle_emitTransactions (requestDetails : RequestDetails) (originalCallerAddress : String)
    (transactionResponses : List TransactionResponse) :
    (client.emitTransactions requestDetails originalCallerAddress transactionResponses).run.Asks Op.Idle := by
  induction transactionResponses with
  | nil => trivial
  | cons transactionResponse rest ih => exact asks_bindExcept (idle_emitTransaction client _ _ _ _) fun _ => ih

/-- What comes after the response of a transaction. -/
theorem idle_answered (transaction : Transaction) (requestDetails : RequestDetails) (originalCallerAddress : String)
    (submission : Submission) (transactionResponse : TransactionResponse) :
    (do
      let receipt ← ask (.getReceipt transactionResponse .executeTransaction)
      (if transactionResponse.transactionId ≠ "" then
        client.emitTransaction transactionResponse.transactionId requestDetails transaction.constructorName
          originalCallerAddress
      else return () : Throwing Unit)
      SDKClient.settled transactionResponse submission receipt : Throwing TransactionResponse).run.Asks Op.Idle := by
  refine ⟨trivial, fun receipt => ?_⟩
  apply asks_bindExcept
  · split
    · exact idle_emitTransaction client _ _ _ _
    · trivial
  · intro _
    obtain ⟨_, same⟩ := settled_run transactionResponse submission receipt
    rw [same]
    trivial

private theorem plain_executeTransaction {transaction : Transaction}
    (other : ∀ contents, transaction ≠ .fileCreate contents)
    (callerName : String) (requestDetails : RequestDetails) (shouldThrowHbarLimit : Bool)
    (originalCallerAddress : String) (estimatedTxFee : Option Int) :
    (client.executeTransaction transaction callerName requestDetails shouldThrowHbarLimit originalCallerAddress
      estimatedTxFee).run.Asks Op.Plain := by
  apply asks_bindExcept ((idle_throwHbarLimit _ _ _ _ _ _).imp fun _ => Op.Idle.plain)
  intro _
  refine ⟨?_, fun submission => ?_⟩
  · cases transaction with
    | fileCreate contents => exact absurd rfl (other contents)
    | fileDelete fileId => trivial
    | ethereum ethereumData callDataFileId maxTransactionFee => trivial
  · obtain ⟨outcome, transactionId⟩ := submission
    cases outcome with
    | error e => trivial
    | ok transactionResponse =>
      exact (idle_answered client transaction requestDetails originalCallerAddress _ _).imp fun _ => Op.Idle.plain

private theorem plain_appendToFile (fileId : FileId) (callData : List UInt8) (requestDetails : RequestDetails)
    (callerName originalCallerAddress : String) :
    (client.appendToFile fileId callData requestDetails callerName originalCallerAddress).run.Asks Op.Plain := by
  rw [SDKClient.appendToFile]
  split
  · apply asks_bindExcept ((idle_throwHbarLimit _ _ _ _ _ _).imp fun _ => Op.Idle.plain)
    intro _
    refine ⟨trivial, fun answer => ?_⟩
    cases answer with
    | ok transactionResponses =>
      exact (idle_emitTransactions client _ _ transactionResponses).imp fun _ => Op.Idle.plain
    | error _ => trivial
  · trivial

theorem idle_emitQuery (query : Query) (payment : QueryPayment) (queryCost : Option Int) (status : String)
    (requestDetails : RequestDetails) (originalCallerAddress : Option String) :
    (SDKClient.emitQuery query payment queryCost status requestDetails originalCallerAddress).run.Asks Op.Idle := by
  cases queryCost with
  | none => trivial
  | some cost =>
      rw [SDKClient.emitQuery]
      split
      · exact ⟨trivial, fun _ => trivial⟩
      · trivial

theorem idle_checkFile (fileId : FileId) (requestDetails : RequestDetails) (originalCallerAddress : String) :
    (SDKClient.checkFile fileId requestDetails originalCallerAddress).run.Asks Op.Idle := by
  refine ⟨trivial, fun execution => ?_⟩
  change (SDKClient.reported (.fileInfo fileId) requestDetails originalCallerAddress
    (SDKClient.tried execution execution.payment.queryPayment) >>= SDKClient.checkSize requestDetails).run.Asks Op.Idle
  apply asks_bindExcept
  · obtain ⟨outcome, payment⟩ := execution
    cases outcome with
    | ok fileInfo => exact asks_bindExcept (idle_emitQuery _ _ _ _ _ _) fun _ => trivial
    | error e => exact asks_bindExcept (idle_emitQuery _ _ _ _ _ _) fun _ => trivial
  · intro fileInfo
    rw [SDKClient.checkSize]
    split <;> trivial

/-- The run of a transaction: its execution comes first, and gives the response. -/
theorem tryTransaction_run {transaction : Transaction} {callerName : String} {requestDetails : RequestDetails}
    {originalCallerAddress : String} {steps : List Step} {outcome : Except Thrown TransactionResponse}
    (ran : RanNoted (client.tryTransaction transaction callerName requestDetails originalCallerAddress).run steps outcome) :
    ∃ submission effect others, steps = (⟨.execute transaction, submission⟩, effect) :: others ∧
      (∀ step ∈ others, step.1.1.Plain) ∧
      ∀ transactionResponse, outcome = .ok transactionResponse → submission.outcome = .ok transactionResponse := by
  obtain ⟨submission, effect, others, rfl, answeredRun⟩ := ranNoted_ask_bind_iff.mp ran
  refine ⟨submission, effect, others, rfl, ?_⟩
  cases answered : submission.outcome with
  | error e =>
      rw [answered] at answeredRun
      obtain ⟨rfl, rfl⟩ := ranNoted_done_iff.mp answeredRun
      exact ⟨List.forall_mem_nil _, nofun⟩
  | ok transactionResponse =>
      rw [answered] at answeredRun
      have idle := (idle_answered client transaction requestDetails originalCallerAddress submission
        transactionResponse).mem answeredRun
      refine ⟨fun step member => (idle step.1 (List.mem_map_of_mem member)).plain, ?_⟩
      rintro final rfl
      obtain ⟨receipt, waited, others, rfl, settling⟩ := ranNoted_ask_bind_iff.mp answeredRun
      rcases ranNoted_bindExcept_iff.mp settling with ⟨_, _, _, rfl, _, ended⟩ | ⟨_, different, _⟩
      · obtain ⟨_, same⟩ := settled_eq transactionResponse submission receipt
        rw [same] at ended
        split at ended
        · cases (ranNoted_done_iff.mp ended).2
        · cases (ranNoted_done_iff.mp ended).2
          rfl
      · cases different

end Plain

section Tracking
variable {client : SDKClient} {operatorAccountId : Option String} {steps : List Step}

theorem FilesLawful.mono {part : List Step} (lawful : FilesLawful operatorAccountId steps)
    (within : ∀ step ∈ part, step ∈ steps) : FilesLawful operatorAccountId part where
  creator step member := lawful.creator step (within step member)
  receipt transaction submission effect transactionResponse reader receipt after fileId execution created answered reading :=
    lawful.receipt transaction submission effect transactionResponse reader receipt after fileId
      (within _ execution) created answered (within _ reading)

theorem Op.Plain.other {op : Op} (plain : op.Plain) (contents : String) : op ≠ .execute (.fileCreate contents) := by
  rintro rfl
  exact plain

theorem createdFiles_eq_nil (creator : ∀ step ∈ steps, ∀ fileId, step.created = some fileId →
      operatorAccountId ≠ none ∧ ∃ contents, step.1.1 = .execute (.fileCreate contents))
    (other : ∀ step ∈ steps, ∀ contents, step.1.1 ≠ .execute (.fileCreate contents)) : createdFiles steps = [] := by
  rw [createdFiles, List.filterMap_eq_nil_iff]
  intro step member
  cases created : step.created with
  | none => rfl
  | some fileId =>
      obtain ⟨_, contents, same⟩ := creator step member fileId created
      exact absurd same (other step member contents)

theorem createdFiles_plain (plain : ∀ step ∈ steps, step.1.1.Plain)
    (creator : ∀ step ∈ steps, ∀ fileId, step.created = some fileId →
      operatorAccountId ≠ none ∧ ∃ contents, step.1.1 = .execute (.fileCreate contents)) :
    createdFiles steps = [] :=
  createdFiles_eq_nil creator fun step member => (plain step member).other

theorem not_deleted {step : Step} (plain : step.1.1.Plain) (fileId : FileId) : step.deleted ≠ some fileId := by
  obtain ⟨⟨op, answer⟩, effect⟩ := step
  cases op with
  | deleteFile fileId requestDetails callerName interactingEntity originalCallerAddress => exact plain.elim
  | _ => nofun

theorem deletedFiles_eq_nil (plain : ∀ step ∈ steps, ∀ fileId, step.deleted ≠ some fileId) :
    deletedFiles steps = [] := by
  rw [deletedFiles, List.filterMap_eq_nil_iff]
  intro step member
  exact Option.eq_none_iff_forall_ne_some.mpr (plain step member)

/-- The run creates at most one file, and the identifier that it returns is the one of the
receipt of its creation; nothing is returned where it threw. -/
inductive Creates (steps : List Step) (returned : Option (Option FileId)) : Prop where
  | none (plain : ∀ step ∈ steps, step.1.1.Plain) (nothing : ∀ fileId, returned ≠ some (some fileId))
  | one (before after : List Step) (contents : String) (submission : Submission) (effect : Effect)
      (whole : steps = before ++ (⟨.execute (.fileCreate contents), submission⟩, effect) :: after)
      (plainBefore : ∀ step ∈ before, step.1.1.Plain) (plainAfter : ∀ step ∈ after, step.1.1.Plain)
      (received : ∀ result, returned = some result → ∃ fileId transactionResponse receipt waited, result = some fileId ∧
        submission.outcome = .ok transactionResponse ∧ receipt.fileId = some fileId ∧
        (⟨.getReceipt transactionResponse .createFile, .ok receipt⟩, waited) ∈ steps)

theorem Creates.prepend {first : List Step} {returned : Option (Option FileId)} (plain : ∀ step ∈ first, step.1.1.Plain)
    (creates : Creates steps returned) : Creates (first ++ steps) returned := by
  cases creates with
  | none plainRest nothing => exact .none (List.forall_mem_append.mpr ⟨plain, plainRest⟩) nothing
  | one before after contents submission effect whole plainBefore plainAfter received =>
      refine .one (first ++ before) after contents submission effect (by rw [whole, List.append_assoc])
        (List.forall_mem_append.mpr ⟨plain, plainBefore⟩) plainAfter ?_
      intro result same
      obtain ⟨fileId, transactionResponse, receipt, waited, rest⟩ := received result same
      exact ⟨fileId, transactionResponse, receipt, waited, rest.1, rest.2.1, rest.2.2.1,
        List.mem_append_right _ rest.2.2.2⟩

theorem Creates.append {second : List Step} {returned later : Option (Option FileId)} (creates : Creates steps returned)
    (plain : ∀ step ∈ second, step.1.1.Plain) (same : later = Option.none ∨ later = returned) :
    Creates (steps ++ second) later := by
  cases creates with
  | none plainFirst nothing =>
      refine .none (List.forall_mem_append.mpr ⟨plainFirst, plain⟩) ?_
      rcases same with rfl | rfl
      · exact nofun
      · exact nothing
  | one before after contents submission effect whole plainBefore plainAfter received =>
      refine .one before (after ++ second) contents submission effect (by rw [whole]; simp) plainBefore
        (List.forall_mem_append.mpr ⟨plainAfter, plain⟩) ?_
      rcases same with rfl | rfl
      · exact nofun
      · intro result same
        obtain ⟨fileId, transactionResponse, receipt, waited, rest⟩ := received result same
        exact ⟨fileId, transactionResponse, receipt, waited, rest.1, rest.2.1, rest.2.2.1,
          List.mem_append_left _ rest.2.2.2⟩

/-- Where a program returns, its last part does. -/
theorem ok_of_bind {call : Throwing First} {next : First → Throwing Second} {final : Second}
    (ran : RanNoted (call >>= next).run steps (.ok final)) :
    ∃ value, ∃ later : List Step, RanNoted (next value).run later (.ok final) := by
  rcases ranNoted_bindExcept_iff.mp ran with ⟨_, later, value, _, _, following⟩ | ⟨_, same, _⟩
  · exact ⟨value, later, following⟩
  · cases same

theorem asked_of_ran {program : Prog Op Answer Result} {result : Result} {asked : Op → Prop} (asks : program.Asks asked)
    (ran : RanNoted program steps result) : ∀ step ∈ steps, asked step.1.1 :=
  fun step member => asks.mem ran step.1 (List.mem_map_of_mem member)

/-- A creation that is followed by plain calls and throws. -/
theorem Creates.thrown {contents : String} {submission : Submission} {effect : Effect} {after : List Step}
    (plain : ∀ step ∈ after, step.1.1.Plain) :
    Creates ((⟨.execute (.fileCreate contents), submission⟩, effect) :: after) Option.none :=
  .one [] after contents submission effect rfl (List.forall_mem_nil _) plain nofun

/-- The file of a receipt, and nothing where there is none. -/
theorem createFile_run {callData : List UInt8} {requestDetails : RequestDetails}
    {callerName originalCallerAddress : String} {rate : Rat} {outcome : Except Thrown (Option FileId)}
    (ran : RanNoted (client.createFile callData requestDetails callerName originalCallerAddress rate).run steps outcome) :
    Creates steps (outcome.toOption.join.map some) := by
  have plainFirst := (idle_throwHbarLimit true callerName "createFile" originalCallerAddress requestDetails
    (some (estimateFileTransactionsFee (toHexText callData).length client.fileAppendChunkSize rate))).imp
      fun _ => Op.Idle.plain
  rcases ranNoted_bindExcept_iff.mp ran with ⟨limit, rest, _, rfl, limiting, creating⟩ | ⟨error, rfl, limiting⟩
  case inr => exact .none (asked_of_ran plainFirst limiting) nofun
  apply Creates.prepend (asked_of_ran plainFirst limiting)
  rcases ranNoted_bindExcept_iff.mp creating with ⟨first, rest, transactionResponse, rfl, executing, reading⟩ |
    ⟨error, rfl, executing⟩
  case inr =>
    obtain ⟨submission, effect, others, rfl, plain, _⟩ := tryTransaction_run client executing
    exact .thrown plain
  obtain ⟨submission, effect, others, rfl, plain, responded⟩ := tryTransaction_run client executing
  have response := responded transactionResponse rfl
  obtain ⟨answer, waited, rest, rfl, finishing⟩ := ranNoted_ask_bind_iff.mp reading
  match answer with
  | .error e =>
      obtain ⟨rfl, rfl⟩ := ranNoted_done_iff.mp finishing
      rw [List.cons_append]
      exact .thrown (List.forall_mem_append.mpr ⟨plain, List.forall_mem_singleton.mpr trivial⟩)
  | .ok ⟨status, none⟩ =>
      obtain ⟨rfl, rfl⟩ := ranNoted_done_iff.mp finishing
      rw [List.cons_append]
      exact .thrown (List.forall_mem_append.mpr ⟨plain, List.forall_mem_singleton.mpr trivial⟩)
  | .ok ⟨status, some fileId⟩ =>
      change RanNoted (client.appendToFile fileId callData requestDetails callerName originalCallerAddress >>= fun _ =>
        SDKClient.checkFile fileId requestDetails originalCallerAddress >>= fun _ => pure (some fileId)).run rest
        outcome at finishing
      have plainRest : ∀ step ∈ rest, step.1.1.Plain := by
        refine asked_of_ran ?_ finishing
        apply asks_bindExcept (plain_appendToFile client fileId callData requestDetails callerName originalCallerAddress)
        intro _
        exact asks_bindExcept ((idle_checkFile fileId requestDetails originalCallerAddress).imp fun _ => Op.Idle.plain)
          fun _ => trivial
      refine .one [] _ _ submission effect (List.cons_append) (List.forall_mem_nil _)
        (List.forall_mem_append.mpr ⟨plain, List.forall_mem_cons.mpr ⟨trivial, plainRest⟩⟩) ?_
      intro result same
      have own : result = some fileId := by
        cases outcome with
        | error error => cases same
        | ok created =>
            obtain ⟨_, _, checking⟩ := ok_of_bind finishing
            obtain ⟨_, _, returning⟩ := ok_of_bind checking
            cases (ranNoted_done_iff.mp returning).2
            exact (Option.some.inj same).symm
      exact ⟨fileId, transactionResponse, ⟨status, some fileId⟩, waited, own, response, rfl,
        List.mem_append_right _ List.mem_cons_self⟩

theorem prepareTransaction_run {ethereumTransactionData : EthereumTransactionData} {callerName : String}
    {requestDetails : RequestDetails} {originalCallerAddress : String} {networkGasPriceInWeiBars : Nat} {rate : Rat}
    {outcome : Except Thrown (Transaction × Option FileId)}
    (ran : RanNoted (client.prepareTransaction ethereumTransactionData callerName requestDetails originalCallerAddress
      networkGasPriceInWeiBars rate).run steps outcome) :
    Creates steps (outcome.toOption.map Prod.snd) ∧ ∀ transaction fileId, outcome = .ok (transaction, fileId) →
      ∀ contents, transaction ≠ .fileCreate contents := by
  rw [SDKClient.prepareTransaction] at ran
  split at ran
  · obtain ⟨rfl, rfl⟩ := ranNoted_done_iff.mp ran
    refine ⟨.none (List.forall_mem_nil _) ?_, ?_⟩
    · rintro _ ⟨⟩
    · rintro _ _ ⟨⟩ _ ⟨⟩
  · rcases ranNoted_bindExcept_iff.mp ran with ⟨first, rest, created, rfl, creating, ended⟩ | ⟨error, rfl, creating⟩
    · have creates := createFile_run creating
      cases created with
      | none =>
          obtain ⟨rfl, rfl⟩ := ranNoted_done_iff.mp ended
          rw [List.append_nil]
          refine ⟨creates, ?_⟩
          rintro _ _ ⟨⟩
      | some fileId =>
          obtain ⟨rfl, rfl⟩ := ranNoted_done_iff.mp ended
          rw [List.append_nil]
          refine ⟨creates, ?_⟩
          rintro _ _ ⟨⟩ _ ⟨⟩
    · refine ⟨createFile_run creating, ?_⟩
      rintro _ _ ⟨⟩

private theorem submitEthereumTransaction_run {transactionBuffer : List UInt8} {callerName : String}
    {requestDetails : RequestDetails} {originalCallerAddress : String} {networkGasPriceInWeiBars : Nat} {rate : Rat}
    {outcome : Except Thrown SDKClient.SubmittedTransaction}
    (ran : RanNoted (client.submitEthereumTransaction transactionBuffer callerName requestDetails originalCallerAddress
      networkGasPriceInWeiBars rate).run steps outcome) :
    Creates steps (outcome.toOption.map SDKClient.SubmittedTransaction.fileId) ∧
      ((∃ error, client.fromBytes transactionBuffer = .error error) → steps = []) := by
  rw [SDKClient.submitEthereumTransaction] at ran
  cases decoded : client.fromBytes transactionBuffer with
  | error error =>
      rw [decoded] at ran
      obtain ⟨rfl, rfl⟩ := ranNoted_done_iff.mp ran
      exact ⟨.none (List.forall_mem_nil _) nofun, fun _ => rfl⟩
  | ok ethereumTransactionData =>
      rw [decoded] at ran
      refine ⟨?_, nofun⟩
      change RanNoted (client.prepareTransaction ethereumTransactionData callerName requestDetails originalCallerAddress
        networkGasPriceInWeiBars rate >>= fun prepared => client.executeTransaction prepared.1 callerName requestDetails
          true originalCallerAddress none >>= fun txResponse =>
            pure { fileId := prepared.2, txResponse }).run steps outcome at ran
      rcases ranNoted_bindExcept_iff.mp ran with ⟨first, rest, ⟨transaction, fileId⟩, rfl, preparing, executing⟩ |
        ⟨error, rfl, preparing⟩
      case inr => exact (prepareTransaction_run preparing).1
      obtain ⟨creates, other⟩ := prepareTransaction_run preparing
      have plain : (client.executeTransaction transaction callerName requestDetails true originalCallerAddress
          none >>= fun txResponse => pure { fileId, txResponse } :
          Throwing SDKClient.SubmittedTransaction).run.Asks Op.Plain :=
        asks_bindExcept (plain_executeTransaction client (other transaction fileId rfl) _ _ _ _ _) fun _ => trivial
      apply creates.append (asked_of_ran plain executing)
      cases outcome with
      | error error => exact .inl rfl
      | ok submitted =>
          obtain ⟨_, _, returning⟩ := ok_of_bind executing
          cases (ranNoted_done_iff.mp returning).2
          exact .inr rfl

/-- At most one file is created, and what is returned is that file. -/
theorem Creates.only {returned : Option (Option FileId)} (creates : Creates steps returned)
    (lawful : FilesLawful operatorAccountId steps) :
    deletedFiles steps = [] ∧ ∀ fileId ∈ createdFiles steps, ∀ result, returned = some result → result = some fileId := by
  cases creates with
  | none plain nothing =>
      rw [createdFiles_plain plain lawful.creator]
      refine ⟨deletedFiles_eq_nil fun step member fileId => ?_, fun _ member => absurd member List.not_mem_nil⟩
      exact not_deleted (plain step member) fileId
  | one before after contents submission effect whole plainBefore plainAfter received =>
      subst whole
      obtain ⟨creatorBefore, creatorRest⟩ := List.forall_mem_append.mp lawful.creator
      obtain ⟨_, creatorAfter⟩ := List.forall_mem_cons.mp creatorRest
      constructor
      · apply deletedFiles_eq_nil
        rw [List.forall_mem_append, List.forall_mem_cons]
        exact ⟨fun step member => not_deleted (plainBefore step member), nofun,
          fun step member => not_deleted (plainAfter step member)⟩
      · intro fileId member result same
        obtain ⟨other, transactionResponse, receipt, waited, rfl, answered, own, reading⟩ := received result same
        rw [createdFiles, List.filterMap_append, ← createdFiles, createdFiles_plain plainBefore creatorBefore,
          List.nil_append, List.filterMap_cons, ← createdFiles, createdFiles_plain plainAfter creatorAfter] at member
        have created : effect.created = some fileId := by
          cases created : effect.created with
          | none => simp [Step.created, created] at member
          | some onlyFile => simpa [Step.created, created, eq_comm] using member
        have same := lawful.receipt (.fileCreate contents) submission effect transactionResponse .createFile receipt waited
          fileId (List.mem_append_right _ List.mem_cons_self) created answered reading
        exact own.symm.trans same

end Tracking

section Submission
variable {service : TransactionService} {steps : List Step}

private theorem clean_getCurrentNetworkExchangeRateInCents (requestDetails : RequestDetails) :
    Clean (fun _ => True) (TransactionService.getCurrentNetworkExchangeRateInCents requestDetails) := by
  have known : ∀ cached : Option ExchangeRate,
      Clean (fun _ => True) (TransactionService.currentRate requestDetails cached) := by
    intro cached
    cases cached with
    | some rate => exact clean_return trivial
    | none =>
        apply clean_awaited (fun _ => rfl)
        intro rate
        exact clean_awaited (fun _ => rfl) fun _ => clean_return trivial
  apply clean_awaited (fun _ => rfl)
  intro cached
  exact (known cached).then fun _ => clean_return trivial

theorem plain_getCurrentNetworkExchangeRateInCents (requestDetails : RequestDetails) :
    (TransactionService.getCurrentNetworkExchangeRateInCents requestDetails).run.Asks Op.Plain := by
  refine ⟨trivial, fun answer => ?_⟩
  match answer with
  | .error _ => trivial
  | .ok (some _) => trivial
  | .ok none =>
      refine ⟨trivial, fun answer => ?_⟩
      match answer with
      | .error _ => trivial
      | .ok _ =>
          refine ⟨trivial, fun answer => ?_⟩
          match answer with
          | .error _ => trivial
          | .ok () => trivial

private theorem clean_trySubmit {operatorAccountId : String}
    (operator : service.client.operatorAccountId = some operatorAccountId)
    {transactionBuffer : List UInt8} {ethereumTransactionData : EthereumTransactionData}
    (decoded : service.client.fromBytes transactionBuffer = .ok ethereumTransactionData)
    (originalCallerAddress : String) (networkGasPriceInWeiBars : Nat) (requestDetails : RequestDetails) :
    Clean (fun _ => True) (service.trySubmit transactionBuffer originalCallerAddress networkGasPriceInWeiBars
      requestDetails) :=
  (clean_getCurrentNetworkExchangeRateInCents requestDetails).then fun _ =>
    clean_submitEthereumTransaction service.client operator decoded _ _ _ _ _

/-- Only bytes that can be read lead to a file. -/
theorem trySubmit_run {transactionBuffer : List UInt8} {originalCallerAddress : String} {networkGasPriceInWeiBars : Nat}
    {requestDetails : RequestDetails} {outcome : Except Thrown SDKClient.SubmittedTransaction}
    (ran : RanNoted (service.trySubmit transactionBuffer originalCallerAddress networkGasPriceInWeiBars
      requestDetails).run steps outcome) :
    Creates steps (outcome.toOption.map SDKClient.SubmittedTransaction.fileId) ∧
      ((∃ error, service.client.fromBytes transactionBuffer = .error error) → ∀ step ∈ steps, step.1.1.Plain) := by
  rcases ranNoted_bindExcept_iff.mp ran with ⟨first, rest, rate, rfl, reading, submitting⟩ | ⟨error, rfl, reading⟩
  · have plain := asked_of_ran (plain_getCurrentNetworkExchangeRateInCents requestDetails) reading
    obtain ⟨creates, unreadable⟩ := submitEthereumTransaction_run submitting
    refine ⟨creates.prepend plain, fun failed => ?_⟩
    rw [unreadable failed, List.append_nil]
    exact plain
  · have plain := asked_of_ran (plain_getCurrentNetworkExchangeRateInCents requestDetails) reading
    exact ⟨.none plain nofun, fun _ => plain⟩

/-- The submission, and the deletion of the file that came back with the answer. -/
theorem submitTransaction_run {transactionBuffer : List UInt8} {originalCallerAddress : String}
    {networkGasPriceInWeiBars : Nat} {requestDetails : RequestDetails} {result : SubmissionResult}
    (ran : RanNoted (service.submitTransaction transactionBuffer originalCallerAddress networkGasPriceInWeiBars
      requestDetails) steps result) :
    ∃ first rest outcome, steps = first ++ rest ∧
      RanNoted (service.trySubmit transactionBuffer originalCallerAddress networkGasPriceInWeiBars
        requestDetails).run first outcome ∧
      rest.filterMap Step.deleted = (outcome.toOption.bind SDKClient.SubmittedTransaction.fileId).toList ∧
      ∀ step ∈ rest, ∃ fileId requestDetails callerName interactingEntity originalCallerAddress,
        step.1.1 = .deleteFile fileId requestDetails callerName interactingEntity originalCallerAddress := by
  obtain ⟨first, rest, outcome, rfl, trying, ended⟩ := ranNoted_bind_iff.mp ran
  refine ⟨first, rest, outcome, rfl, trying, ?_⟩
  match outcome, ended with
  | .error e, ended =>
      obtain ⟨rfl, _⟩ := ranNoted_done_iff.mp ended
      exact ⟨rfl, List.forall_mem_nil _⟩
  | .ok ⟨txResponse, none⟩, ended =>
      obtain ⟨rfl, _⟩ := ranNoted_done_iff.mp ended
      exact ⟨rfl, List.forall_mem_nil _⟩
  | .ok ⟨txResponse, some fileId⟩, ended =>
      obtain ⟨answer, effect, others, rfl, finishing⟩ := ranNoted_call_iff.mp ended
      obtain ⟨rfl, _⟩ := ranNoted_done_iff.mp finishing
      exact ⟨rfl, List.forall_mem_singleton.mpr ⟨_, _, _, _, _, rfl⟩⟩

/-- A call before or after the submission. -/
def Op.Outside : Op → Prop
  | .emitEthExecution _ | .getGasPriceInWeibars _ | .sendRawTransactionCheck _ _ _ | .getContractResult _ _
  | .getAccount _ _ | .setTimeout _ | .getContractRevertReasonFromTransaction _ _ | .decrementErrorCounter _ => True
  | _ => False

theorem Op.Outside.plain {op : Op} (outside : op.Outside) : op.Plain := by
  cases op with
  | execute transaction => exact outside.elim
  | deleteFile fileId requestDetails callerName interactingEntity originalCallerAddress => exact outside.elim
  | _ => trivial

theorem Op.Outside.unfailing {op : Op} (outside : op.Outside) (answer : Answer op) : fails ⟨op, answer⟩ = false := by
  cases op with
  | emitEthExecution requestDetails => rfl
  | getGasPriceInWeibars requestDetails => rfl
  | sendRawTransactionCheck parsedTx gasPrice requestDetails => rfl
  | getContractResult transactionId requestDetails => rfl
  | getAccount address requestDetails => rfl
  | setTimeout delay => rfl
  | getContractRevertReasonFromTransaction error requestDetails => rfl
  | decrementErrorCounter status => rfl
  | _ => exact outside.elim

private theorem outside_updatedNonce (parsedTx : EthersTransaction) (requestDetails : RequestDetails)
    (roundsLeft : Nat) :
    (service.updatedNonce parsedTx requestDetails roundsLeft).run.Asks Op.Outside := by
  induction roundsLeft with
  | zero => trivial
  | succ roundsLeft ih =>
      refine ⟨trivial, fun answer => ?_⟩
      match answer with
      | .error _ => trivial
      | .ok nonce =>
          change (if nonce ≠ parsedTx.nonce then return some nonce else
            ask (.setTimeout service.mirrorNodeRetryDelay) >>= fun _ =>
              service.updatedNonce parsedTx requestDetails roundsLeft : Throwing (Option Nat)).run.Asks Op.Outside
          split
          · trivial
          · exact ⟨trivial, fun _ => ih⟩

theorem outside_unhandledError (e : Option Thrown) (transactionBuffer : List UInt8) (txSubmitted : Bool)
    (requestDetails : RequestDetails) :
    (service.unhandledError e transactionBuffer txSubmitted requestDetails).run.Asks Op.Outside := by
  match e, txSubmitted with
  | none, false => trivial
  | some e, false => trivial
  | none, true => trivial
  | some e, true =>
      refine ⟨trivial, fun answer => ?_⟩
      match answer with
      | .ok () => trivial
      | .error _ => trivial

private theorem outside_wrongNonceError (parsedTx : EthersTransaction) (requestDetails : RequestDetails) :
    (service.wrongNonceError parsedTx requestDetails).run.Asks Op.Outside := by
  apply asks_bindExcept (outside_updatedNonce parsedTx requestDetails _)
  intro updated
  dsimp only
  split
  · trivial
  · split <;> trivial

theorem outside_sendRawTransactionErrorHandler (e : Option Thrown) (transactionBuffer : List UInt8) (txSubmitted : Bool)
    (parsedTx : EthersTransaction) (requestDetails : RequestDetails) :
    (service.sendRawTransactionErrorHandler e transactionBuffer txSubmitted parsedTx requestDetails).run.Asks
      Op.Outside := by
  match e with
  | none => exact outside_unhandledError none transactionBuffer txSubmitted requestDetails
  | some (.jsonRpc error) => trivial
  | some (.other message) => exact outside_unhandledError _ transactionBuffer txSubmitted requestDetails
  | some (.sdk error) => exact outside_unhandledError _ transactionBuffer txSubmitted requestDetails
  | some (.sdkClient error) =>
      refine ⟨trivial, fun _ => ?_⟩
      change (if error.status = .wrongNonce then service.wrongNonceError parsedTx requestDetails else
        service.unhandledError (some (.sdkClient error)) transactionBuffer txSubmitted requestDetails).run.Asks Op.Outside
      split
      · exact outside_wrongNonceError parsedTx requestDetails
      · exact outside_unhandledError _ transactionBuffer txSubmitted requestDetails

theorem outside_polled (polled : Except Thrown String) (transactionBuffer : List UInt8) (txSubmitted : Bool)
    (parsedTx : EthersTransaction) (requestDetails : RequestDetails) :
    (match polled with
      | .ok hash => return .hash hash
      | .error e => service.sendRawTransactionErrorHandler (some e) transactionBuffer txSubmitted parsedTx
          requestDetails : Throwing RawTransactionAnswer).run.Asks Op.Outside := by
  cases polled with
  | ok hash => trivial
  | error e => exact outside_sendRawTransactionErrorHandler _ _ _ _ _

/-- Around the submission there are only calls that neither create nor delete a file. -/
theorem sendRawTransactionProcessor_run {transactionBuffer : List UInt8} {parsedTx : EthersTransaction}
    {networkGasPriceInWeiBars : Nat} {requestDetails : RequestDetails} {outcome : Except Thrown RawTransactionAnswer}
    (ran : RanNoted (service.sendRawTransactionProcessor transactionBuffer parsedTx networkGasPriceInWeiBars
      requestDetails).run steps outcome) :
    ∃ before submission after originalCallerAddress result, steps = before ++ submission ++ after ∧
      (∀ step ∈ before, step.1.1.Outside) ∧ (∀ step ∈ after, step.1.1.Outside) ∧
      RanNoted (service.submitTransaction transactionBuffer originalCallerAddress networkGasPriceInWeiBars
        requestDetails) submission result := by
  obtain ⟨_, note, others, rfl, rest⟩ := ranNoted_ask_bind_iff.mp ran
  obtain ⟨submission, after, result, rfl, submitting, handling⟩ := ranNoted_lift_bind_iff.mp rest
  refine ⟨[_], submission, after, _, result, rfl, List.forall_mem_singleton.mpr trivial, ?_, submitting⟩
  refine asked_of_ran ?_ handling
  split
  · refine ⟨trivial, fun contractResult => ?_⟩
    exact outside_polled _ _ _ _ _
  · exact outside_sendRawTransactionErrorHandler _ _ _ _ _

private theorem sendRawTransaction_run {transaction : String} {requestDetails : RequestDetails}
    {outcome : Except Thrown RawTransactionAnswer}
    (ran : RanNoted (service.sendRawTransaction transaction requestDetails).run steps outcome) :
    (∀ step ∈ steps, step.1.1.Outside) ∨
    ∃ before submission after transactionBuffer originalCallerAddress networkGasPriceInWeiBars result,
      steps = before ++ submission ++ after ∧
      (∀ step ∈ before, step.1.1.Outside) ∧ (∀ step ∈ after, step.1.1.Outside) ∧
      RanNoted (service.submitTransaction transactionBuffer originalCallerAddress networkGasPriceInWeiBars
        requestDetails) submission result := by
  rw [TransactionService.sendRawTransaction] at ran
  cases parsed : service.parseRawTransaction transaction with
  | error error =>
      rw [parsed] at ran
      obtain ⟨rfl, _⟩ := ranNoted_done_iff.mp ran
      exact .inl (List.forall_mem_nil _)
  | ok parsedTx =>
      rw [parsed] at ran
      obtain ⟨priced, pricing, others, rfl, rest⟩ := ranNoted_ask_bind_iff.mp ran
      match priced with
      | .error error =>
          obtain ⟨rfl, _⟩ := ranNoted_done_iff.mp rest
          exact .inl (List.forall_mem_singleton.mpr trivial)
      | .ok gasPrice =>
          obtain ⟨checked, checking, others, rfl, following⟩ := ranNoted_ask_bind_iff.mp rest
          match checked with
          | .error error =>
              obtain ⟨rfl, _⟩ := ranNoted_done_iff.mp following
              exact .inl (List.forall_mem_cons.mpr ⟨trivial, List.forall_mem_singleton.mpr trivial⟩)
          | .ok () =>
              obtain ⟨processing, ended, processed, rfl, processor, answering⟩ := ranNoted_lift_bind_iff.mp following
              have none : ended = [] := by
                split at answering
                · exact (ranNoted_done_iff.mp answering).1
                · exact (ranNoted_done_iff.mp answering).1
              subst none
              obtain ⟨before, submission, after, originalCallerAddress, result, rfl, outsideBefore, outsideAfter,
                submitting⟩ := sendRawTransactionProcessor_run processor
              refine .inr ⟨_ :: _ :: before, submission, after, _, originalCallerAddress, _, result,
                by rw [List.append_nil]; rfl, ?_, outsideAfter, submitting⟩
              exact List.forall_mem_cons.mpr ⟨trivial, List.forall_mem_cons.mpr ⟨trivial, outsideBefore⟩⟩

end Submission

/-- The file of a raw transaction is deleted, and no other one, exactly if no call of its
submission fails. -/
theorem TransactionService.deletesFile_iff_unfailing (service : TransactionService) (transaction : String)
    (requestDetails : RequestDetails) (steps : List Step) (outcome : Except Thrown RawTransactionAnswer)
    (ran : RanNoted (service.sendRawTransaction transaction requestDetails).run steps outcome)
    (lawful : FilesLawful service.client.operatorAccountId steps) :
    ∀ fileId ∈ createdFiles steps, deletedFiles steps = [fileId] ↔ Unfailing steps := by
  intro fileId member
  rcases sendRawTransaction_run ran with outside | ⟨before, submission, after, transactionBuffer,
    originalCallerAddress, networkGasPriceInWeiBars, result, rfl, outsideBefore, outsideAfter, submitting⟩
  · rw [createdFiles_plain (fun step member => (outside step member).plain) lawful.creator] at member
    exact absurd member List.not_mem_nil
  obtain ⟨first, rest, submitted, rfl, trying, deleted, deletions⟩ := submitTransaction_run submitting
  obtain ⟨creates, unreadable⟩ := trySubmit_run trying
  have inFirst : ∀ step ∈ first, step ∈ before ++ (first ++ rest) ++ after := by
    intro step member
    exact List.mem_append_left _ (List.mem_append_right _ (List.mem_append_left _ member))
  have lawfulFirst := lawful.mono inFirst
  have createdHere : fileId ∈ createdFiles first := by
    have noneIn : ∀ part : List Step, (∀ step ∈ part, step ∈ before ++ (first ++ rest) ++ after) →
        (∀ step ∈ part, ∀ contents, step.1.1 ≠ .execute (.fileCreate contents)) → createdFiles part = [] :=
      fun part within other => createdFiles_eq_nil (lawful.mono within).creator other
    have beforeNone := noneIn before (fun step member => by simp [member])
      fun step member => (outsideBefore step member).plain.other
    have afterNone := noneIn after (fun step member => by simp [member])
      fun step member => (outsideAfter step member).plain.other
    have restNone := noneIn rest (fun step member => by simp [member]) fun step member contents same => by
      obtain ⟨_, _, _, _, _, other⟩ := deletions step member
      rw [same] at other
      cases other
    simp only [createdFiles, List.filterMap_append] at member beforeNone afterNone restNone ⊢
    simpa [beforeNone, afterNone, restNone] using member
  obtain ⟨notDeleted, own⟩ := creates.only lawfulFirst
  have deletedBy : deletedFiles (before ++ (first ++ rest) ++ after) =
      (submitted.toOption.bind SDKClient.SubmittedTransaction.fileId).toList := by
    have beforeNone : deletedFiles before = [] :=
      deletedFiles_eq_nil fun step member => not_deleted (outsideBefore step member).plain
    have afterNone : deletedFiles after = [] :=
      deletedFiles_eq_nil fun step member => not_deleted (outsideAfter step member).plain
    simp only [deletedFiles, List.filterMap_append] at notDeleted beforeNone afterNone ⊢
    rw [beforeNone, notDeleted, afterNone, deleted, List.nil_append, List.nil_append, List.append_nil]
  have unfailingBy : Unfailing (before ++ (first ++ rest) ++ after) ↔ Unfailing first := by
    have restUnfailing : ∀ step ∈ rest, fails step.1 = false := by
      rintro ⟨⟨op, answer⟩, effect⟩ member
      obtain ⟨_, _, _, _, _, rfl⟩ := deletions _ member
      rfl
    simp only [Unfailing, List.forall_mem_append]
    exact ⟨fun whole => whole.1.2.1, fun firstUnfailing =>
      ⟨⟨fun step member => (outsideBefore step member).unfailing _, firstUnfailing, restUnfailing⟩,
        fun step member => (outsideAfter step member).unfailing _⟩⟩
  obtain ⟨operatorAccountId, operator⟩ : ∃ operatorAccountId, service.client.operatorAccountId = some operatorAccountId := by
    obtain ⟨step, creating, created⟩ := List.mem_filterMap.mp createdHere
    exact Option.ne_none_iff_exists'.mp (lawfulFirst.creator step creating fileId created).1
  obtain ⟨ethereumTransactionData, decoded⟩ : ∃ ethereumTransactionData,
      service.client.fromBytes transactionBuffer = .ok ethereumTransactionData := by
    cases decoded : service.client.fromBytes transactionBuffer with
    | ok ethereumTransactionData => exact ⟨ethereumTransactionData, rfl⟩
    | error error =>
        rw [createdFiles_plain (unreadable ⟨error, decoded⟩) lawfulFirst.creator] at createdHere
        exact absurd createdHere List.not_mem_nil
  rw [deletedBy, unfailingBy, ← clean_trySubmit operator decoded _ _ _ first submitted trying]
  cases submitted with
  | error e => exact iff_of_false nofun nofun
  | ok result =>
      refine iff_of_true ?_ ⟨result, rfl, trivial⟩
      change result.fileId.toList = [fileId]
      rw [own fileId createdHere result.fileId rfl]
      rfl

def largeData : EthereumTransactionData := { toAddress := "0x5", callData := [1, 2], otherFields := [] }

/-- A service that puts call data of more than one byte in a file. -/
def fileService : TransactionService where
  relay := {
    chain := "0x12a"
    hederaSpecificRevertStatuses := []
    mirrorNodeRequestRetryCount := 3
    gasPricePercentageBuffer := 0
    transactionCountMaxBlockRange := 1000
    maxBlockRange := 5
    blockRangeLimit := 1000
    exceedsTimestampRange := fun _ _ => false
    keccak256 := fun _ => Vector.replicate 32 0
    getRootHash := fun _ => ""
    uniqTransactions := .firstKept
    uniqHashes := .firstKept }
  client := {
    operatorAccountId := some "0.0.2"
    maxChunks := 20
    fileAppendChunkSize := 1
    jumboTxEnabled := false
    contractQueryTimeoutRetries := 3
    maxTransactionFeeThreshold := 15000000
    fromBytes := fun _ => .ok largeData }
  useAsyncTxProcessing := false
  mirrorNodeRetryDelay := 250
  fromHex := fun _ => []
  parseRawTransaction := fun _ => .ok { sender := some "0xa", nonce := 0 }
  computeTransactionHash := fun _ => "0x0"

def callerRequest : RequestDetails := { requestId := "1", ipAddress := "127.0.0.1" }

def unnoticed : Effect := { charges := [], created := none }

/-- The calls up to the receipt of the created file. -/
def fileCreatedSteps : List Step := [
  (⟨.getGasPriceInWeibars callerRequest, .ok 100⟩, unnoticed),
  (⟨.sendRawTransactionCheck { sender := some "0xa", nonce := 0 } 100 callerRequest, .ok ()⟩, unnoticed),
  (⟨.emitEthExecution callerRequest, ()⟩, unnoticed),
  (⟨.cachedExchangeRate callerRequest, .ok (some { centEquivalent := 12, hbarEquivalent := 1 })⟩, unnoticed),
  (⟨.shouldLimit .TRANSACTION "eth_sendRawTransaction" "createFile" "0xa" callerRequest
    (some (estimateFileTransactionsFee 4 1 ((12 : Nat) / (1 : Nat)))), .ok false⟩, unnoticed),
  (⟨.execute (.fileCreate "0"),
    { outcome := .ok { transactionId := "0.0.2@1.1" }, transactionId := some "0.0.2@1.1" }⟩,
    { charges := [{ executionMode := .TRANSACTION, transactionId := "0.0.2@1.1", cost := 100 }], created := some "0.0.9" }),
  (⟨.getReceipt { transactionId := "0.0.2@1.1" } .executeTransaction,
    .ok { status := .success, fileId := some "0.0.9" }⟩, unnoticed),
  (⟨.emit (.executeTransaction {
      transactionId := "0.0.2@1.1", requestDetails := callerRequest, txConstructorName := "FileCreateTransaction"
      operatorAccountId := "0.0.2", originalCallerAddress := "0xa" }), ()⟩, unnoticed),
  (⟨.getReceipt { transactionId := "0.0.2@1.1" } .createFile,
    .ok { status := .success, fileId := some "0.0.9" }⟩, unnoticed)]

def appended (answer : Except SdkError (List TransactionResponse)) : Step :=
  (⟨.executeAll { fileId := "0.0.9", contents := "102", chunkSize := 1, maxChunks := 20 }, answer⟩, unnoticed)

/-- The append fails, and the error is the answer. -/
def appendFailedSteps : List Step :=
  fileCreatedSteps ++ [
    appended (.error { status := none, message := "append failed" }),
    (⟨.decrementErrorCounter .unknown, ()⟩, unnoticed)]

private theorem appendFailedSteps_ran :
    RanNoted (fileService.sendRawTransaction "0x01" callerRequest).run appendFailedSteps
      (.ok (.error (Relay.predefined.INTERNAL_ERROR "append failed"))) :=
  .call (.call (.call (.call (.call (.call (.call (.call (.call (.call (.call .done))))))))))

/-- Only the execution of the creation creates a file, and the receipts have it. -/
theorem lawful_fileCreatedSteps {after : List Step} (later : ∀ step ∈ after, step.created = none)
    (receipts : ∀ transactionResponse reader receipt effect,
      (⟨.getReceipt transactionResponse reader, .ok receipt⟩, effect) ∈ after → transactionResponse ≠ ⟨"0.0.2@1.1"⟩) :
    FilesLawful (some "0.0.2") (fileCreatedSteps ++ after) where
  creator := by
    intro step member fileId created
    rcases List.mem_append.mp member with first | second
    · refine ⟨nofun, ?_⟩
      simp only [fileCreatedSteps, List.mem_cons, List.not_mem_nil, or_false] at first
      rcases first with rfl | rfl | rfl | rfl | rfl | rfl | rfl | rfl | rfl <;> cases created
      exact ⟨_, rfl⟩
    · rw [later step second] at created
      cases created
  receipt := by
    intro transaction submission effect transactionResponse reader receipt waited fileId execution created answered reading
    have own : effect.created = some "0.0.9" ∧ submission.outcome = .ok ⟨"0.0.2@1.1"⟩ := by
      rcases List.mem_append.mp execution with first | second
      · simp only [fileCreatedSteps, List.mem_cons, List.not_mem_nil, or_false] at first
        rcases first with first | first | first | first | first | first | first | first | first <;> cases first
        exact ⟨rfl, rfl⟩
      · have none : effect.created = none := later _ second
        rw [none] at created
        cases created
    cases own.1.symm.trans created
    cases own.2.symm.trans answered
    rcases List.mem_append.mp reading with first | second
    · simp only [fileCreatedSteps, List.mem_cons, List.not_mem_nil, or_false] at first
      rcases first with first | first | first | first | first | first | first | first | first <;> cases first <;> rfl
    · exact absurd rfl (receipts _ _ _ _ second)

theorem deletesFile_appendFailed_fails :
    ¬ ∀ (steps : List Step) outcome, RanNoted (fileService.sendRawTransaction "0x01" callerRequest).run steps outcome →
      FilesLawful fileService.client.operatorAccountId steps →
      ∀ fileId ∈ createdFiles steps, deletedFiles steps = [fileId] := by
  intro deletes
  have deleted := deletes appendFailedSteps _ appendFailedSteps_ran
    (lawful_fileCreatedSteps (by simp [appended, unnoticed, Step.created]) (by simp [appended])) "0.0.9" (by decide)
  cases deleted

def ethereumTransaction : Transaction := .ethereum { largeData with callData := [] } (some "0.0.9") 15000000

/-- All calls are answered, and the file is deleted in the end. -/
def submittedSteps : List Step :=
  fileCreatedSteps ++ [
    appended (.ok []),
    (⟨.executeQuery (.fileInfo "0.0.9") SDKClient.unpaid,
      { outcome := .ok { size := 2, isDeleted := false }, payment := SDKClient.unpaid }⟩, unnoticed),
    (⟨.shouldLimit .TRANSACTION "eth_sendRawTransaction" "EthereumTransaction" "0xa" callerRequest none, .ok false⟩,
      unnoticed),
    (⟨.execute ethereumTransaction,
      { outcome := .ok { transactionId := "0.0.2@2.1" }, transactionId := some "0.0.2@2.1" }⟩, unnoticed),
    (⟨.getReceipt { transactionId := "0.0.2@2.1" } .executeTransaction, .ok { status := .success, fileId := none }⟩,
      unnoticed),
    (⟨.emit (.executeTransaction {
        transactionId := "0.0.2@2.1", requestDetails := callerRequest, txConstructorName := "EthereumTransaction"
        operatorAccountId := "0.0.2", originalCallerAddress := "0xa" }), ()⟩, unnoticed),
    (⟨.deleteFile "0.0.9" callerRequest "eth_sendRawTransaction" "0.0.9" "0xa", ()⟩, unnoticed),
    (⟨.getContractResult (formatTransactionIdWithoutQueryParams "0.0.2@2.1")
      { callerRequest with ipAddress := MASKED_IP_ADDRESS }, some (some "0x7")⟩, unnoticed)]

theorem submittedSteps_ran :
    RanNoted (fileService.sendRawTransaction "0x01" callerRequest).run submittedSteps (.ok (.hash "0x7")) :=
  .call (.call (.call (.call (.call (.call (.call (.call (.call (.call (.call (.call (.call (.call (.call (.call (.call
    .done))))))))))))))))

theorem deletesFile_submitted : deletedFiles submittedSteps = ["0.0.9"] := by
  refine (TransactionService.deletesFile_iff_unfailing fileService "0x01" callerRequest submittedSteps _
    submittedSteps_ran (lawful_fileCreatedSteps ?_ ?_) "0.0.9" (by decide)).mpr ?_
  · simp [appended, unnoticed, Step.created]
  · simp +contextual [appended]
  · simp [Unfailing, submittedSteps, fileCreatedSteps, appended, fails, Except.isOk, Except.toBool]

end HieroRelay.Hapi
