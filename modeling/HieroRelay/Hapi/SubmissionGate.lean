import HieroRelay.Hapi.FileCleanup
import HieroRelay.Lib.Guarded

/-! What has happened before `eth_sendRawTransaction` sends anything to the network: the price is
known, the prechecks have passed, the limiter has let the transaction through, and every file is
one that was created for it. -/

namespace HieroRelay.Hapi

open HieroRelay.Blocks (strip0x)
open HieroRelay.Lib (Exchange Prog Ran Returns Trail asks_bindExcept guards_bindExcept guards_lift_bind returns_error
  returns_ok)
open HieroRelay.Relay (RequestDetails)

/-- The calls so far, with their answers. -/
abbrev Calls := Trail Op Answer

/-- No Ethereum transaction was sent. -/
def Unsent (history : Calls) : Prop :=
  ∀ exchange ∈ history, ∀ ethereumData fileId fee, exchange.1 ≠ .execute (.ethereum ethereumData fileId fee)

/-- A file was created with these contents. -/
def CreatedFile (history : Calls) (contents : String) (fileId : FileId) : Prop :=
  ∃ submission transactionResponse receipt,
    (⟨.execute (.fileCreate contents), submission⟩ : Exchange Op Answer) ∈ history ∧
      submission.outcome = .ok transactionResponse ∧
      (⟨.getReceipt transactionResponse .createFile, .ok receipt⟩ : Exchange Op Answer) ∈ history ∧
      receipt.fileId = some fileId

/-- The rate is one that was cached or that the network was asked for. -/
def KnownRate (history : Calls) (requestDetails : RequestDetails) (rateInCents : Rat) : Prop :=
  ∃ rate : ExchangeRate, rateInCents = (rate.centEquivalent : Rat) / rate.hbarEquivalent ∧
    ((⟨.cachedExchangeRate requestDetails, .ok (some rate)⟩ : Exchange Op Answer) ∈ history ∨
      (⟨.getNetworkExchangeRate requestDetails, .ok rate⟩ : Exchange Op Answer) ∈ history)

/-- A call that the operator does not pay for, and that deletes no file. -/
def Op.Unpaid : Op → Prop
  | .execute _ | .executeAll _ | .executeQuery _ _ | .deleteFile _ _ _ _ _ => False
  | _ => True

/-- The submission of one raw transaction. -/
structure RawSubmission where
  client : SDKClient
  ethereumTransactionData : EthereumTransactionData
  requestDetails : RequestDetails
  originalCallerAddress : String
  networkGasPriceInWeiBars : Nat

namespace RawSubmission

variable (submission : RawSubmission) (history : Calls)

/-- The last call was the one of the limiter, which did not refuse. -/
def LetThrough (txConstructorName : String) (estimatedTxFee : Option Int) : Prop :=
  ∃ earlier, history = earlier ++ [⟨.shouldLimit .TRANSACTION ETH_SEND_RAW_TRANSACTION txConstructorName
    submission.originalCallerAddress submission.requestDetails estimatedTxFee, .ok false⟩]

def firstChunk : String :=
  String.ofList ((toHexText submission.ethereumTransactionData.callData).take submission.client.fileAppendChunkSize)

def otherChunks : String :=
  String.ofList ((toHexText submission.ethereumTransactionData.callData).drop submission.client.fileAppendChunkSize)

def maxTransactionFee : Nat :=
  weibarHexToTinyBarInt submission.networkGasPriceInWeiBars * submission.client.maxTransactionFeeThreshold

/-- The transaction is the one of the request, with its call data or with the file that holds it. -/
def Carries (ethereumData : EthereumTransactionData) : Option FileId → Prop
  | none => ethereumData = submission.ethereumTransactionData
  | some fileId => ethereumData = { submission.ethereumTransactionData with callData := [] } ∧
      CreatedFile history submission.firstChunk fileId

/-- What may be called after the history. -/
def Permits : Op → Prop
  | .execute (.ethereum ethereumData callDataFileId maxTransactionFee) =>
      Unsent history ∧ submission.LetThrough history "EthereumTransaction" none ∧
        submission.Carries history ethereumData callDataFileId ∧ maxTransactionFee = submission.maxTransactionFee
  | .execute (.fileCreate contents) => Unsent history ∧ contents = submission.firstChunk ∧
      ∃ rate, KnownRate history submission.requestDetails rate ∧
        submission.LetThrough history "createFile" (some (estimateFileTransactionsFee
          (toHexText submission.ethereumTransactionData.callData).length submission.client.fileAppendChunkSize rate))
  | .execute (.fileDelete _) => False
  | .executeAll transaction => CreatedFile history submission.firstChunk transaction.fileId ∧
      transaction.contents = submission.otherChunks
  | .executeQuery query _ => ∃ fileId, query = .fileInfo fileId ∧ CreatedFile history submission.firstChunk fileId
  | .deleteFile fileId _ _ _ _ => CreatedFile history submission.firstChunk fileId
  | _ => True

end RawSubmission

section Histories
variable {history more : Calls} {contents : String} {fileId : FileId} {requestDetails : RequestDetails} {rate : Rat}

theorem CreatedFile.append (created : CreatedFile history contents fileId) (more : Calls) :
    CreatedFile (history ++ more) contents fileId := by
  obtain ⟨submission, transactionResponse, receipt, executed, outcome, received, known⟩ := created
  exact ⟨submission, transactionResponse, receipt, List.mem_append_left _ executed, outcome,
    List.mem_append_left _ received, known⟩

theorem KnownRate.append (known : KnownRate history requestDetails rate) (more : Calls) :
    KnownRate (history ++ more) requestDetails rate := by
  obtain ⟨exchangeRate, same, cached | asked⟩ := known
  · exact ⟨exchangeRate, same, .inl (List.mem_append_left _ cached)⟩
  · exact ⟨exchangeRate, same, .inr (List.mem_append_left _ asked)⟩

theorem Unsent.append (unsent : Unsent history) (also : Unsent more) : Unsent (history ++ more) := by
  intro exchange member
  rcases List.mem_append.mp member with old | new
  · exact unsent exchange old
  · exact also exchange new

theorem unsent_of_unpaid (unpaid : ∀ exchange ∈ more, exchange.1.Unpaid) : Unsent more := by
  intro exchange member ethereumData fileId fee same
  have free := unpaid exchange member
  rw [same] at free
  exact free

theorem unsent_singleton {op : Op} {answer : Answer op}
    (other : ∀ ethereumData fileId fee, op ≠ .execute (.ethereum ethereumData fileId fee)) :
    Unsent [⟨op, answer⟩] :=
  List.forall_mem_singleton.mpr other

theorem Unsent.unpaid (unsent : Unsent history) {op : Op} {answer : Answer op} (unpaid : op.Unpaid) :
    Unsent (history ++ [⟨op, answer⟩]) :=
  unsent.append (unsent_of_unpaid (List.forall_mem_singleton.mpr unpaid))

theorem Unsent.check (unsent : Unsent history) {mode : ExecutionMode}
    {callerName txConstructorName originalCallerAddress : String} {estimatedTxFee : Option Int}
    {answer : Except Thrown Bool} :
    Unsent (history ++ [⟨.shouldLimit mode callerName txConstructorName originalCallerAddress requestDetails
      estimatedTxFee, answer⟩]) :=
  unsent.unpaid trivial

end Histories

theorem guards_ask_bind_iff {allowed : Calls → Op → Prop} {history : Calls} {op : Op}
    {next : Answer op → Throwing Second} {post : Calls → Except Thrown Second → Prop} :
    (ask op >>= next).run.Guards allowed post history ↔
      allowed history op ∧ ∀ answer, (next answer).run.Guards allowed post (history ++ [⟨op, answer⟩]) := by
  rw [ask, ExceptT.run_bind_lift]
  exact Iff.rfl

section Unpaid
variable (client : SDKClient)

theorem unpaid_emitTransaction (transactionId : TransactionId) (requestDetails : RequestDetails)
    (txConstructorName originalCallerAddress : String) :
    (client.emitTransaction transactionId requestDetails txConstructorName originalCallerAddress).run.Asks
      Op.Unpaid := by
  rw [SDKClient.emitTransaction]
  split
  · exact ⟨trivial, fun _ => trivial⟩
  · trivial

private theorem unpaid_emitTransactions (requestDetails : RequestDetails) (originalCallerAddress : String)
    (transactionResponses : List TransactionResponse) :
    (client.emitTransactions requestDetails originalCallerAddress transactionResponses).run.Asks Op.Unpaid := by
  induction transactionResponses with
  | nil => trivial
  | cons transactionResponse rest ih => exact asks_bindExcept (unpaid_emitTransaction client _ _ _ _) fun _ => ih

theorem unpaid_emitQuery (query : Query) (payment : QueryPayment) (queryCost : Option Int) (status : String)
    (requestDetails : RequestDetails) (originalCallerAddress : Option String) :
    (SDKClient.emitQuery query payment queryCost status requestDetails originalCallerAddress).run.Asks Op.Unpaid := by
  cases queryCost with
  | none => trivial
  | some cost =>
    rw [SDKClient.emitQuery]
    split
    · exact ⟨trivial, fun _ => trivial⟩
    · trivial

private theorem unpaid_getCurrentNetworkExchangeRateInCents (requestDetails : RequestDetails) :
    (TransactionService.getCurrentNetworkExchangeRateInCents requestDetails).run.Asks Op.Unpaid := by
  refine ⟨trivial, fun answer => ?_⟩
  cases answer with
  | error _ => trivial
  | ok cached =>
    cases cached with
    | some _ => trivial
    | none =>
      refine ⟨trivial, fun asked => ?_⟩
      cases asked with
      | error _ => trivial
      | ok _ =>
        refine ⟨trivial, fun stored => ?_⟩
        cases stored with
        | error _ => trivial
        | ok _ => trivial

theorem Op.Outside.unpaid {op : Op} (outside : op.Outside) : op.Unpaid := by
  cases op with
  | execute transaction => exact outside.elim
  | executeAll transaction => exact outside.elim
  | executeQuery query payment => exact outside.elim
  | deleteFile fileId requestDetails callerName interactingEntity originalCallerAddress => exact outside.elim
  | _ => trivial

end Unpaid

namespace RawSubmission

variable {submission : RawSubmission} {history : Calls}

theorem permits_unpaid (before : Calls) (op : Op) (unpaid : op.Unpaid) : submission.Permits before op := by
  cases op with
  | execute transaction => exact unpaid.elim
  | executeAll transaction => exact unpaid.elim
  | executeQuery query payment => exact unpaid.elim
  | deleteFile fileId requestDetails callerName interactingEntity originalCallerAddress => exact unpaid.elim
  | _ => trivial

/-- Only the check of the limiter comes between the history and a transaction. -/
theorem guards_throwHbarLimit (txConstructorName : String) (estimatedTxFee : Option Int) :
    (SDKClient.throwHbarLimit true ETH_SEND_RAW_TRANSACTION txConstructorName submission.originalCallerAddress
      submission.requestDetails estimatedTxFee).run.Guards submission.Permits
      (Returns fun later _ => later = history ++ [⟨.shouldLimit .TRANSACTION ETH_SEND_RAW_TRANSACTION txConstructorName
        submission.originalCallerAddress submission.requestDetails estimatedTxFee, .ok false⟩]) history := by
  refine ⟨trivial, fun answer => ?_⟩
  cases answer with
  | error error => exact returns_error error
  | ok shouldLimit =>
    cases shouldLimit with
    | true => exact returns_error _
    | false => exact returns_ok rfl

/-- After a transaction there are only calls about its response. -/
theorem guards_tryTransaction {transaction : Transaction} (permitted : submission.Permits history (.execute transaction))
    (callerName : String) (requestDetails : RequestDetails) (originalCallerAddress : String) :
    (submission.client.tryTransaction transaction callerName requestDetails originalCallerAddress).run.Guards
      submission.Permits (Returns fun later transactionResponse => ∃ sent more,
        later = history ++ ⟨.execute transaction, sent⟩ :: more ∧ sent.outcome = .ok transactionResponse ∧
          ∀ exchange ∈ more, exchange.1.Unpaid) history := by
  refine guards_ask_bind_iff.mpr ⟨permitted, fun sent => ?_⟩
  cases outcome : sent.outcome with
  | error error => exact returns_error _
  | ok transactionResponse =>
    refine guards_ask_bind_iff.mpr ⟨trivial, fun receipt => ?_⟩
    have emits : (if transactionResponse.transactionId ≠ "" then
        submission.client.emitTransaction transactionResponse.transactionId requestDetails
          transaction.constructorName originalCallerAddress
      else return () : Throwing Unit).run.Asks Op.Unpaid := by
      split
      · exact unpaid_emitTransaction submission.client _ _ _ _
      · trivial
    refine guards_bindExcept (emits.guards permits_unpaid) ?_ fun _ error _ => returns_error error
    rintro _ ⟨⟩ ⟨more, rfl, unpaid⟩
    have all : ∀ exchange ∈ (⟨.getReceipt transactionResponse .executeTransaction, receipt⟩ : Exchange Op Answer) :: more,
        exchange.1.Unpaid := List.forall_mem_cons.mpr ⟨trivial, unpaid⟩
    have kept : Returns (fun later (returned : TransactionResponse) => ∃ sent more,
        later = history ++ (⟨.execute transaction, sent⟩ : Exchange Op Answer) :: more ∧
          sent.outcome = .ok returned ∧ ∀ exchange ∈ more, exchange.1.Unpaid)
        (history ++ [⟨.execute transaction, sent⟩] ++ [⟨.getReceipt transactionResponse .executeTransaction, receipt⟩] ++
          more) (.ok transactionResponse : Except Thrown TransactionResponse) := by
      refine returns_ok ⟨sent, _, ?_, outcome, all⟩
      simp only [List.append_assoc, List.cons_append, List.nil_append]
    cases receipt with
    | ok receipt => exact kept
    | error error =>
      change (if _ then _ else _ : Throwing TransactionResponse).run.Guards _ _ _
      split
      · exact returns_error _
      · exact kept

/-- The rest of the call data goes into the file that was created. -/
theorem guards_appendToFile {fileId : FileId} (created : CreatedFile history submission.firstChunk fileId) :
    (submission.client.appendToFile fileId submission.ethereumTransactionData.callData submission.requestDetails
      ETH_SEND_RAW_TRANSACTION submission.originalCallerAddress).run.Guards submission.Permits
      (Returns fun later _ => ∃ more, later = history ++ more ∧ Unsent more) history := by
  rw [SDKClient.appendToFile]
  split
  · refine guards_ask_bind_iff.mpr ⟨⟨created, rfl⟩, fun answer => ?_⟩
    have executed : Unsent [(⟨.executeAll _, answer⟩ : Exchange Op Answer)] := by
      apply unsent_singleton
      intro ethereumData fileId fee same
      cases same
    cases answer with
    | error error => exact returns_error _
    | ok transactionResponses =>
      have emits := unpaid_emitTransactions submission.client submission.requestDetails
        submission.originalCallerAddress transactionResponses
      apply (emits.guards permits_unpaid).weaken
      rintro _ _ ⟨more, rfl, unpaid⟩ _ _
      exact ⟨_, List.append_assoc _ _ _, executed.append (unsent_of_unpaid unpaid)⟩
  · exact returns_ok ⟨[], (List.append_nil history).symm, List.forall_mem_nil _⟩

/-- The only query is for the file that was created. -/
theorem guards_checkFile {fileId : FileId} (created : CreatedFile history submission.firstChunk fileId) :
    (SDKClient.checkFile fileId submission.requestDetails submission.originalCallerAddress).run.Guards
      submission.Permits (Returns fun later _ => ∃ more, later = history ++ more ∧ Unsent more) history := by
  refine ⟨⟨fileId, rfl, created⟩, fun execution => ?_⟩
  have queried : Unsent [(⟨.executeQuery _ _, execution⟩ : Exchange Op Answer)] := by
    apply unsent_singleton
    intro ethereumData fileId fee same
    cases same
  change (SDKClient.reported (.fileInfo fileId) submission.requestDetails submission.originalCallerAddress
    (SDKClient.tried execution execution.payment.queryPayment) >>=
      SDKClient.checkSize submission.requestDetails).run.Guards _ _ _
  have reports : (SDKClient.reported (.fileInfo fileId) submission.requestDetails submission.originalCallerAddress
      (SDKClient.tried execution execution.payment.queryPayment)).run.Asks Op.Unpaid := by
    obtain ⟨outcome, payment⟩ := execution
    cases outcome with
    | ok queryResponse => exact asks_bindExcept (unpaid_emitQuery _ _ _ _ _ _) fun _ => trivial
    | error e => exact asks_bindExcept (unpaid_emitQuery _ _ _ _ _ _) fun _ => trivial
  refine guards_bindExcept (reports.guards permits_unpaid) ?_ fun _ error _ => returns_error error
  rintro _ fileInfo ⟨more, rfl, unpaid⟩
  rw [SDKClient.checkSize]
  split
  · exact returns_error _
  · exact returns_ok ⟨_, List.append_assoc _ _ _, queried.append (unsent_of_unpaid unpaid)⟩

/-- A file is created where the limiter let it through, and returned where it is complete. -/
theorem guards_createFile {rate : Rat} (unsent : Unsent history)
    (known : KnownRate history submission.requestDetails rate) :
    (submission.client.createFile submission.ethereumTransactionData.callData submission.requestDetails
      ETH_SEND_RAW_TRANSACTION submission.originalCallerAddress rate).run.Guards submission.Permits
      (Returns fun later created => Unsent later ∧
        ∀ fileId, created = some fileId → CreatedFile later submission.firstChunk fileId) history := by
  refine (guards_throwHbarLimit "createFile" _).returns_bind ?_
  rintro _ ⟨⟩ rfl
  have permitted : submission.Permits (history ++ [⟨.shouldLimit .TRANSACTION ETH_SEND_RAW_TRANSACTION "createFile"
      submission.originalCallerAddress submission.requestDetails (some (estimateFileTransactionsFee
        (toHexText submission.ethereumTransactionData.callData).length submission.client.fileAppendChunkSize rate)),
      .ok false⟩]) (.execute (.fileCreate submission.firstChunk)) :=
    ⟨unsent.check, rfl, rate, known.append _, history, rfl⟩
  refine (guards_tryTransaction permitted ETH_SEND_RAW_TRANSACTION submission.requestDetails
    submission.originalCallerAddress).returns_bind ?_
  rintro _ transactionResponse ⟨sent, more, rfl, outcome, unpaid⟩
  refine guards_ask_bind_iff.mpr ⟨trivial, fun answer => ?_⟩
  cases answer with
  | error error => exact returns_error _
  | ok receipt =>
    have unsentExecuted : Unsent ((⟨.execute (.fileCreate submission.firstChunk), sent⟩ : Exchange Op Answer) ::
        more) := by
      refine List.forall_mem_cons.mpr ⟨?_, unsent_of_unpaid unpaid⟩
      intro _ _ _ other
      cases other
    generalize same : (_ ++ _ : Calls) = later
    have unsentLater : Unsent later := by
      subst same
      exact (unsent.check.append unsentExecuted).unpaid trivial
    obtain ⟨status, fileId⟩ := receipt
    cases fileId with
    | none =>
      refine returns_ok ⟨unsentLater, ?_⟩
      intro fileId same
      cases same
    | some fileId =>
      have created : CreatedFile later submission.firstChunk fileId := by
        subst same
        refine ⟨sent, transactionResponse, ⟨status, some fileId⟩, ?_, outcome, ?_, rfl⟩
        · simp
        · simp
      refine (guards_appendToFile created).returns_bind ?_
      rintro _ ⟨⟩ ⟨appended, rfl, unsentAppended⟩
      refine (guards_checkFile (created.append appended)).returns_bind ?_
      rintro _ ⟨⟩ ⟨checked, rfl, unsentChecked⟩
      refine returns_ok ⟨(unsentLater.append unsentAppended).append unsentChecked, ?_⟩
      intro other sameFile
      cases sameFile
      exact (created.append appended).append checked

theorem Carries.append {ethereumData : EthereumTransactionData} {fileId : Option FileId}
    (carries : submission.Carries history ethereumData fileId) (more : Calls) :
    submission.Carries (history ++ more) ethereumData fileId := by
  cases fileId with
  | none => exact carries
  | some fileId => exact ⟨carries.1, carries.2.append more⟩

theorem Carries.created {ethereumData : EthereumTransactionData} {fileId : FileId}
    (carries : submission.Carries history ethereumData (some fileId)) :
    CreatedFile history submission.firstChunk fileId :=
  carries.2

/-- The transaction is prepared with its call data, or with a file for it. -/
theorem guards_prepareTransaction {rate : Rat} (unsent : Unsent history)
    (known : KnownRate history submission.requestDetails rate) :
    (submission.client.prepareTransaction submission.ethereumTransactionData ETH_SEND_RAW_TRANSACTION
      submission.requestDetails submission.originalCallerAddress submission.networkGasPriceInWeiBars rate).run.Guards
      submission.Permits (Returns fun later prepared => Unsent later ∧ ∃ ethereumData fileId,
        prepared = (.ethereum ethereumData fileId submission.maxTransactionFee, fileId) ∧
          submission.Carries later ethereumData fileId) history := by
  rw [SDKClient.prepareTransaction]
  split
  · exact returns_ok ⟨unsent, _, none, rfl, rfl⟩
  · refine (guards_createFile unsent known).returns_bind ?_
    intro later created reached
    obtain ⟨unsentLater, holds⟩ := reached
    cases created with
    | none => exact returns_error _
    | some fileId => exact returns_ok ⟨unsentLater, _, some fileId, rfl, rfl, holds fileId rfl⟩

/-- The Ethereum transaction is sent where the limiter let it through just before. -/
theorem guards_executeEthereum {ethereumData : EthereumTransactionData} {fileId : Option FileId}
    (unsent : Unsent history) (carries : submission.Carries history ethereumData fileId) :
    (submission.client.executeTransaction (.ethereum ethereumData fileId submission.maxTransactionFee)
      ETH_SEND_RAW_TRANSACTION submission.requestDetails true submission.originalCallerAddress none).run.Guards
      submission.Permits (Returns fun later _ => ∃ more, later = history ++ more) history := by
  refine (guards_throwHbarLimit "EthereumTransaction" none).returns_bind ?_
  rintro _ ⟨⟩ rfl
  have permitted : submission.Permits (history ++ [⟨.shouldLimit .TRANSACTION ETH_SEND_RAW_TRANSACTION
      "EthereumTransaction" submission.originalCallerAddress submission.requestDetails none, .ok false⟩])
      (.execute (.ethereum ethereumData fileId submission.maxTransactionFee)) :=
    ⟨unsent.check, ⟨history, rfl⟩, carries.append _, rfl⟩
  apply (guards_tryTransaction permitted ETH_SEND_RAW_TRANSACTION submission.requestDetails
    submission.originalCallerAddress).returns_weaken
  rintro _ _ ⟨sent, more, rfl, -⟩
  exact ⟨_, List.append_assoc _ _ _⟩

private theorem guards_submitEthereumTransaction {transactionBuffer : List UInt8} {rate : Rat}
    (decoded : submission.client.fromBytes transactionBuffer = .ok submission.ethereumTransactionData)
    (unsent : Unsent history) (known : KnownRate history submission.requestDetails rate) :
    (submission.client.submitEthereumTransaction transactionBuffer ETH_SEND_RAW_TRANSACTION submission.requestDetails
      submission.originalCallerAddress submission.networkGasPriceInWeiBars rate).run.Guards submission.Permits
      (Returns fun later submitted => ∀ fileId, submitted.fileId = some fileId →
        CreatedFile later submission.firstChunk fileId) history := by
  rw [SDKClient.submitEthereumTransaction, decoded]
  refine (guards_prepareTransaction unsent known).returns_bind ?_
  rintro later _ ⟨unsentLater, ethereumData, fileId, rfl, carries⟩
  refine (guards_executeEthereum unsentLater carries).returns_bind ?_
  rintro _ txResponse ⟨more, rfl⟩
  refine returns_ok ?_
  rintro created rfl
  exact carries.created.append more

/-- The exchange rate is the cached one, or one that the network was asked for. -/
theorem guards_getCurrentNetworkExchangeRateInCents (unsent : Unsent history) :
    (TransactionService.getCurrentNetworkExchangeRateInCents submission.requestDetails).run.Guards submission.Permits
      (Returns fun later rate => Unsent later ∧ KnownRate later submission.requestDetails rate) history := by
  refine guards_ask_bind_iff.mpr ⟨trivial, fun answer => ?_⟩
  cases answer with
  | error error => exact returns_error error
  | ok cached =>
    cases cached with
    | some rate =>
      refine returns_ok ⟨Unsent.unpaid unsent ?_, rate, rfl, .inl ?_⟩
      · trivial
      · exact List.mem_append_right _ List.mem_cons_self
    | none =>
      refine ⟨trivial, fun asked => ?_⟩
      cases asked with
      | error error => exact returns_error error
      | ok rate =>
        refine ⟨trivial, fun stored => ?_⟩
        cases stored with
        | error error => exact returns_error error
        | ok _ =>
          refine returns_ok ⟨?_, rate, rfl, .inr ?_⟩
          · refine Unsent.unpaid (Unsent.unpaid (Unsent.unpaid unsent ?_) ?_) ?_ <;> trivial
          · exact List.mem_append_left _ (List.mem_append_right _ List.mem_cons_self)

variable {service : TransactionService} {transactionBuffer : List UInt8}

/-- The `try` block, of which a file comes out only where it was created. -/
theorem guards_trySubmit (decoded : submission.client.fromBytes transactionBuffer =
    .ok submission.ethereumTransactionData) (own : service.client = submission.client) (unsent : Unsent history) :
    (service.trySubmit transactionBuffer submission.originalCallerAddress submission.networkGasPriceInWeiBars
      submission.requestDetails).run.Guards submission.Permits (Returns fun later submitted =>
        ∀ fileId, submitted.fileId = some fileId → CreatedFile later submission.firstChunk fileId) history := by
  refine (guards_getCurrentNetworkExchangeRateInCents unsent).returns_bind ?_
  intro later rate reached
  obtain ⟨unsentLater, known⟩ := reached
  rw [own]
  exact guards_submitEthereumTransaction decoded unsentLater known

/-- A file that is deleted is the one that was created. -/
theorem guards_submitTransaction (decoded : submission.client.fromBytes transactionBuffer =
    .ok submission.ethereumTransactionData) (own : service.client = submission.client) (unsent : Unsent history) :
    (service.submitTransaction transactionBuffer submission.originalCallerAddress submission.networkGasPriceInWeiBars
      submission.requestDetails).Guards submission.Permits (fun _ _ => True) history := by
  refine (guards_trySubmit decoded own unsent).bind ?_
  intro later submitted reached
  cases submitted with
  | error error => trivial
  | ok submitted =>
    obtain ⟨txResponse, fileId⟩ := submitted
    cases fileId with
    | none => trivial
    | some fileId => exact ⟨reached _ rfl fileId rfl, fun _ => trivial⟩

end RawSubmission

namespace TransactionService

variable (service : TransactionService) (transaction : String) (requestDetails : RequestDetails)

/-- The price that the transaction is checked against. -/
def bufferedGasPrice (gasPrice : Nat) : Nat := Blocks.CommonService.addPercentageBufferToGasPrice service.relay gasPrice

/-- The price was got, and the prechecks passed for it. -/
def admission (parsedTx : EthersTransaction) (gasPrice : Nat) : Calls :=
  [⟨.getGasPriceInWeibars requestDetails, .ok gasPrice⟩,
    ⟨.sendRawTransactionCheck parsedTx (service.bufferedGasPrice gasPrice) requestDetails, .ok ()⟩]

def submissionOf (parsedTx : EthersTransaction) (gasPrice : Nat) (ethereumTransactionData : EthereumTransactionData) :
    RawSubmission where
  client := service.client
  ethereumTransactionData
  requestDetails
  originalCallerAddress := parsedTx.sender.getD ""
  networkGasPriceInWeiBars := service.bufferedGasPrice gasPrice

/-- What may be called after what: after the price and the prechecks there are calls without a
cost, and those that the submission of the decoded transaction permits. -/
inductive Gated : Calls → Op → Prop where
  | price : Gated [] (.getGasPriceInWeibars requestDetails)
  | check {parsedTx : EthersTransaction} (parsed : service.parseRawTransaction transaction = .ok parsedTx)
      (gasPrice : Nat) : Gated [⟨.getGasPriceInWeibars requestDetails, .ok gasPrice⟩]
        (.sendRawTransactionCheck parsedTx (service.bufferedGasPrice gasPrice) requestDetails)
  | unpaid {parsedTx : EthersTransaction} (parsed : service.parseRawTransaction transaction = .ok parsedTx)
      (gasPrice : Nat) (rest : Calls) {op : Op} (unpaid : op.Unpaid) :
      Gated (service.admission requestDetails parsedTx gasPrice ++ rest) op
  | submitted {parsedTx : EthersTransaction} (parsed : service.parseRawTransaction transaction = .ok parsedTx)
      (gasPrice : Nat) (rest : Calls) {op : Op} {ethereumTransactionData : EthereumTransactionData}
      (decoded : service.client.fromBytes (service.fromHex (strip0x transaction)) = .ok ethereumTransactionData)
      (permitted : (service.submissionOf requestDetails parsedTx gasPrice ethereumTransactionData).Permits
        (service.admission requestDetails parsedTx gasPrice ++ rest) op) :
      Gated (service.admission requestDetails parsedTx gasPrice ++ rest) op

variable {service transaction requestDetails} {parsedTx : EthersTransaction} {transactionBuffer : List UInt8}
  (history : Calls)

/-- What cannot be decoded is not sent. -/
theorem guards_undecoded {error : Thrown} (undecoded : service.client.fromBytes transactionBuffer = .error error)
    (originalCallerAddress : String) (networkGasPriceInWeiBars : Nat) (requestDetails : RequestDetails) :
    (service.submitTransaction transactionBuffer originalCallerAddress networkGasPriceInWeiBars
      requestDetails).Guards (fun _ op => op.Unpaid) (fun _ _ => True) history := by
  have fails : (service.trySubmit transactionBuffer originalCallerAddress networkGasPriceInWeiBars
      requestDetails).run.Guards (fun _ op => op.Unpaid) (Returns fun _ _ => False) history := by
    refine guards_bindExcept ((unpaid_getCurrentNetworkExchangeRateInCents requestDetails).guards
      fun _ _ unpaid => unpaid) ?_ fun _ error _ => returns_error error
    intro later rate _
    rw [SDKClient.submitEthereumTransaction, undecoded]
    exact returns_error _
  refine fails.bind ?_
  intro later submitted reached
  cases submitted with
  | error error => trivial
  | ok submitted => exact (reached submitted rfl).elim

/-- Around the submission there is nothing to pay for. -/
theorem guards_sendRawTransactionProcessor {allowed : Calls → Op → Prop} {networkGasPriceInWeiBars : Nat}
    (free : ∀ before op, op.Unpaid → allowed before op)
    (submits : (service.submitTransaction transactionBuffer (parsedTx.sender.getD "") networkGasPriceInWeiBars
      requestDetails).Guards allowed (fun _ _ => True) (history ++ [⟨.emitEthExecution requestDetails, ()⟩])) :
    (service.sendRawTransactionProcessor transactionBuffer parsedTx networkGasPriceInWeiBars
      requestDetails).run.Guards allowed (fun _ _ => True) history := by
  refine guards_ask_bind_iff.mpr ⟨free _ _ trivial, fun _ => ?_⟩
  refine guards_lift_bind submits ?_
  intro later result _
  refine Prog.Guards.weaken (Prog.Asks.guards (Prog.Asks.imp ?_ fun _ => Op.Outside.unpaid) free) fun _ _ _ => trivial
  split
  · refine ⟨trivial, fun contractResult => ?_⟩
    exact outside_polled _ _ _ _ _
  · exact outside_sendRawTransactionErrorHandler _ _ _ _ _

private theorem guards_admitted (parsed : service.parseRawTransaction transaction = .ok parsedTx) (gasPrice : Nat) :
    (service.sendRawTransactionProcessor (service.fromHex (strip0x transaction)) parsedTx
      (service.bufferedGasPrice gasPrice) requestDetails).run.Guards (service.Gated transaction requestDetails)
      (fun _ _ => True) (service.admission requestDetails parsedTx gasPrice) := by
  have stays : ∀ before after : Calls, (∃ rest, before = service.admission requestDetails parsedTx gasPrice ++ rest) →
      ∃ rest, before ++ after = service.admission requestDetails parsedTx gasPrice ++ rest := by
    rintro _ after ⟨rest, rfl⟩
    exact ⟨rest ++ after, List.append_assoc _ _ _⟩
  have start : ∃ rest, service.admission requestDetails parsedTx gasPrice =
      service.admission requestDetails parsedTx gasPrice ++ rest := ⟨[], (List.append_nil _).symm⟩
  cases decoded : service.client.fromBytes (service.fromHex (strip0x transaction)) with
  | error error =>
    have guards := guards_sendRawTransactionProcessor (service.admission requestDetails parsedTx gasPrice)
      (fun _ _ unpaid => unpaid) (guards_undecoded _ decoded (parsedTx.sender.getD "")
        (service.bufferedGasPrice gasPrice) requestDetails)
    refine (guards.under stays start).widen ?_
    rintro _ op ⟨⟨rest, rfl⟩, unpaid⟩
    exact .unpaid parsed gasPrice rest unpaid
  | ok ethereumTransactionData =>
    have unsent : Unsent (service.admission requestDetails parsedTx gasPrice ++
        [⟨.emitEthExecution requestDetails, ()⟩]) := by
      refine Unsent.unpaid (Unsent.unpaid (Unsent.unpaid (List.forall_mem_nil _) ?_) ?_) ?_ <;> trivial
    have submits : (service.submitTransaction (service.fromHex (strip0x transaction)) (parsedTx.sender.getD "")
        (service.bufferedGasPrice gasPrice) requestDetails).Guards
        (service.submissionOf requestDetails parsedTx gasPrice ethereumTransactionData).Permits _ _ :=
      RawSubmission.guards_submitTransaction decoded rfl unsent
    have guards := guards_sendRawTransactionProcessor (service.admission requestDetails parsedTx gasPrice)
      RawSubmission.permits_unpaid submits
    refine (guards.under stays start).widen ?_
    rintro _ op ⟨⟨rest, rfl⟩, permitted⟩
    exact .submitted parsed gasPrice rest decoded permitted

variable (service transaction requestDetails)

private theorem guards_sendRawTransaction :
    (service.sendRawTransaction transaction requestDetails).run.Guards (service.Gated transaction requestDetails)
      (fun _ _ => True) [] := by
  rw [TransactionService.sendRawTransaction]
  cases parsed : service.parseRawTransaction transaction with
  | error error => trivial
  | ok parsedTx =>
    refine ⟨.price, fun priced => ?_⟩
    cases priced with
    | error error => trivial
    | ok gasPrice =>
      refine ⟨.check parsed gasPrice, fun checked => ?_⟩
      cases checked with
      | error error => trivial
      | ok passed =>
        refine guards_lift_bind (guards_admitted parsed gasPrice) ?_
        intro later processed _
        split
        · trivial
        · cases processed with
          | ok answer => trivial
          | error error => trivial

/-- Whatever is answered, nothing is sent before the price, the prechecks and the limiter, and the
Ethereum transaction at most once. -/
theorem sendRawTransaction_gated {transcript : Calls} {outcome : Except Thrown RawTransactionAnswer}
    (ran : Ran (service.sendRawTransaction transaction requestDetails).run transcript outcome) :
    ∀ before op answer after, transcript = before ++ ⟨op, answer⟩ :: after →
      service.Gated transaction requestDetails before op :=
  ((guards_sendRawTransaction service transaction requestDetails).ran ran).1

theorem sendRawTransaction_gated_submitted :
    fileService.Gated "0x01" callerRequest ((submittedSteps.map Prod.fst).take 12) (.execute ethereumTransaction) :=
  sendRawTransaction_gated fileService "0x01" callerRequest submittedSteps_ran _ _ _
    ((submittedSteps.map Prod.fst).drop 13) rfl

end TransactionService

end HieroRelay.Hapi
