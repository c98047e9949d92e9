import HieroRelay.Hapi.FileCleanup
import HieroRelay.Hapi.RawTransactions

/-! What is sent of the call data: call data that is too long goes into a file, in two parts that
make up all its digits, and the Ethereum transaction refers to that file. -/

namespace HieroRelay.Hapi

open HieroRelay.Lib
open HieroRelay.Relay (RequestDetails)

/-- What is sent of the call data, and the file that it goes into. -/
inductive Upload where
  | created (contents : String)
  | received (fileId : FileId)
  | appended (fileAppendTx : FileAppendTransaction)
  | submitted (ethereumData : EthereumTransactionData) (callDataFileId : Option FileId)
  deriving Repr, DecidableEq

def uploadOf : Exchange Op Answer → Option Upload
  | ⟨.execute (.fileCreate contents), _⟩ => some (.created contents)
  | ⟨.execute (.ethereum ethereumData callDataFileId _), _⟩ => some (.submitted ethereumData callDataFileId)
  | ⟨.executeAll fileAppendTx, _⟩ => some (.appended fileAppendTx)
  | ⟨.getReceipt _ .createFile, answer⟩ =>
      match (answer : Except SdkError TransactionReceipt) with
      | .ok receipt => receipt.fileId.map .received
      | .error _ => none
  | _ => none

def uploads (transcript : List (Exchange Op Answer)) : List Upload := transcript.filterMap uploadOf

/-- The file that takes the call data of a client. -/
def fileUploads (client : SDKClient) (callData : List UInt8) (fileId : FileId) : List Upload := [
  .created (String.ofList ((toHexText callData).take client.fileAppendChunkSize)),
  .received fileId,
  .appended {
    fileId
    contents := String.ofList ((toHexText callData).drop client.fileAppendChunkSize)
    chunkSize := client.fileAppendChunkSize
    maxChunks := client.maxChunks }]

variable {client : SDKClient} {transcript : List (Exchange Op Answer)}

theorem uploads_append (first second : List (Exchange Op Answer)) :
    uploads (first ++ second) = uploads first ++ uploads second := List.filterMap_append

/-- Every run sends a first part of these, and one that returns sends all of them. -/
def Sends (sent : List Upload) (call : Throwing Result) : Prop :=
  ∀ transcript outcome, Ran call.run transcript outcome →
    uploads transcript <+: sent ∧ ∀ value, outcome = .ok value → uploads transcript = sent

section Rules
variable {call : Throwing First} {next : First → Throwing Second} {first second : List Upload}

theorem Sends.then (begun : Sends first call) (ended : ∀ value, Sends second (next value)) :
    Sends (first ++ second) (call >>= next) := by
  intro transcript outcome ran
  rcases ran_bindExcept_iff.mp ran with ⟨before, after, value, rfl, beginning, ending⟩ | ⟨error, rfl, beginning⟩
  · obtain ⟨part, whole⟩ := ended value after outcome ending
    rw [uploads_append, (begun before _ beginning).2 value rfl]
    refine ⟨(List.prefix_append_right_inj first).mpr part, ?_⟩
    intro result same
    rw [whole result same]
  · exact ⟨(begun transcript _ beginning).1.trans (List.prefix_append first second), nofun⟩

theorem Op.Idle.uploadOf {op : Op} (idle : op.Idle) (answer : Answer op) : Hapi.uploadOf ⟨op, answer⟩ = none := by
  cases op with
  | execute transaction => exact idle.elim
  | executeAll transaction => exact idle.elim
  | getReceipt transactionResponse reader =>
    cases reader with
    | executeTransaction => rfl
    | createFile => exact idle.elim
  | _ => rfl

theorem sends_of_idle (idle : call.run.Asks Op.Idle) : Sends [] call := by
  intro transcript outcome ran
  have nothing : uploads transcript = [] :=
    List.filterMap_eq_nil_iff.mpr fun exchange member => (idle.mem ran exchange member).uploadOf exchange.2
  exact ⟨nothing ▸ List.prefix_refl _, fun _ _ => nothing⟩

/-- One call that sends, and nothing after it. -/
theorem sends_ask {op : Op} {upload : Upload} {next : Answer op → Throwing Second}
    (sends : ∀ answer, uploadOf ⟨op, answer⟩ = some upload) (idle : ∀ answer, (next answer).run.Asks Op.Idle) :
    Sends [upload] (ask op >>= next) := by
  intro transcript outcome ran
  obtain ⟨answer, others, rfl, following⟩ := ran_ask_bind_iff.mp ran
  have nothing := (sends_of_idle (idle answer) others outcome following).1
  have whole : uploads (⟨op, answer⟩ :: others) = [upload] := by
    rw [uploads, List.filterMap_cons_some (sends answer)]
    exact congrArg _ (List.prefix_nil.mp nothing)
  exact ⟨whole ▸ List.prefix_refl _, fun _ _ => whole⟩

end Rules

section Operations
variable {callData : List UInt8} {requestDetails : RequestDetails} {callerName originalCallerAddress : String}

theorem sends_executeTransaction {transaction : Transaction} {upload : Upload} {shouldThrowHbarLimit : Bool}
    {estimatedTxFee : Option Int}
    (sends : ∀ submission, uploadOf ⟨.execute transaction, submission⟩ = some upload) :
    Sends [upload] (client.executeTransaction transaction callerName requestDetails shouldThrowHbarLimit
      originalCallerAddress estimatedTxFee) := by
  change Sends ([] ++ [upload]) _
  apply (sends_of_idle (idle_throwHbarLimit _ _ _ _ _ _)).then
  intro _
  apply sends_ask sends
  rintro ⟨outcome, transactionId⟩
  cases outcome with
  | error e => trivial
  | ok transactionResponse => exact idle_answered client transaction requestDetails originalCallerAddress _ _

private theorem sends_appendToFile {fileId : FileId} (long : client.fileAppendChunkSize < callData.length) :
    Sends ((fileUploads client callData fileId).drop 2)
      (client.appendToFile fileId callData requestDetails callerName originalCallerAddress) := by
  rw [SDKClient.appendToFile, if_pos long]
  change Sends ([] ++ (fileUploads client callData fileId).drop 2) _
  apply (sends_of_idle (idle_throwHbarLimit _ _ _ _ _ _)).then
  intro _
  apply sends_ask (fun _ => rfl)
  intro answer
  cases answer with
  | ok transactionResponses => exact idle_emitTransactions client _ _ transactionResponses
  | error _ => trivial

/-- A run that returns a file has sent all the parts of the call data. -/
theorem createFile_uploads {rate : Rat} {outcome : Except Thrown (Option FileId)}
    (long : client.fileAppendChunkSize < callData.length)
    (ran : Ran (client.createFile callData requestDetails callerName originalCallerAddress rate).run transcript outcome) :
    ∃ fileId, uploads transcript <+: fileUploads client callData fileId ∧
      ∀ created, outcome = .ok (some created) → created = fileId ∧ uploads transcript = fileUploads client callData fileId := by
  rcases ran_bindExcept_iff.mp ran with ⟨limit, rest, _, rfl, limiting, creating⟩ | ⟨error, rfl, limiting⟩
  case inr =>
    obtain ⟨part, -⟩ := sends_of_idle (idle_throwHbarLimit _ _ _ _ _ _) _ _ limiting
    exact ⟨"", part.trans (List.nil_prefix), nofun⟩
  have nothing := (sends_of_idle (idle_throwHbarLimit _ _ _ _ _ _) _ _ limiting).2 _ rfl
  rw [uploads_append, nothing, List.nil_append]
  rcases ran_bindExcept_iff.mp creating with ⟨first, rest, response, rfl, executing, reading⟩ | ⟨error, rfl, executing⟩
  case inr =>
    obtain ⟨part, -⟩ := sends_executeTransaction (fun _ => rfl) _ _ executing
    exact ⟨"", part.trans (List.prefix_append _ _), nofun⟩
  have created := (sends_executeTransaction (fun _ => rfl) _ _ executing).2 _ rfl
  obtain ⟨answer, rest, rfl, finishing⟩ := ran_ask_bind_iff.mp reading
  rw [uploads_append, created]
  match answer with
  | .error e =>
    obtain ⟨rfl, rfl⟩ := ran_done_iff.mp finishing
    exact ⟨"", List.prefix_append _ _, nofun⟩
  | .ok ⟨status, none⟩ =>
    obtain ⟨rfl, rfl⟩ := ran_done_iff.mp finishing
    exact ⟨"", List.prefix_append _ _, nofun⟩
  | .ok ⟨status, some fileId⟩ =>
    have received : uploads (⟨.getReceipt response .createFile, .ok ⟨status, some fileId⟩⟩ :: rest) =
        .received fileId :: uploads rest := rfl
    have sends : Sends ((fileUploads client callData fileId).drop 2 ++ ([] ++ []))
        (client.appendToFile fileId callData requestDetails callerName originalCallerAddress >>= fun _ =>
          SDKClient.checkFile fileId requestDetails originalCallerAddress >>= fun _ => pure (some fileId)) :=
      (sends_appendToFile long).then fun _ =>
        (sends_of_idle (idle_checkFile _ _ _)).then fun _ => sends_of_idle trivial
    change Ran (client.appendToFile fileId callData requestDetails callerName originalCallerAddress >>= fun _ =>
      SDKClient.checkFile fileId requestDetails originalCallerAddress >>= fun _ => pure (some fileId)).run rest
      outcome at finishing
    obtain ⟨part, whole⟩ := sends rest outcome finishing
    rw [received]
    refine ⟨fileId, (List.prefix_append_right_inj [_, _]).mpr part, ?_⟩
    rintro created rfl
    obtain ⟨_, _, _, -, -, checking⟩ := ran_bind_ok_iff.mp finishing
    obtain ⟨_, _, _, -, -, returning⟩ := ran_bind_ok_iff.mp checking
    cases (ran_return_iff.mp returning).2
    rw [whole _ rfl]
    exact ⟨rfl, rfl⟩

section Submission
variable {data : EthereumTransactionData} {networkGasPriceInWeiBars : Nat} {rate : Rat}

theorem prepareTransaction_uploads {outcome : Except Thrown (Transaction × Option FileId)}
    (jumboDisabled : client.jumboTxEnabled = false) (long : client.fileAppendChunkSize < data.callData.length)
    (ran : Ran (client.prepareTransaction data callerName requestDetails originalCallerAddress networkGasPriceInWeiBars
      rate).run transcript outcome) :
    ∃ fileId, uploads transcript <+: fileUploads client data.callData fileId ∧
      ∀ transaction callDataFileId, outcome = .ok (transaction, callDataFileId) →
        uploads transcript = fileUploads client data.callData fileId ∧ callDataFileId = some fileId ∧
          ∃ fee, transaction = .ethereum { data with callData := [] } (some fileId) fee := by
  have inFile : ¬ (client.jumboTxEnabled || decide (data.callData.length ≤ client.fileAppendChunkSize)) = true := by
    rw [jumboDisabled, Bool.false_or, decide_eq_true_eq]
    exact Nat.not_le.mpr long
  rw [SDKClient.prepareTransaction, if_neg inFile] at ran
  rcases ran_bindExcept_iff.mp ran with ⟨first, rest, created, rfl, creating, returning⟩ | ⟨error, rfl, creating⟩
  · obtain ⟨fileId, part, whole⟩ := createFile_uploads long creating
    refine ⟨fileId, ?_⟩
    cases created with
    | none =>
      obtain ⟨rfl, rfl⟩ := ran_done_iff.mp returning
      rw [List.append_nil]
      refine ⟨part, ?_⟩
      rintro transaction callDataFileId ⟨⟩
    | some created =>
      obtain ⟨rfl, rfl⟩ := ran_done_iff.mp returning
      obtain ⟨rfl, sent⟩ := whole created rfl
      rw [List.append_nil]
      refine ⟨part, ?_⟩
      rintro transaction callDataFileId ⟨⟩
      exact ⟨sent, rfl, _, rfl⟩
  · obtain ⟨fileId, part, -⟩ := createFile_uploads long creating
    refine ⟨fileId, part, ?_⟩
    rintro transaction callDataFileId ⟨⟩

/-- The Ethereum transaction is sent last. -/
theorem execution_uploads {ethereumData : EthereumTransactionData} {fileId : Option FileId} {fee : Nat}
    {outcome : Except Thrown SDKClient.SubmittedTransaction}
    (ran : Ran (client.executeTransaction (.ethereum ethereumData fileId fee) callerName requestDetails true
      originalCallerAddress none >>= fun txResponse => pure { fileId, txResponse }).run transcript outcome) :
    uploads transcript <+: [.submitted ethereumData fileId] ∧
      ∀ submitted, outcome = .ok submitted →
        uploads transcript = [.submitted ethereumData fileId] ∧ submitted.fileId = fileId := by
  have executed : Sends [.submitted ethereumData fileId] (client.executeTransaction (.ethereum ethereumData fileId fee)
      callerName requestDetails true originalCallerAddress none) := sends_executeTransaction fun _ => rfl
  have returned : ∀ txResponse, Sends [] (pure { fileId, txResponse } : Throwing SDKClient.SubmittedTransaction) :=
    fun _ => sends_of_idle trivial
  have sends := executed.then returned transcript outcome ran
  refine ⟨sends.1, ?_⟩
  rintro submitted rfl
  obtain ⟨_, _, _, -, -, returning⟩ := ran_bind_ok_iff.mp ran
  cases (ran_return_iff.mp returning).2
  exact ⟨sends.2 _ rfl, rfl⟩

end Submission

end Operations

/-- Call data that is longer than a chunk goes into a file as all its digits, and the Ethereum transaction
that refers to the file has none; shorter call data stays where it is. -/
theorem SDKClient.submitEthereumTransaction_uploads (client : SDKClient) (transactionBuffer : List UInt8)
    (data : EthereumTransactionData) (callerName : String) (requestDetails : RequestDetails)
    (originalCallerAddress : String) (networkGasPriceInWeiBars : Nat) (rate : Rat)
    (transcript : List (Exchange Op Answer)) (outcome : Except Thrown SDKClient.SubmittedTransaction)
    (decoded : client.fromBytes transactionBuffer = .ok data) (jumboDisabled : client.jumboTxEnabled = false)
    (ran : Ran (client.submitEthereumTransaction transactionBuffer callerName requestDetails originalCallerAddress
      networkGasPriceInWeiBars rate).run transcript outcome) :
    (client.fileAppendChunkSize < data.callData.length → ∃ (first rest : String) (fileId : FileId),
      first ++ rest = String.ofList (toHexText data.callData) ∧ first.length ≤ client.fileAppendChunkSize ∧
      let sent : List Upload := [.created first, .received fileId,
        .appended { fileId, contents := rest, chunkSize := client.fileAppendChunkSize, maxChunks := client.maxChunks },
        .submitted { data with callData := [] } (some fileId)]
      uploads transcript <+: sent ∧
        ∀ submitted, outcome = .ok submitted → uploads transcript = sent ∧ submitted.fileId = some fileId) ∧
    (data.callData.length ≤ client.fileAppendChunkSize →
      uploads transcript <+: [.submitted data none] ∧
        ∀ submitted, outcome = .ok submitted →
          uploads transcript = [.submitted data none] ∧ submitted.fileId = none) := by
  rw [SDKClient.submitEthereumTransaction, decoded] at ran
  change Ran (client.prepareTransaction data callerName requestDetails originalCallerAddress networkGasPriceInWeiBars
    rate >>= fun prepared => client.executeTransaction prepared.1 callerName requestDetails true originalCallerAddress
      none >>= fun txResponse => pure { fileId := prepared.2, txResponse }).run transcript outcome at ran
  constructor
  · intro long
    have parts : String.ofList ((toHexText data.callData).take client.fileAppendChunkSize) ++
        String.ofList ((toHexText data.callData).drop client.fileAppendChunkSize) =
          String.ofList (toHexText data.callData) := by
      rw [← String.ofList_append, List.take_append_drop]
    have bounded : (String.ofList ((toHexText data.callData).take client.fileAppendChunkSize)).length ≤
        client.fileAppendChunkSize := by
      rw [String.length_ofList]
      exact List.length_take_le _ _
    rcases ran_bindExcept_iff.mp ran with ⟨first, rest, ⟨transaction, callDataFileId⟩, rfl, preparing, executing⟩ |
      ⟨error, rfl, preparing⟩
    · obtain ⟨fileId, -, prepared⟩ := prepareTransaction_uploads jumboDisabled long preparing
      obtain ⟨sent, rfl, fee, rfl⟩ := prepared _ _ rfl
      obtain ⟨part, whole⟩ := execution_uploads executing
      refine ⟨_, _, fileId, parts, bounded, ?_, ?_⟩
      · rw [uploads_append, sent]
        exact (List.prefix_append_right_inj (fileUploads client data.callData fileId)).mpr part
      · intro submitted same
        obtain ⟨last, own⟩ := whole submitted same
        rw [uploads_append, sent, last]
        exact ⟨rfl, own⟩
    · obtain ⟨fileId, part, -⟩ := prepareTransaction_uploads jumboDisabled long preparing
      refine ⟨_, _, fileId, parts, bounded, part.trans (List.prefix_append _ [_]), ?_⟩
      rintro submitted ⟨⟩
  · intro short
    have inline : (client.jumboTxEnabled || decide (data.callData.length ≤ client.fileAppendChunkSize)) = true := by
      rw [jumboDisabled, Bool.false_or, decide_eq_true short]
    rw [SDKClient.prepareTransaction, if_pos inline] at ran
    exact execution_uploads ran

/-- The calls of a run that puts two bytes of call data in a file, one digit at a time. -/
def uploadTranscript : List (Exchange Op Answer) := ((submittedSteps.drop 4).take 11).map Prod.fst

private theorem uploadTranscript_ran :
    Ran (fileService.client.submitEthereumTransaction [] "eth_sendRawTransaction" callerRequest "0xa" 100
      ((12 : Nat) / (1 : Nat))).run uploadTranscript
      (.ok { txResponse := { transactionId := "0.0.2@2.1" }, fileId := some "0.0.9" }) :=
  .call (.call (.call (.call (.call (.call (.call (.call (.call (.call (.call .done))))))))))

/-- The four digits are sent in two parts. -/
theorem uploads_uploadTranscript : ∃ (first rest : String) (fileId : FileId),
    first ++ rest = "0102" ∧ first.length ≤ 1 ∧
      uploads uploadTranscript = [.created first, .received fileId,
        .appended { fileId, contents := rest, chunkSize := 1, maxChunks := 20 },
        .submitted { largeData with callData := [] } (some fileId)] := by
  obtain ⟨first, rest, fileId, parts, bounded, -, whole⟩ :=
    (SDKClient.submitEthereumTransaction_uploads fileService.client [] largeData "eth_sendRawTransaction" callerRequest
      "0xa" 100 _ uploadTranscript _ rfl rfl uploadTranscript_ran).1 (by decide)
  exact ⟨first, rest, fileId, parts, bounded, (whole _ rfl).1⟩

end HieroRelay.Hapi
