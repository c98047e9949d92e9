import HieroRelay.Hapi.TransactionService
import HieroRelay.Lib.Transcript

/-! How `eth_sendRawTransaction` ends: with the hash that the mirror node has for the
transaction, or with an error. -/

namespace HieroRelay.Hapi

open HieroRelay.Lib (Exchange Prog Ran ran_bind_iff ran_bindExcept_iff ran_call_iff ran_done_iff ran_lift_bind_iff)
open HieroRelay.Relay (RequestDetails)

variable {service : TransactionService} {transactionBuffer : List UInt8} {parsedTx : EthersTransaction}
  {requestDetails : RequestDetails} {transcript : List (Exchange Op Answer)}

theorem ran_ask_bind_iff {op : Op} {next : Answer op → Throwing Second} {outcome : Except Thrown Second} :
    Ran (ask op >>= next).run transcript outcome ↔
      ∃ answer others, transcript = ⟨op, answer⟩ :: others ∧ Ran (next answer).run others outcome := by
  rw [ask, ExceptT.run_bind_lift]
  exact ran_call_iff

theorem ran_return_iff {value : Result} {outcome : Except Thrown Result} :
    Ran (return value : Throwing Result).run transcript outcome ↔ transcript = [] ∧ .ok value = outcome :=
  ran_done_iff

private theorem ran_throw_iff {error : Thrown} {outcome : Except Thrown Result} :
    Ran (throw error : Throwing Result).run transcript outcome ↔ transcript = [] ∧ .error error = outcome :=
  ran_done_iff

namespace TransactionService

section Submission
variable {submitted : Except Thrown SDKClient.SubmittedTransaction}

private theorem not_matchesTransactionId_empty : matchesTransactionId "" = false := by decide

/-- Without an identifier to poll for there is an error. -/
theorem exists_error_of_no_identifier (absent : (submissionResult submitted).1.submittedTransactionId = "") :
    ∃ e, (submissionResult submitted).1.error = some e := by
  cases submitted with
  | error e => exact ⟨e, rfl⟩
  | ok sent =>
    have invalid : matchesTransactionId sent.txResponse.transactionId = false := by
      change sent.txResponse.transactionId = "" at absent
      rw [absent, not_matchesTransactionId_empty]
    exact ⟨_, if_neg (Bool.eq_false_iff.mp invalid)⟩

/-- The only error after a submission is the one of an identifier that is not valid. -/
theorem jsonRpc_of_submitted {e : Thrown} (sent : (submissionResult submitted).1.txSubmitted = true)
    (failed : (submissionResult submitted).1.error = some e) : ∃ error, e = .jsonRpc error := by
  cases submitted with
  | error error => exact absurd sent Bool.false_ne_true
  | ok result =>
    cases valid : matchesTransactionId result.txResponse.transactionId with
    | true => simp [submissionResult, valid] at failed
    | false =>
      simp only [submissionResult, valid] at failed
      exact ⟨_, (Option.some.inj failed).symm⟩

private theorem submitTransaction_result {originalCallerAddress : String} {networkGasPriceInWeiBars : Nat}
    {result : SubmissionResult}
    (ran : Ran (service.submitTransaction transactionBuffer originalCallerAddress networkGasPriceInWeiBars
      requestDetails) transcript result) : ∃ submitted, result = (submissionResult submitted).1 := by
  obtain ⟨_, _, submitted, _, _, rest⟩ := ran_bind_iff.mp ran
  refine ⟨submitted, ?_⟩
  cases file : (submissionResult submitted).2 with
  | none =>
    rw [file] at rest
    exact (ran_done_iff.mp rest).2.symm
  | some fileId =>
    rw [file] at rest
    obtain ⟨_, _, _, ended⟩ := ran_call_iff.mp rest
    exact (ran_done_iff.mp ended).2.symm

end Submission

section Handler
variable {hash : String}

private theorem wrongNonceError_not_hash :
    ¬ Ran (service.wrongNonceError parsedTx requestDetails).run transcript (.ok (.hash hash)) := by
  intro ran
  rcases ran_bindExcept_iff.mp ran with ⟨_, _, updated, _, _, answered⟩ | ⟨_, same, _⟩
  · dsimp only at answered
    split at answered
    · exact absurd (ran_throw_iff.mp answered).2 nofun
    · split at answered
      · exact absurd (ran_return_iff.mp answered).2 nofun
      · exact absurd (ran_return_iff.mp answered).2 nofun
  · exact absurd same nofun

theorem submitted_of_unhandledError_hash {e : Thrown} {txSubmitted : Bool}
    (ran : Ran (service.unhandledError (some e) transactionBuffer txSubmitted requestDetails).run transcript
      (.ok (.hash hash))) : txSubmitted = true := by
  cases txSubmitted with
  | true => rfl
  | false => exact absurd (ran_return_iff.mp ran).2 nofun

/-- The handler ends with a hash only for a submitted transaction and an error that is not
one of JSON-RPC. -/
theorem submitted_of_handler_hash {e : Thrown} {txSubmitted : Bool}
    (ran : Ran (service.sendRawTransactionErrorHandler (some e) transactionBuffer txSubmitted parsedTx
      requestDetails).run transcript (.ok (.hash hash))) :
    txSubmitted = true ∧ ∀ error, e ≠ .jsonRpc error := by
  cases e with
  | jsonRpc error => exact absurd (ran_return_iff.mp ran).2 nofun
  | sdk error => exact ⟨submitted_of_unhandledError_hash ran, nofun⟩
  | other message => exact ⟨submitted_of_unhandledError_hash ran, nofun⟩
  | sdkClient error =>
    refine ⟨?_, nofun⟩
    obtain ⟨_, _, _, handled⟩ := ran_ask_bind_iff.mp ran
    split at handled
    · exact absurd handled wrongNonceError_not_hash
    · exact submitted_of_unhandledError_hash handled

end Handler

section Processor
variable {networkGasPriceInWeiBars : Nat} {outcome : Except Thrown RawTransactionAnswer}

/-- The call that polls for the record of the transaction, with its answer. -/
def polling (result : SubmissionResult) (requestDetails : RequestDetails) (contractResult : Option (Option String)) :
    Exchange Op Answer :=
  ⟨.getContractResult (formatTransactionIdWithoutQueryParams result.submittedTransactionId)
    { requestDetails with ipAddress := MASKED_IP_ADDRESS }, contractResult⟩

/-- The error that the handler is entered with, and the polling before it: the submission
left no identifier to poll for, or the polling did not lead to a hash. -/
inductive Entered (result : SubmissionResult) (requestDetails : RequestDetails) :
    List (Exchange Op Answer) → Thrown → Prop where
  | failed {e : Thrown} (absent : result.submittedTransactionId = "") (failed : result.error = some e) :
      Entered result requestDetails [] e
  | unread {e : Thrown} {contractResult : Option (Option String)} (present : result.submittedTransactionId ≠ "")
      (unread : polledHash result contractResult = .error e) :
      Entered result requestDetails [polling result requestDetails contractResult] e

/-- The polled record has the hash, or there is an error to report. -/
theorem polledHash_ok {result : SubmissionResult} {contractResult : Option (Option String)} {hash : String}
    (polled : polledHash result contractResult = .ok hash) : contractResult = some (some hash) := by
  cases contractResult with
  | none =>
    cases failed : result.error with
    | none => simp [polledHash, failed] at polled
    | some e =>
      simp only [polledHash, failed] at polled
      split at polled
      · exact absurd polled nofun
      · exact absurd polled nofun
  | some read =>
    cases read with
    | none => exact absurd polled nofun
    | some found => exact congrArg (fun hash => some (some hash)) (Except.ok.inj polled)

/-- The calls before the handler, which is entered with an error. -/
theorem processor_run
    (ran : Ran (service.sendRawTransactionProcessor transactionBuffer parsedTx networkGasPriceInWeiBars
      requestDetails).run transcript outcome) :
    ∃ submission submitted,
      Ran (service.submitTransaction transactionBuffer (parsedTx.sender.getD "") networkGasPriceInWeiBars
        requestDetails) submission (submissionResult submitted).1 ∧
      ((∃ hash, outcome = .ok (.hash hash) ∧
          transcript = ⟨.emitEthExecution requestDetails, ()⟩ :: submission ++
            [polling (submissionResult submitted).1 requestDetails (some (some hash))]) ∨
        ∃ polls e handling,
          transcript = ⟨.emitEthExecution requestDetails, ()⟩ :: submission ++ polls ++ handling ∧
          Entered (submissionResult submitted).1 requestDetails polls e ∧
          Ran (service.sendRawTransactionErrorHandler (some e) transactionBuffer
            (submissionResult submitted).1.txSubmitted parsedTx requestDetails).run handling outcome) := by
  obtain ⟨_, _, rfl, rest⟩ := ran_ask_bind_iff.mp ran
  obtain ⟨submission, others, result, rfl, submitting, following⟩ := ran_lift_bind_iff.mp rest
  obtain ⟨submitted, rfl⟩ := submitTransaction_result submitting
  refine ⟨submission, submitted, submitting, ?_⟩
  by_cases absent : (submissionResult submitted).1.submittedTransactionId = ""
  · rw [if_neg (not_not.mpr absent)] at following
    obtain ⟨e, failed⟩ := exists_error_of_no_identifier absent
    rw [failed] at following
    exact .inr ⟨[], e, others, by simp, .failed absent failed, following⟩
  · rw [if_pos absent] at following
    obtain ⟨contractResult, handling, rfl, handled⟩ := ran_ask_bind_iff.mp following
    cases polled : polledHash (submissionResult submitted).1 contractResult with
    | ok hash =>
      rw [polled] at handled
      obtain ⟨rfl, rfl⟩ := ran_return_iff.mp handled
      obtain rfl := polledHash_ok polled
      exact .inl ⟨hash, rfl, by simp [polling]⟩
    | error e =>
      rw [polled] at handled
      exact .inr ⟨_, e, handling, by simp [polling], .unread absent polled, handled⟩

/-- The processor returned the hash that the mirror node returned, or it entered the error
handler with an error, and the handler answered with a hash only if the transaction was
submitted and its record could not be read because of an error that is not one of
JSON-RPC. Every other outcome is an error. -/
def HashJustified (service : TransactionService) (transactionBuffer : List UInt8) (parsedTx : EthersTransaction)
    (networkGasPriceInWeiBars : Nat) (requestDetails : RequestDetails) (transcript : List (Exchange Op Answer))
    (outcome : Except Thrown RawTransactionAnswer) : Prop :=
  ∃ submission result,
    Ran (service.submitTransaction transactionBuffer (parsedTx.sender.getD "") networkGasPriceInWeiBars
      requestDetails) submission result ∧
    ((∃ hash, outcome = .ok (.hash hash) ∧
        transcript = ⟨.emitEthExecution requestDetails, ()⟩ :: submission ++
          [polling result requestDetails (some (some hash))]) ∨
      ∃ polls e handling,
        transcript = ⟨.emitEthExecution requestDetails, ()⟩ :: submission ++ polls ++ handling ∧
        Entered result requestDetails polls e ∧
        Ran (service.sendRawTransactionErrorHandler (some e) transactionBuffer result.txSubmitted parsedTx
          requestDetails).run handling outcome ∧
        ∀ hash, outcome = .ok (.hash hash) → result.txSubmitted = true ∧ polls ≠ [] ∧ ∀ error, e ≠ .jsonRpc error)

theorem sendRawTransactionProcessor_hashJustified
    (ran : Ran (service.sendRawTransactionProcessor transactionBuffer parsedTx networkGasPriceInWeiBars
      requestDetails).run transcript outcome) :
    HashJustified service transactionBuffer parsedTx networkGasPriceInWeiBars requestDetails transcript outcome := by
  obtain ⟨submission, submitted, submitting, ended⟩ := processor_run ran
  refine ⟨submission, _, submitting, ended.imp_right ?_⟩
  rintro ⟨polls, e, handling, same, entered, handled⟩
  refine ⟨polls, e, handling, same, entered, handled, ?_⟩
  rintro hash rfl
  obtain ⟨sent, other⟩ := submitted_of_handler_hash handled
  refine ⟨sent, ?_, other⟩
  cases entered with
  | unread present unread => exact List.cons_ne_nil _ _
  | failed absent failed =>
    obtain ⟨error, jsonRpc⟩ := jsonRpc_of_submitted sent failed
    exact absurd jsonRpc (other error)

/-- The error after a submitted transaction is one of JSON-RPC, with or without polling. -/
theorem Entered.jsonRpc {submitted : Except Thrown SDKClient.SubmittedTransaction} {e : Thrown}
    {polls : List (Exchange Op Answer)} (entered : Entered (submissionResult submitted).1 requestDetails polls e)
    (sent : (submissionResult submitted).1.txSubmitted = true) : ∃ error, e = .jsonRpc error := by
  cases entered with
  | failed absent failed => exact jsonRpc_of_submitted sent failed
  | @unread e contractResult present unread =>
    cases contractResult with
    | some read =>
      cases read with
      | none => exact ⟨_, (Except.error.inj unread).symm⟩
      | some found => exact absurd unread nofun
    | none =>
      cases failed : (submissionResult submitted).1.error with
      | none =>
        simp only [polledHash, failed] at unread
        exact ⟨_, (Except.error.inj unread).symm⟩
      | some error =>
        obtain ⟨cause, rfl⟩ := jsonRpc_of_submitted sent failed
        simp only [polledHash, failed, Thrown.mayReachConsensus] at unread
        exact ⟨_, (Except.error.inj unread).symm⟩

/-- Every hash is one that the mirror node returned: the handler never comes to its own. -/
theorem hash_of_mirrorNode {hash : String}
    (ran : Ran (service.sendRawTransactionProcessor transactionBuffer parsedTx networkGasPriceInWeiBars
      requestDetails).run transcript (.ok (.hash hash))) :
    ∃ result, polling result requestDetails (some (some hash)) ∈ transcript := by
  obtain ⟨submission, submitted, _, ended⟩ := processor_run ran
  rcases ended with ⟨found, same, rfl⟩ | ⟨polls, e, handling, _, entered, handled⟩
  · cases same
    exact ⟨_, List.mem_append_right _ List.mem_cons_self⟩
  · obtain ⟨sent, other⟩ := submitted_of_handler_hash handled
    obtain ⟨error, jsonRpc⟩ := entered.jsonRpc sent
    exact absurd jsonRpc (other error)

end Processor

/-- A service without files, whose transactions have the given nonce. -/
def jumboService (mirrorNodeRequestRetryCount : Nat) : TransactionService where
  relay := {
    chain := "0x12a"
    hederaSpecificRevertStatuses := []
    mirrorNodeRequestRetryCount
    gasPricePercentageBuffer := 0
    transactionCountMaxBlockRange := 1000
    maxBlockRange := 5
    blockRangeLimit := 1000
    exceedsTimestampRange := fun _ _ => false
    keccak256 := fun _ => Vector.replicate 32 0
    getRootHash := fun _ => ""
    uniqTransactions := .firstKept
    uniqHashes := .firstKept }
  client := {
    operatorAccountId := some "0.0.2"
    maxChunks := 20
    fileAppendChunkSize := 5120
    jumboTxEnabled := true
    contractQueryTimeoutRetries := 3
    maxTransactionFeeThreshold := 15000000
    fromBytes := fun _ => .ok { toAddress := "0x5", callData := [], otherFields := [] } }
  useAsyncTxProcessing := false
  mirrorNodeRetryDelay := 250
  fromHex := fun _ => []
  parseRawTransaction := fun _ => .error (.other "invalid transaction")
  computeTransactionHash := fun _ => "0x0"

def caller : RequestDetails := { requestId := "1", ipAddress := "127.0.0.1" }

def callerTransaction (nonce : Nat) : EthersTransaction := { sender := some "0xa", nonce }

/-- The calls of a submission that is answered, and of the polling that finds the record. -/
def recordedCalls : List (Exchange Op Answer) := [
  ⟨.emitEthExecution caller, ()⟩,
  ⟨.cachedExchangeRate caller, .ok (some { centEquivalent := 12, hbarEquivalent := 1 })⟩,
  ⟨.shouldLimit .TRANSACTION "eth_sendRawTransaction" "EthereumTransaction" "0xa" caller none, .ok false⟩,
  ⟨.execute (.ethereum { toAddress := "0x5", callData := [], otherFields := [] } none 15000000),
    { outcome := .ok { transactionId := "0.0.2@2.1" }, transactionId := some "0.0.2@2.1" }⟩,
  ⟨.getReceipt { transactionId := "0.0.2@2.1" } .executeTransaction, .ok { status := .success, fileId := none }⟩,
  ⟨.emit (.executeTransaction {
      transactionId := "0.0.2@2.1", requestDetails := caller, txConstructorName := "EthereumTransaction"
      operatorAccountId := "0.0.2", originalCallerAddress := "0xa" }), ()⟩,
  ⟨.getContractResult (formatTransactionIdWithoutQueryParams "0.0.2@2.1")
    { caller with ipAddress := MASKED_IP_ADDRESS }, some (some "0x7")⟩]

private theorem recordedCalls_ran :
    Ran ((jumboService 3).sendRawTransactionProcessor [] (callerTransaction 5) 100 caller).run recordedCalls
      (.ok (.hash "0x7")) :=
  .call (.call (.call (.call (.call (.call (.call .done))))))

theorem hashJustified_recorded :
    HashJustified (jumboService 3) [] (callerTransaction 5) 100 caller recordedCalls (.ok (.hash "0x7")) :=
  sendRawTransactionProcessor_hashJustified recordedCalls_ran

/-- A mirror node that reports these nonces of the account one after the other; the state
is the number of reports that were made. -/
def reporting (others : (op : Op) → Answer op) (nonces : Nat → Nat) : (op : Op) → Nat → Answer op × Nat
  | .getAccount _ _, reports => (.ok (nonces reports), reports + 1)
  | op, reports => (others op, reports)

/-- The first of these reports with another nonce than the one of the transaction. -/
def firstDiffering (nonce : Nat) (reports : List Nat) : Option Nat := reports.find? (· ≠ nonce)

/-- The answer for a transaction with a wrong nonce compares its nonce with the first
different one that is reported, and is that there is none only if all reports are equal. -/
structure Classified (nonce : Nat) (reports : List Nat) (outcome : Except Thrown RawTransactionAnswer) : Prop where
  tooHigh : ∀ accountNonce, firstDiffering nonce reports = some accountNonce → nonce > accountNonce →
    outcome = .ok (.error (Relay.predefined.NONCE_TOO_HIGH nonce accountNonce))
  tooLow : ∀ accountNonce, firstDiffering nonce reports = some accountNonce → nonce < accountNonce →
    outcome = .ok (.error (Relay.predefined.NONCE_TOO_LOW nonce accountNonce))
  notFound : outcome = .error (.jsonRpc (Relay.predefined.INTERNAL_ERROR
      "Cannot find updated account nonce for WRONG_NONCE error.")) → ∀ accountNonce ∈ reports, accountNonce = nonce

section WrongNonce
variable (others : (op : Op) → Answer op) (nonces : Nat → Nat)

/-- One round of polling. -/
theorem updatedNonce_eval_succ (roundsLeft reports : Nat) :
    (service.updatedNonce parsedTx requestDetails (roundsLeft + 1)).run.eval (reporting others nonces) reports =
      if nonces reports ≠ parsedTx.nonce then (.ok (some (nonces reports)), reports + 1)
      else (service.updatedNonce parsedTx requestDetails roundsLeft).run.eval (reporting others nonces) (reports + 1) := by
  change Prog.eval _ (ExceptT.run (if nonces reports ≠ parsedTx.nonce then return some (nonces reports) else do
    ask (.setTimeout service.mirrorNodeRetryDelay)
    service.updatedNonce parsedTx requestDetails roundsLeft : Throwing (Option Nat))) (reports + 1) = _
  split
  · rfl
  · rfl

/-- The rounds of polling find the first different report. -/
theorem updatedNonce_eval (roundsLeft reports : Nat) :
    ((service.updatedNonce parsedTx requestDetails roundsLeft).run.eval (reporting others nonces) reports).1 =
      .ok (firstDiffering parsedTx.nonce ((List.range' reports roundsLeft).map nonces)) := by
  induction roundsLeft generalizing reports with
  | zero => rfl
  | succ roundsLeft ih =>
    rw [updatedNonce_eval_succ, List.range'_succ, List.map_cons, firstDiffering]
    by_cases differs : nonces reports ≠ parsedTx.nonce
    · rw [if_pos differs, List.find?_cons_of_pos (by simpa using differs)]
    · rw [if_neg differs, List.find?_cons_of_neg (by simpa using differs)]
      exact ih (reports + 1)

/-- The reports that the rounds of polling can come to. -/
def reported (service : TransactionService) (nonces : Nat → Nat) : List Nat :=
  (List.range service.relay.mirrorNodeRequestRetryCount).map nonces

/-- The answer of the handler after the polling. -/
theorem handler_eval {error : SDKClientError} (wrongNonce : error.status = .wrongNonce) (txSubmitted : Bool) :
    ((service.sendRawTransactionErrorHandler (some (.sdkClient error)) transactionBuffer txSubmitted parsedTx
        requestDetails).run.eval (reporting others nonces) 0).1 =
      if (firstDiffering parsedTx.nonce (service.reported nonces)).getD 0 = 0 then
        .error (.jsonRpc (Relay.predefined.INTERNAL_ERROR "Cannot find updated account nonce for WRONG_NONCE error."))
      else if parsedTx.nonce > (firstDiffering parsedTx.nonce (service.reported nonces)).getD 0 then
        .ok (.error (Relay.predefined.NONCE_TOO_HIGH parsedTx.nonce
          ((firstDiffering parsedTx.nonce (service.reported nonces)).getD 0)))
      else
        .ok (.error (Relay.predefined.NONCE_TOO_LOW parsedTx.nonce
          ((firstDiffering parsedTx.nonce (service.reported nonces)).getD 0))) := by
  change (Prog.eval _ (ExceptT.run (if error.status = .wrongNonce then service.wrongNonceError parsedTx requestDetails
    else service.unhandledError (some (.sdkClient error)) transactionBuffer txSubmitted requestDetails)) 0).1 = _
  rw [if_pos wrongNonce, wrongNonceError, ExceptT.run_bind, Prog.eval_bind, updatedNonce_eval, ← List.range_eq_range',
    reported]
  dsimp only
  split
  · rfl
  · split
    · rfl
    · rfl

/-- The classification is right exactly if the first different nonce is not zero, which
counts as none. -/
theorem wrongNonce_classified_iff (service : TransactionService) (transactionBuffer : List UInt8) (txSubmitted : Bool)
    (parsedTx : EthersTransaction) (requestDetails : RequestDetails) {error : SDKClientError}
    (wrongNonce : error.status = .wrongNonce) :
    Classified parsedTx.nonce (service.reported nonces)
        ((service.sendRawTransactionErrorHandler (some (.sdkClient error)) transactionBuffer txSubmitted parsedTx
          requestDetails).run.eval (reporting others nonces) 0).1 ↔
      firstDiffering parsedTx.nonce (service.reported nonces) ≠ some 0 := by
  rw [handler_eval others nonces wrongNonce txSubmitted]
  constructor
  · intro classified zero
    have differs : 0 ≠ parsedTx.nonce := by simpa using List.find?_some zero
    have answered := classified.tooHigh 0 zero (by omega)
    rw [zero] at answered
    exact absurd answered nofun
  · intro nonzero
    cases first : firstDiffering parsedTx.nonce (service.reported nonces) with
    | none =>
      constructor
      · intro accountNonce found
        cases first.symm.trans found
      · intro accountNonce found
        cases first.symm.trans found
      · rintro - accountNonce member
        by_contra differs
        have equal := List.find?_eq_none.mp first accountNonce member
        simp [differs] at equal
    | some accountNonce =>
      have present : accountNonce ≠ 0 := by
        rintro rfl
        exact nonzero first
      rw [Option.getD_some, if_neg present]
      constructor
      · intro _ found higher
        cases first.symm.trans found
        rw [if_pos higher]
      · intro _ found lower
        cases first.symm.trans found
        rw [if_neg (by omega)]
      · intro failed
        split at failed
        · cases failed
        · cases failed

end WrongNonce

def wrongNonce : SDKClientError :=
  SDKClientError.new { status := some .wrongNonce, message := "WRONG_NONCE" } (some "0.0.2@2.1") none

/-- What the other calls answer, which the handler does not make. -/
def unasked : (op : Op) → Answer op
  | .shouldLimit _ _ _ _ _ _ => .ok false
  | .execute _ => { outcome := .ok { transactionId := "0.0.2@2.1" }, transactionId := none }
  | .executeAll _ => .ok []
  | .getReceipt _ _ => .ok { status := .success, fileId := none }
  | .generate _ => "0.0.2@2.1"
  | .getCost _ => .ok 0
  | .executeQuery (.contractCall _ _ _ _) payment => { outcome := .ok { bytes := [] }, payment }
  | .executeQuery (.fileInfo _) payment => { outcome := .ok { size := 0, isDeleted := false }, payment }
  | .emit _ => ()
  | .setTimeout _ => ()
  | .getTransactionRecord _ => .error { status := none, message := "" }
  | .getTransactionById _ _ => .ok none
  | .addExpense _ => .ok ()
  | .captureMetrics _ _ _ _ _ => ()
  | .cachedExchangeRate _ => .ok none
  | .getNetworkExchangeRate _ => .ok { centEquivalent := 12, hbarEquivalent := 1 }
  | .cacheExchangeRate _ _ _ => .ok ()
  | .deleteFile _ _ _ _ _ => ()
  | .emitEthExecution _ => ()
  | .getGasPriceInWeibars _ => .ok 0
  | .sendRawTransactionCheck _ _ _ => .ok ()
  | .getContractResult _ _ => none
  | .getAccount _ _ => .ok 0
  | .getContractRevertReasonFromTransaction _ _ => .ok ()
  | .decrementErrorCounter _ => ()

/-- The nonce is reported after one equal report. -/
theorem wrongNonce_classified_second :
    Classified 7 [7, 5, 5]
      (((jumboService 3).sendRawTransactionErrorHandler (some (.sdkClient wrongNonce)) [] false (callerTransaction 7)
        caller).run.eval (reporting unasked fun reports => if reports = 0 then 7 else 5) 0).1 :=
  (wrongNonce_classified_iff unasked (fun reports => if reports = 0 then 7 else 5) (jumboService 3) [] false
    (callerTransaction 7) caller (by decide)).mpr (by decide)

/-- The account has sent no transaction, and the one with nonce 3 is too high. -/
theorem wrongNonce_unclassified_zero :
    ¬ ∀ (others : (op : Op) → Answer op) (nonces : Nat → Nat) (service : TransactionService) transactionBuffer txSubmitted
      parsedTx requestDetails (error : SDKClientError), error.status = .wrongNonce →
      Classified parsedTx.nonce (service.reported nonces)
        ((service.sendRawTransactionErrorHandler (some (.sdkClient error)) transactionBuffer txSubmitted parsedTx
          requestDetails).run.eval (reporting others nonces) 0).1 := by
  intro classified
  have answered := (classified unasked (fun _ => 0) (jumboService 3) [] false (callerTransaction 3) caller wrongNonce
    (by decide)).tooHigh 0 (by decide) (by decide)
  rw [handler_eval unasked (fun _ => 0) (by decide) false] at answered
  exact absurd answered nofun

end TransactionService

end HieroRelay.Hapi
