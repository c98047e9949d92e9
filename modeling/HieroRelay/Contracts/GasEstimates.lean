import HieroRelay.Contracts.MirrorCalls
import HieroRelay.Fees.SendRawTransactionCheck

/-! `eth_estimateGas`: the estimate of the mirror node, and the gas that is predefined for the kind of
a transaction where there is none. -/

namespace HieroRelay.Contracts

open HieroRelay.Blocks (prepend0x trimPrecedingZeros)
open HieroRelay.Fees (TX_BASE_COST)
open HieroRelay.Hapi (CONTRACT_REVERT)
open HieroRelay.Js (Json hexDigits)
open HieroRelay.Lib
open HieroRelay.Relay (HandlerError JsonRpcError numberTo0x)
open HieroRelay.Server (KoaJsonRpc ResponseId RpcResult Services translateRpcErrorToHttpStatus)

def TX_CONTRACT_CALL_AVERAGE_GAS : Nat := 500000

def MIN_TX_HOLLOW_ACCOUNT_CREATION_GAS : Nat := 587000

def FUNCTION_SELECTOR_CHAR_LENGTH : Nat := 10

def INVALID_HEX : String := "data field invalid hexadecimal string"

namespace CallView

variable (view : CallView)

def isSimpleTransfer : Bool :=
  textOrEmpty view.recipient != "" && (textOrEmpty view.data == "" || textOrEmpty view.data == "0x")

def isContractCreate : Bool :=
  textOrEmpty view.recipient == "" && textOrEmpty view.data != "" && textOrEmpty view.data != "0x"

def isContractCall : Bool :=
  textOrEmpty view.recipient != "" && textOrEmpty view.data != "" &&
    FUNCTION_SELECTOR_CHAR_LENGTH ≤ (textOrEmpty view.data).length

/-- `Number(transaction.value) >= 0`; a text that was not parsed is empty or no hexadecimal number. -/
def isZeroOrHigher : Bool :=
  match view.value with
  | .undefined => false
  | .null => true
  | .given (.text text) => text == "" || (hexDigits text).any (· ≠ [])
  | .given (.number .nan) => false
  | .given (.number (.infinite negative)) => !negative
  | .given (.number (.finite value)) => decide (0 ≤ value)

end CallView

/-- An own field of an error, where it is a text. -/
def textField (fields : List (String × Json)) (name : String) : Option String :=
  match fields.lookup name with
  | some (.str text) => some text
  | _ => none

namespace ContractService

variable (config : CallConfig)

/-- The errors of a creation that are told; only those of the mirror node know whether they are reverts. -/
def creationRevert : Option HandlerError → Except HandlerError (Option JsonRpcError)
  | none => .ok none
  | some (.mirrorNodeClient statusCode message fields) =>
      if config.ESTIMATE_GAS_THROWS ∧ statusCode = 400 ∧ message ≠ INVALID_HEX then
        .ok (some (CONTRACT_REVERT (textField fields "detail") ((textField fields "data").getD "")))
      else .ok none
  | some _ =>
      if config.ESTIMATE_GAS_THROWS then .error (.other "error.isContractReverted is not a function" []) else .ok none

def invalidValue : JsonRpcError :=
  Relay.predefined.INVALID_PARAMETER "0"
    "Invalid 'value' field in transaction param. Value must be greater than or equal to 0"

def predefinedGasForTransaction (transaction : CallView) (error : Option HandlerError) :
    Evaluating (Except JsonRpcError String) :=
  if transaction.isSimpleTransfer then
    if !transaction.isZeroOrHigher then return .error invalidValue
    else do
      let answer : Except HandlerError (Option (Redis.Field String)) ←
        awaitOp (.getAccount (textOrEmpty transaction.recipient))
      let account ← ExceptT.mk (.done answer)
      return .ok (numberTo0x (if account.isSome then TX_BASE_COST else MIN_TX_HOLLOW_ACCOUNT_CREATION_GAS))
  else if transaction.isContractCreate then do
    match ← ExceptT.mk (.done (creationRevert config error)) with
    | some revert => return .error revert
    | none => return .ok (numberTo0x (Fees.Precheck.transactionIntrinsicGasCost (textOrEmpty transaction.data).toList))
  else if transaction.isContractCall then return .ok (numberTo0x TX_CONTRACT_CALL_AVERAGE_GAS)
  else return .ok (numberTo0x config.TX_DEFAULT_GAS)

/-- The request as it is left, with the response. -/
def estimateGasFromMirrorNode (transaction : IContractCallRequest) :
    ExceptT (HandlerError × CallView) (Prog NodeOp NodeOp.Answer) (CallView × Option String) := do
  let call ← formatInPlace config transaction
  let response ← ExceptT.adapt (fun e : MirrorNodeClientError => (e.toHandlerError, call.view))
    (postContractCall config { call, estimate := true, block := none })
  return (call.view, response)

/-- The error of a call that was executed and reverted. -/
def executedRevert : HandlerError → Option JsonRpcError
  | .mirrorNodeClient _ message fields =>
      if config.ESTIMATE_GAS_THROWS ∧ message = "CONTRACT_REVERT_EXECUTED" then
        some (CONTRACT_REVERT ((textField fields "detail").getD message) ((textField fields "data").getD ""))
      else none
  | _ => none

def estimateGas (transaction : IContractCallRequest) : Evaluating (Except JsonRpcError String) := do
  match ← ExceptT.lift (estimateGasFromMirrorNode config transaction).run with
  | .ok (left, response) =>
      if response.getD "" ≠ "" then return .ok (prepend0x (trimPrecedingZeros (response.getD "")))
      else predefinedGasForTransaction config left none
  | .error (e, left) =>
      match executedRevert config e with
      | some revert => return .error revert
      | none => predefinedGasForTransaction config left (some e)

end ContractService

/-! What a client is told. -/

abbrev NodeTranscript := List (Exchange NodeOp NodeOp.Answer)

/-- The object of the request at some point of its formatting. -/
structure LeftBy (transaction : IContractCallRequest) (left : CallView) : Prop where
  recipient : left.recipient = transaction.recipient
  value : left.value = transaction.value.map .text ∨ ValueOf transaction.value left.value
  data : left.data = transaction.data ∨ left.data = (formatData transaction.data transaction.input).1

/-- The mirror node was asked for the estimate of the request last. -/
structure AsksEstimate (config : CallConfig) (transaction : IContractCallRequest) (transcript : NodeTranscript)
    (answer : PostOutcome) : Prop where
  asked : ∃ before query, transcript = before ++ [⟨.postContractCall query, answer⟩] ∧
    Formats config before transaction query.call ∧ query.estimate = true ∧ query.block = none

/-- The mirror node was not asked, as the request could not be prepared, or it answered with the error. -/
inductive Raised (config : CallConfig) (transaction : IContractCallRequest) (transcript : NodeTranscript) :
    HandlerError → Prop where
  | unprepared {error : HandlerError} (unasked : ∀ exchange ∈ transcript, exchange.1.isPreparation)
      (why : Unprepared config transcript transaction error) : Raised config transaction transcript error
  | answered {answer : PostOutcome} {error : MirrorNodeClientError}
      (asks : AsksEstimate config transaction transcript answer)
      (told : ContractService.received config answer = .error error) :
      Raised config transaction transcript error.toHandlerError

/-- The errors of an estimate that a client is told of. -/
def Reported (config : CallConfig) (left : CallView) : HandlerError → Prop
  | .mirrorNodeClient statusCode message _ =>
      config.ESTIMATE_GAS_THROWS = true ∧ (message = "CONTRACT_REVERT_EXECUTED" ∨
        left.isContractCreate = true ∧ statusCode = 400 ∧ message ≠ INVALID_HEX)
  | _ => config.ESTIMATE_GAS_THROWS = true ∧ left.isContractCreate = true

/-- There is no estimate: the mirror node answered with nothing, or there was an error that is not told. -/
inductive NoEstimate (config : CallConfig) (transaction : IContractCallRequest) (left : CallView)
    (transcript : NodeTranscript) : Prop where
  | empty {answer : PostOutcome} {response : Option String} (asks : AsksEstimate config transaction transcript answer)
      (told : ContractService.received config answer = .ok response) (nothing : response.getD "" = "")
  | failed {error : HandlerError} (raised : Raised config transaction transcript error)
      (unreported : ¬ Reported config left error)

/-- The gas for the kind of a transaction, and for a transfer whether the mirror node knows the account. -/
inductive PredefinedGas (config : CallConfig) (transcript : NodeTranscript) (left : CallView) : Nat → Prop where
  | transfer (kind : left.isSimpleTransfer = true) (value : left.isZeroOrHigher = true) {account : Redis.Field String}
      (known : ⟨.getAccount (textOrEmpty left.recipient), .ok (some account)⟩ ∈ transcript) :
      PredefinedGas config transcript left TX_BASE_COST
  | hollowAccount (kind : left.isSimpleTransfer = true) (value : left.isZeroOrHigher = true)
      (unknown : ⟨.getAccount (textOrEmpty left.recipient), .ok none⟩ ∈ transcript) :
      PredefinedGas config transcript left MIN_TX_HOLLOW_ACCOUNT_CREATION_GAS
  | create (kind : left.isContractCreate = true) :
      PredefinedGas config transcript left (Fees.Precheck.transactionIntrinsicGasCost (textOrEmpty left.data).toList)
  | call (kind : left.isContractCall = true) : PredefinedGas config transcript left TX_CONTRACT_CALL_AVERAGE_GAS
  | other (transfer : left.isSimpleTransfer = false) (create : left.isContractCreate = false)
      (call : left.isContractCall = false) : PredefinedGas config transcript left config.TX_DEFAULT_GAS

/-- What the estimate of a request is: a quantity, or one of the four errors. -/
inductive Estimated (config : CallConfig) (transaction : IContractCallRequest) (transcript : NodeTranscript) :
    Except HandlerError (Except JsonRpcError String) → Prop where
  | estimated {text : String} (asks : AsksEstimate config transaction transcript (.response (some text)))
      (present : text ≠ "") :
      Estimated config transaction transcript (.ok (.ok (prepend0x (trimPrecedingZeros text))))
  | predefined {left : CallView} {gas : Nat} {asked : NodeTranscript} (own : LeftBy transaction left)
      (start : asked <+: transcript) (failed : NoEstimate config transaction left asked)
      (kind : PredefinedGas config transcript left gas) :
      Estimated config transaction transcript (.ok (.ok (numberTo0x gas)))
  | reverted {left : CallView} {statusCode : Nat} {message : String} {fields : List (String × Json)}
      (own : LeftBy transaction left)
      (raised : Raised config transaction transcript (.mirrorNodeClient statusCode message fields))
      (reported : Reported config left (.mirrorNodeClient statusCode message fields)) (errorMessage : Option String) :
      Estimated config transaction transcript
        (.ok (.error (CONTRACT_REVERT errorMessage ((textField fields "data").getD ""))))
  | invalidValue {left : CallView} {asked : NodeTranscript} (own : LeftBy transaction left)
      (start : asked <+: transcript) (failed : NoEstimate config transaction left asked)
      (kind : left.isSimpleTransfer = true) (value : left.isZeroOrHigher = false) :
      Estimated config transaction transcript (.ok (.error ContractService.invalidValue))
  | accountFailed {left : CallView} {asked : NodeTranscript} (own : LeftBy transaction left)
      (start : asked <+: transcript) (failed : NoEstimate config transaction left asked)
      (kind : left.isSimpleTransfer = true) {error : HandlerError}
      (told : ⟨.getAccount (textOrEmpty left.recipient), .error error⟩ ∈ transcript) :
      Estimated config transaction transcript (.error error)
  | notReverted {left : CallView} {error : HandlerError} (own : LeftBy transaction left)
      (throws : config.ESTIMATE_GAS_THROWS = true) (kind : left.isContractCreate = true)
      (unasked : ∀ exchange ∈ transcript, exchange.1.isPreparation)
      (why : Unprepared config transcript transaction error) :
      Estimated config transaction transcript (.error (.other "error.isContractReverted is not a function" []))

section Estimate
variable {config : CallConfig} {transaction : IContractCallRequest} {transcript : NodeTranscript}

private theorem leftBy_view : LeftBy transaction transaction.view := ⟨rfl, .inl rfl, .inl rfl⟩

private theorem leftBy_of_formats {call : FormattedCall} (formats : Formats config transcript transaction call) :
    LeftBy transaction call.view :=
  ⟨formats.recipient, .inr formats.value, .inr (congrArg Prod.fst formats.data)⟩

/-- What an error leaves, and why there is one. -/
theorem ran_formatInPlace_error {error : HandlerError} {left : CallView}
    (ran : Ran (formatInPlace config transaction).run transcript (.error (error, left))) :
    LeftBy transaction left ∧ Unprepared config transcript transaction error := by
  rcases ran_bindExcept_iff.mp ran with ⟨first, _, value, rfl, converted, afterValue⟩ | ⟨_, same, failed⟩
  · have converted := valueOf_of_ran (ran_adapt_ok_iff.mp converted)
    rcases ran_bindExcept_iff.mp afterValue with ⟨second, _, gasPrice, rfl, -, afterPrice⟩ | ⟨_, same, failed⟩
    · rcases ran_bindExcept_iff.mp afterPrice with ⟨third, _, sender, rfl, -, returned⟩ | ⟨_, same, failed⟩
      · cases (ran_done_iff.mp returned).2
      · cases same
        obtain ⟨_, thrown, same⟩ := ran_adapt_error_iff.mp failed
        cases same
        refine ⟨⟨rfl, .inr converted, .inl rfl⟩, (ran_formatSender thrown).mono fun exchange member => ?_⟩
        simp [member]
    · cases same
      obtain ⟨_, thrown, same⟩ := ran_adapt_error_iff.mp failed
      cases same
      refine ⟨⟨rfl, .inr converted, .inl rfl⟩, (ran_formatGasPrice config thrown).mono fun exchange member => ?_⟩
      simp [member]
  · cases same
    obtain ⟨_, thrown, same⟩ := ran_adapt_error_iff.mp failed
    cases same
    exact ⟨leftBy_view, unprepared_of_ran_value thrown⟩

/-- The last step of an estimate at the mirror node is the question, if it comes to it. -/
theorem ran_estimateGasFromMirrorNode {given : Except (HandlerError × CallView) (CallView × Option String)}
    (ran : Ran (ContractService.estimateGasFromMirrorNode config transaction).run transcript given) :
    match given with
    | .ok (left, response) => LeftBy transaction left ∧ ∃ answer, AsksEstimate config transaction transcript answer ∧
        ContractService.received config answer = .ok response
    | .error (error, left) => LeftBy transaction left ∧ Raised config transaction transcript error := by
  rcases ran_bindExcept_iff.mp ran with ⟨first, second, call, rfl, formatted, posted⟩ | ⟨error, rfl, failed⟩
  · have formats := formats_of_ran_inPlace formatted
    have own := leftBy_of_formats formats
    rcases ran_bindExcept_iff.mp posted with ⟨third, last, response, rfl, asked, returned⟩ | ⟨error, rfl, asked⟩
    · obtain ⟨answer, others, rfl, taken⟩ := ran_call_iff.mp (ran_adapt_ok_iff.mp asked)
      obtain ⟨rfl, known⟩ := ran_done_iff.mp taken
      obtain ⟨rfl, rfl⟩ := ran_done_iff.mp returned
      exact ⟨own, answer, ⟨first, _, rfl, formats, rfl, rfl⟩, known⟩
    · obtain ⟨e, thrown, rfl⟩ := ran_adapt_error_iff.mp asked
      obtain ⟨answer, others, rfl, taken⟩ := ran_call_iff.mp thrown
      obtain ⟨rfl, known⟩ := ran_done_iff.mp taken
      exact ⟨own, .answered ⟨first, _, rfl, formats, rfl, rfl⟩ known⟩
  · obtain ⟨own, why⟩ := ran_formatInPlace_error failed
    exact ⟨own, .unprepared (asks_formatInPlace.mem failed) why⟩

variable {first last : NodeTranscript} {left : CallView} {error : Option HandlerError}
  {outcome : Except HandlerError (Except JsonRpcError String)}

/-- An error that is not one of the mirror node came before the question. -/
theorem Raised.unprepared_of_other {e : HandlerError} (raised : Raised config transaction transcript e)
    (other : ∀ statusCode message fields, e ≠ .mirrorNodeClient statusCode message fields) :
    (∀ exchange ∈ transcript, exchange.1.isPreparation) ∧ Unprepared config transcript transaction e := by
  cases raised with
  | unprepared unasked why => exact ⟨unasked, why⟩
  | answered asks told => exact absurd rfl (other _ _ _)

private theorem estimated_transfer (own : LeftBy transaction left) (kind : left.isSimpleTransfer = true)
    (failed : NoEstimate config transaction left first)
    (ran : Ran (ContractService.predefinedGasForTransaction config left error).run last outcome) :
    Estimated config transaction (first ++ last) outcome := by
  have start := List.prefix_append first last
  unfold ContractService.predefinedGasForTransaction at ran
  rw [if_pos kind] at ran
  split_ifs at ran with invalid
  · obtain ⟨rfl, rfl⟩ := ran_done_iff.mp ran
    rw [Bool.not_eq_true'] at invalid
    exact .invalidValue own start failed kind invalid
  · rw [Bool.not_eq_true, Bool.not_eq_false'] at invalid
    obtain ⟨answer, others, rfl, followed⟩ := ran_awaitOp_iff.mp ran
    have told := List.mem_append_right first
      (List.mem_cons_self (a := (⟨.getAccount (textOrEmpty left.recipient), answer⟩ : Exchange NodeOp NodeOp.Answer))
        (l := others))
    cases answer with
    | error failure =>
      obtain ⟨rfl, rfl⟩ := ran_done_iff.mp followed
      exact .accountFailed own start failed kind told
    | ok account =>
      obtain ⟨rfl, rfl⟩ := ran_done_iff.mp followed
      cases account with
      | none => exact .predefined own start failed (.hollowAccount kind invalid told)
      | some account => exact .predefined own start failed (.transfer kind invalid told)

/-- Of a question that was answered with nothing, or with the error. -/
def Unestimated (config : CallConfig) (transaction : IContractCallRequest) (left : CallView)
    (transcript : NodeTranscript) : Option HandlerError → Prop
  | none => NoEstimate config transaction left transcript
  | some error => Raised config transaction transcript error ∧
      ContractService.executedRevert config error = none

/-- An error that is neither an executed revert nor that of a creation is not told. -/
theorem Unestimated.noEstimate (failed : Unestimated config transaction left first error)
    (create : left.isContractCreate ≠ true) : NoEstimate config transaction left first := by
  cases error with
  | none => exact failed
  | some error =>
    obtain ⟨raised, executed⟩ := failed
    apply NoEstimate.failed raised
    cases error with
    | mirrorNodeClient statusCode message fields =>
      rintro ⟨throws, revert | created⟩
      · unfold ContractService.executedRevert at executed
        dsimp only at executed
        rw [if_pos ⟨throws, revert⟩] at executed
        cases executed
      · exact create created.1
    | _ => exact fun reported => create reported.2

private theorem estimated_create (own : LeftBy transaction left) (transfer : left.isSimpleTransfer ≠ true)
    (kind : left.isContractCreate = true) (failed : Unestimated config transaction left first error)
    (ran : Ran (ContractService.predefinedGasForTransaction config left error).run last outcome) :
    Estimated config transaction (first ++ last) outcome := by
  have start := List.prefix_append first last
  unfold ContractService.predefinedGasForTransaction at ran
  rw [if_neg transfer, if_pos kind] at ran
  have predefined : PredefinedGas config (first ++ last) left
    (Fees.Precheck.transactionIntrinsicGasCost (textOrEmpty left.data).toList) := .create kind
  unfold ContractService.creationRevert at ran
  cases error with
  | none =>
    obtain ⟨-, rfl⟩ := ran_done_iff.mp ran
    exact .predefined own start failed predefined
  | some e =>
    obtain ⟨raised, executed⟩ := failed
    cases e with
    | mirrorNodeClient statusCode message fields =>
      dsimp only at ran
      split_ifs at ran with told
      · obtain ⟨rfl, rfl⟩ := ran_done_iff.mp ran
        rw [List.append_nil]
        exact .reverted own raised ⟨told.1, .inr ⟨kind, told.2⟩⟩ _
      · obtain ⟨-, rfl⟩ := ran_done_iff.mp ran
        refine .predefined own start (.failed raised ?_) predefined
        rintro ⟨throws, revert | created⟩
        · unfold ContractService.executedRevert at executed
          dsimp only at executed
          rw [if_pos ⟨throws, revert⟩] at executed
          cases executed
        · exact told ⟨throws, created.2⟩
    | _ =>
      dsimp only at ran
      split_ifs at ran with throws
      · obtain ⟨rfl, rfl⟩ := ran_done_iff.mp ran
        obtain ⟨unasked, why⟩ := raised.unprepared_of_other (by rintro _ _ _ ⟨⟩)
        rw [List.append_nil]
        exact .notReverted own throws kind unasked why
      · obtain ⟨-, rfl⟩ := ran_done_iff.mp ran
        exact .predefined own start (.failed raised fun reported => throws reported.1) predefined

theorem estimated_predefined (own : LeftBy transaction left) (failed : Unestimated config transaction left first error)
    (ran : Ran (ContractService.predefinedGasForTransaction config left error).run last outcome) :
    Estimated config transaction (first ++ last) outcome := by
  by_cases create : left.isContractCreate = true
  · have transfer : left.isSimpleTransfer ≠ true := by
      intro transfer
      unfold CallView.isSimpleTransfer at transfer
      unfold CallView.isContractCreate at create
      simp only [Bool.and_eq_true, bne_iff_ne, beq_iff_eq] at transfer create
      exact transfer.1 create.1.1
    exact estimated_create own transfer create failed ran
  · have missing := failed.noEstimate create
    by_cases transfer : left.isSimpleTransfer = true
    · exact estimated_transfer own transfer missing ran
    · have start := List.prefix_append first last
      unfold ContractService.predefinedGasForTransaction at ran
      rw [if_neg transfer, if_neg create] at ran
      split_ifs at ran with call
      · obtain ⟨-, rfl⟩ := ran_done_iff.mp ran
        exact .predefined own start missing (.call call)
      · obtain ⟨-, rfl⟩ := ran_done_iff.mp ran
        exact .predefined own start missing (.other (Bool.eq_false_iff.mpr transfer) (Bool.eq_false_iff.mpr create)
          (Bool.eq_false_iff.mpr call))

private theorem executedRevert_eq_some {e : HandlerError} {revert : JsonRpcError}
    (executed : ContractService.executedRevert config e = some revert) : ∃ statusCode fields,
      e = .mirrorNodeClient statusCode "CONTRACT_REVERT_EXECUTED" fields ∧ config.ESTIMATE_GAS_THROWS = true ∧
        ∃ errorMessage, revert = CONTRACT_REVERT errorMessage ((textField fields "data").getD "") := by
  cases e with
  | mirrorNodeClient statusCode message fields =>
    unfold ContractService.executedRevert at executed
    dsimp only at executed
    split_ifs at executed with told
    cases executed
    exact ⟨statusCode, fields, by rw [told.2], told.1, _, rfl⟩
  | _ => cases executed

private theorem ran_estimateGas (ran : Ran (ContractService.estimateGas config transaction).run transcript outcome) :
    Estimated config transaction transcript outcome := by
  obtain ⟨first, last, given, rfl, asked, followed⟩ := ran_lift_bind_iff.mp ran
  have told := ran_estimateGasFromMirrorNode asked
  cases given with
  | ok estimate =>
    obtain ⟨left, response⟩ := estimate
    obtain ⟨own, answer, asks, received⟩ := told
    dsimp only at followed
    split_ifs at followed with present
    · obtain ⟨rfl, rfl⟩ := ran_done_iff.mp followed
      rw [List.append_nil]
      cases response with
      | none => exact absurd rfl present
      | some text =>
        cases answer with
        | response result =>
          cases received
          exact .estimated asks present
        | failure error =>
          unfold ContractService.received handleError at received
          dsimp only at received
          split_ifs at received
          cases received
    · have failed : Unestimated config transaction left first none := NoEstimate.empty asks received (not_not.mp present)
      exact estimated_predefined own failed followed
  | error failure =>
    obtain ⟨e, left⟩ := failure
    obtain ⟨own, raised⟩ := told
    dsimp only at followed
    cases executed : ContractService.executedRevert config e with
    | some revert =>
      rw [executed] at followed
      obtain ⟨rfl, rfl⟩ := ran_done_iff.mp followed
      obtain ⟨statusCode, fields, rfl, throws, errorMessage, rfl⟩ := executedRevert_eq_some executed
      rw [List.append_nil]
      exact .reverted own raised ⟨throws, .inl rfl⟩ errorMessage
    | none =>
      rw [executed] at followed
      have failed : Unestimated config transaction left first (some e) := ⟨raised, executed⟩
      exact estimated_predefined own failed followed

/-- The status and the outcome of the reply for an estimate. -/
inductive EstimateReply (requestId : String) :
    Except HandlerError (Except JsonRpcError String) → Nat → Server.Outcome → Prop where
  | quantity (text : String) : EstimateReply requestId (.ok (.ok text)) 200 (.result (.str text))
  | reverted (errorMessage : Option String) (data : String) :
      EstimateReply requestId (.ok (.error (CONTRACT_REVERT errorMessage data))) 200
        (.error ((CONTRACT_REVERT errorMessage data).newWithRequestId requestId))
  | invalidValue : EstimateReply requestId (.ok (.error ContractService.invalidValue)) 400
      (.error (ContractService.invalidValue.newWithRequestId requestId))
  | thrown (error : HandlerError) : EstimateReply requestId (.error error)
      (translateRpcErrorToHttpStatus (Relay.handleRpcMethodError error requestId))
      (.error (Relay.handleRpcMethodError error requestId))

private theorem estimateReply_of_estimated (requestId : String)
    (estimated : Estimated config transaction transcript outcome) :
    match Relay.dispatch (handlerOutcome outcome) requestId with
    | .error reported =>
        EstimateReply requestId outcome (translateRpcErrorToHttpStatus reported) (.error reported)
    | .result value =>
        ∃ text, value = .json (.str text) ∧ EstimateReply requestId outcome 200 (.result (.str text)) := by
  cases estimated with
  | estimated _ _ => exact ⟨_, rfl, .quantity _⟩
  | predefined _ _ _ _ => exact ⟨_, rfl, .quantity _⟩
  | reverted _ _ _ errorMessage =>
    rw [dispatch_returned]
    dsimp only
    rw [translate_newWithRequestId]
    exact .reverted errorMessage _
  | invalidValue _ _ _ _ _ =>
    rw [dispatch_returned]
    dsimp only
    rw [translate_newWithRequestId]
    exact .invalidValue
  | accountFailed _ _ _ _ _ => exact .thrown _
  | notReverted _ _ _ _ _ => exact .thrown _

variable {app : KoaJsonRpc} {services : Services} {request : Json} {carried : ResponseId} {requestId : String}

end Estimate

def exampleEstimateRequest : Json :=
  .obj [("jsonrpc", .str "2.0"), ("id", .num 8), ("method", .str "eth_estimateGas")]

/-- A relay that falls back to the gas of a deployment. -/
def estimatingServices : Services where
  shouldRateLimit _ _ := .ok false
  executeRpcMethod _ _ := .ok (.ofReport (Relay.dispatch (handlerOutcome (.ok (.ok (numberTo0x 400000)))) "4711"))

private theorem executes_exampleEstimateRequest :
    KoaJsonRpc.Executes .byDefault estimatingServices exampleEstimateRequest (.num 8) "eth_estimateGas" where
  present := Json.noConfusion
  wellFormed := by decide
  carries := by decide
  method := rfl
  unlimited _ := rfl

def exampleEstimate : MirrorCallData where
  call := { exampleQuery.call with gas := formatGas exampleTransaction.gas }
  estimate := true
  block := none

private theorem ran_exampleEstimate : Ran (ContractService.estimateGas exampleCallConfig exampleTransaction).run
    [⟨.postContractCall exampleEstimate, .failure tooManyRequests⟩] (.ok (.ok (numberTo0x 400000))) := by
  have asked : Ran (ContractService.estimateGasFromMirrorNode exampleCallConfig exampleTransaction).run
      [⟨.postContractCall exampleEstimate, .failure tooManyRequests⟩]
      (.error ((MirrorNodeClientError.new tooManyRequests 429).toHandlerError, exampleEstimate.call.view)) :=
    ran_bindExcept_iff.mpr (.inl ⟨[], _, _, rfl, ran_formatInPlace_example, .call .done⟩)
  exact ran_lift_bind_iff.mpr ⟨_, [], _, rfl, asked, .done⟩

end HieroRelay.Contracts
