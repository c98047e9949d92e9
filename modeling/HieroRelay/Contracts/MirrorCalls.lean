import HieroRelay.Contracts.CallRequests
import HieroRelay.Server.HttpStatus

/-! `eth_call` at the mirror node: what is asked there, and what a client is told of each answer, up
to the status of the HTTP reply. -/

namespace HieroRelay.Contracts

open HieroRelay.Blocks (orDefault prepend0x strip0x)
open HieroRelay.Hapi (CONTRACT_REVERT)
open HieroRelay.Js (Json hexDigits toText truthy)
open HieroRelay.Lib
open HieroRelay.Relay (HandlerError JsValue JsonRpcError)
open HieroRelay.Server (KoaJsonRpc ResponseId RpcResult Services translateRpcErrorToHttpStatus)

def MAX_GAS_PER_SEC : Int := 15000000

/-- Nothing where the mirror node is to estimate the gas. -/
def getCappedBlockGasLimit (gasString : String) : Option ParsedNumber :=
  if gasString = "" then none
  else if (parseInt gasString).exceeds MAX_GAS_PER_SEC then some (.finite MAX_GAS_PER_SEC)
  else some (parseInt gasString)

def getFunctionSelector (data : String) : String := String.ofList ((strip0x data).toList.take 8)

/-- The number in the answer to the query for a block. -/
def blockNumberOf (blockHash : String) : Except HandlerError (Option Nat) → Except HandlerError Nat
  | .ok (some number) => .ok number
  | .ok none => .error (.jsonRpc (Debug.RESOURCE_NOT_FOUND ("Block Hash: '" ++ blockHash ++ "'")))
  | .error error => .error error

namespace ContractService

variable (config : CallConfig)

def getBlockNumberFromHash (blockHash : Json) : Evaluating (Option Json) := do
  let text ← ExceptT.mk (.done ((toText config.numberToString blockHash).mapError Relay.Validator.thrown))
  let answer : Except HandlerError (Option Nat) ← awaitOp (.getBlock text)
  let number ← ExceptT.mk (.done (blockNumberOf text answer))
  return some (.str (Relay.numberTo0x number))

/-- The hash of an object, where it names a block by neither. -/
def blockOfHashField : Option Json → Evaluating (Option Json)
  | some .null | none => throw (.jsonRpc (Relay.predefined.INVALID_ARGUMENTS "neither block nor hash specified"))
  | some blockHash => getBlockNumberFromHash config blockHash

/-- The number or tag of the block, with hashes looked up. -/
def extractBlockNumberOrTag (blockParam : Json) : Evaluating (Option Json) :=
  if !truthy (some blockParam) then return none
  else
    match blockParam with
    | .obj fields =>
        match fields.lookup "blockNumber" with
        | some .null | none => blockOfHashField config (fields.lookup "blockHash")
        | some blockNumber => return some blockNumber
    | .arr _ => blockOfHashField config none
    | .str text =>
        if (hexDigits text).any (·.length == 64) then getBlockNumberFromHash config (.str text)
        else return some (.str text)
    | _ => return none

def prepareMirrorNodeCallData (call : FormattedCall) (gas : Option ParsedNumber) (block : Option Json) :
    MirrorCallData where
  call := match gas with
    | some gas => { call with gas := .given (.number gas) }
    | none => call
  estimate := false
  block := block

/-- A response, or what its error stands for. -/
def received : PostOutcome → Except MirrorNodeClientError (Option String)
  | .response result => .ok result
  | .failure error => handleError config.acceptedErrorResponses error

def postContractCall (callData : MirrorCallData) :
    ExceptT MirrorNodeClientError (Prog NodeOp NodeOp.Answer) (Option String) := do
  let outcome : PostOutcome ← ExceptT.lift (Prog.op (NodeOp.postContractCall callData))
  ExceptT.mk (.done (received config outcome))

/-- A response without a result is empty. -/
def resultText (contractCallResponse : Option String) : String :=
  if contractCallResponse.getD "" ≠ "" then prepend0x (contractCallResponse.getD "") else "0x"

def executeMirrorNodeCall (callData : MirrorCallData) :
    ExceptT MirrorNodeClientError (Prog NodeOp NodeOp.Answer) String := do
  let contractCallResponse ← postContractCall config callData
  return resultText contractCallResponse

/-- An error is returned, unless it is one of the mirror node itself. -/
def handleMirrorNodeClientError (e : MirrorNodeClientError) : Except HandlerError (Except JsonRpcError String) :=
  if e.isFailInvalid || e.isInvalidTransaction then .ok (.ok "0x")
  else if e.isContractReverted then .ok (.error (CONTRACT_REVERT (orDefault e.detail e.message) (e.data.getD "")))
  else .error e.toHandlerError

def callMirrorNode (call : FormattedCall) (gas : Option ParsedNumber) (block : Option Json) :
    Evaluating (Except JsonRpcError String) := do
  match ← ExceptT.lift (executeMirrorNodeCall config (prepareMirrorNodeCallData call gas block)).run with
  | .ok response => return .ok response
  | .error e => ExceptT.mk (.done (handleMirrorNodeClientError e))

def isRoutedToConsensus (call : FormattedCall) : Bool :=
  let selector := getFunctionSelector (textOrEmpty call.data)
  (selector != "" && config.ETH_CALL_CONSENSUS_SELECTORS.contains selector) || config.ETH_CALL_DEFAULT_TO_CONSENSUS_NODE

def routeAndExecuteCall (call : FormattedCall) (gas : Option ParsedNumber) (block : Option Json) :
    Evaluating (Except JsonRpcError String) :=
  if isRoutedToConsensus config call then
    awaitOp (.callConsensusNode { sender := call.sender, recipient := call.recipient, data := call.data } gas)
  else callMirrorNode config call gas block

def checkRecipient (recipient : Redis.Field String) : Except HandlerError Unit :=
  if textOrEmpty recipient ≠ "" ∧ isValidEthereumAddress recipient = false then
    .error (.jsonRpc (INVALID_CONTRACT_ADDRESS recipient))
  else .ok ()

def tryCall (call : IContractCallRequest) (blockParam : Json) : Evaluating (Except JsonRpcError String) := do
  ExceptT.mk (.done (checkRecipient call.recipient))
  let blockNumberOrTag ← extractBlockNumberOrTag config blockParam
  let formatted ← contractCallFormat config call
  routeAndExecuteCall config formatted (getCappedBlockGasLimit (textOrEmpty call.gas)) blockNumberOrTag

/-- Other errors than those of the interface and of the mirror node are returned as internal ones. -/
def handleCallError : HandlerError → Except HandlerError (Except JsonRpcError String)
  | .jsonRpc error => .error (.jsonRpc error)
  | .mirrorNodeClient statusCode message fields => .error (.mirrorNodeClient statusCode message fields)
  | .sdkClient _ message _ => .ok (.error (Relay.predefined.INTERNAL_ERROR message))
  | .other message _ => .ok (.error (Relay.predefined.INTERNAL_ERROR message))

def caught : Except HandlerError (Except JsonRpcError String) → Except HandlerError (Except JsonRpcError String)
  | .ok answer => .ok answer
  | .error e => handleCallError e

def call (call : IContractCallRequest) (blockParam : Json) : Evaluating (Except JsonRpcError String) :=
  ExceptT.mk (caught <$> (tryCall config call blockParam).run)

end ContractService

/-- What the handler returns or throws, to the dispatcher. -/
def handlerOutcome : Except HandlerError (Except JsonRpcError String) → Except HandlerError JsValue
  | .ok (.ok text) => .ok (.json (.str text))
  | .ok (.error error) => .ok (.error (.jsonRpc error))
  | .error error => .error error

/-! What is asked. -/

section Asked

variable {config : CallConfig} {transaction : IContractCallRequest} {blockParam : Json}

/-- The block of the request, with the number that the mirror node gave for its hash. -/
def NamesBlock (config : CallConfig) (blockParam : Json) (transcript : List (Exchange NodeOp NodeOp.Answer))
    (block : Option Json) : Prop :=
  ∃ getBlock : Json → Except HandlerError Nat,
    Relay.extractBlockNumberOrTag getBlock (some blockParam) = .ok block ∧
    ∀ blockHash number, getBlock blockHash = .ok number → ∃ text, toText config.numberToString blockHash = .ok text ∧
      (⟨.getBlock text, .ok (some number)⟩ : Exchange NodeOp NodeOp.Answer) ∈ transcript

/-- The gas of a request, which is parsed and capped where there is any. -/
def cappedGas : Redis.Field String → Redis.Field Quantity
  | .undefined => .undefined
  | .null => .null
  | .given text =>
      if text = "" then .given (.text text)
      else if (parseInt text).exceeds MAX_GAS_PER_SEC then .given (.number (.finite MAX_GAS_PER_SEC))
      else .given (.number (parseInt text))

/-- The query that is made of a request, with what was asked for it. -/
structure PreparedFrom (config : CallConfig) (transaction : IContractCallRequest) (blockParam : Json)
    (before : List (Exchange NodeOp NodeOp.Answer)) (query : MirrorCallData) : Prop where
  preparation : ∀ exchange ∈ before, exchange.1.isPreparation
  address : textOrEmpty transaction.recipient ≠ "" → isValidEthereumAddress transaction.recipient = true
  formats : FormatsFields config before transaction query.call
  gas : query.call.gas = cappedGas transaction.gas
  estimate : query.estimate = false
  block : NamesBlock config blockParam before query.block
  routed : ContractService.isRoutedToConsensus config query.call = false

variable {transcript : List (Exchange NodeOp NodeOp.Answer)} {block : Option Json}

theorem NamesBlock.mono {more : List (Exchange NodeOp NodeOp.Answer)}
    (names : NamesBlock config blockParam transcript block) (kept : transcript ⊆ more) :
    NamesBlock config blockParam more block := by
  obtain ⟨getBlock, extracted, looked⟩ := names
  refine ⟨getBlock, extracted, fun blockHash number found => ?_⟩
  obtain ⟨text, written, member⟩ := looked blockHash number found
  exact ⟨text, written, kept member⟩

namespace ContractService

theorem asks_getBlockNumberFromHash (blockHash : Json) :
    (getBlockNumberFromHash config blockHash).run.Asks NodeOp.isPreparation := by
  unfold getBlockNumberFromHash
  cases (toText config.numberToString blockHash).mapError Relay.Validator.thrown with
  | error error => trivial
  | ok text =>
    refine ⟨trivial, fun answer => ?_⟩
    cases answer with
    | error error => trivial
    | ok found =>
      cases found with
      | none => trivial
      | some number => trivial

theorem asks_blockOfHashField (blockHash : Option Json) :
    (blockOfHashField config blockHash).run.Asks NodeOp.isPreparation := by
  unfold blockOfHashField
  split
  · trivial
  · trivial
  · exact asks_getBlockNumberFromHash _

theorem asks_extractBlockNumberOrTag : (extractBlockNumberOrTag config blockParam).run.Asks NodeOp.isPreparation := by
  unfold extractBlockNumberOrTag
  split_ifs
  · trivial
  · split
    · split
      · exact asks_blockOfHashField _
      · exact asks_blockOfHashField _
      · trivial
    · trivial
    · split_ifs
      · exact asks_getBlockNumberFromHash _
      · trivial
    · trivial

/-- A hash that was looked up, with the number in the answer. -/
theorem ran_getBlockNumberFromHash {blockHash : Json}
    (ran : Ran (getBlockNumberFromHash config blockHash).run transcript (.ok block)) :
    ∃ text number, toText config.numberToString blockHash = .ok text ∧ block = some (.str (Relay.numberTo0x number)) ∧
      (⟨.getBlock text, .ok (some number)⟩ : Exchange NodeOp NodeOp.Answer) ∈ transcript := by
  unfold getBlockNumberFromHash at ran
  cases written : toText config.numberToString blockHash with
  | error error =>
    rw [written] at ran
    cases ran
  | ok text =>
    rw [written] at ran
    obtain ⟨answer, others, rfl, followed⟩ := ran_awaitOp_iff.mp ran
    cases answer with
    | error error => cases (ran_done_iff.mp followed).2
    | ok found =>
      cases found with
      | none => cases (ran_done_iff.mp followed).2
      | some number =>
        obtain ⟨-, named⟩ := ran_done_iff.mp followed
        exact ⟨text, number, rfl, (Except.ok.inj named).symm, List.mem_cons_self⟩

/-- The answer that the query for the one hash got. -/
theorem namesBlock_of_hash {blockHash : Json} (extracted : ∀ getBlock,
      Relay.extractBlockNumberOrTag getBlock (some blockParam) =
        Relay.extractBlockNumberOrTag.getBlockNumberFromHash getBlock blockHash)
    (ran : Ran (getBlockNumberFromHash config blockHash).run transcript (.ok block)) :
    NamesBlock config blockParam transcript block := by
  obtain ⟨text, number, written, rfl, member⟩ := ran_getBlockNumberFromHash ran
  refine ⟨fun asked => if asked = blockHash then .ok number else .error (.other "" []), ?_, ?_⟩
  · rw [extracted, Relay.extractBlockNumberOrTag.getBlockNumberFromHash, if_pos rfl]
    rfl
  · intro asked other found
    dsimp only at found
    split_ifs at found with same
    cases found
    exact ⟨text, same ▸ written, member⟩

/-- A block that is not named by its hash. -/
theorem namesBlock_of_extracted (extracted : ∀ getBlock,
      Relay.extractBlockNumberOrTag getBlock (some blockParam) = .ok block) :
    NamesBlock config blockParam transcript block :=
  ⟨fun _ => .error (.other "" []), extracted _, fun _ _ found => nomatch found⟩

theorem namesBlock_of_hashField {blockHash : Option Json} (extracted : ∀ getBlock,
      Relay.extractBlockNumberOrTag getBlock (some blockParam) =
        Relay.extractBlockNumberOrTag.fromHash getBlock blockHash)
    (ran : Ran (blockOfHashField config blockHash).run transcript (.ok block)) :
    NamesBlock config blockParam transcript block := by
  unfold blockOfHashField at ran
  split at ran
  · cases (ran_done_iff.mp ran).2
  · cases (ran_done_iff.mp ran).2
  · next blockHash present =>
    apply namesBlock_of_hash _ ran
    intro getBlock
    rw [extracted]
    rw [Relay.extractBlockNumberOrTag.fromHash.eq_3 getBlock blockHash present]

private theorem namesBlock_of_ran (ran : Ran (extractBlockNumberOrTag config blockParam).run transcript (.ok block)) :
    NamesBlock config blockParam transcript block := by
  unfold extractBlockNumberOrTag at ran
  split_ifs at ran with falsy
  · cases (ran_done_iff.mp ran).2
    apply namesBlock_of_extracted
    intro getBlock
    unfold Relay.extractBlockNumberOrTag
    rw [if_pos falsy]
  · have extracted := fun getBlock => Relay.extractBlockNumberOrTag.eq_def getBlock (some blockParam)
    simp only [if_neg falsy] at extracted
    cases blockParam with
    | obj fields =>
      dsimp only at ran extracted
      cases named : fields.lookup "blockNumber" with
      | none =>
        simp only [named] at ran extracted
        exact namesBlock_of_hashField extracted ran
      | some blockNumber =>
        by_cases missing : blockNumber = .null
        · simp only [named, missing] at ran extracted
          exact namesBlock_of_hashField extracted ran
        · simp only [named] at ran extracted
          cases (ran_done_iff.mp ran).2
          exact namesBlock_of_extracted extracted
    | arr items => cases (ran_done_iff.mp ran).2
    | str text =>
      dsimp only at ran extracted
      split_ifs at ran with hash
      · simp only [if_pos hash] at extracted
        exact namesBlock_of_hash extracted ran
      · simp only [if_neg hash] at extracted
        cases (ran_done_iff.mp ran).2
        exact namesBlock_of_extracted extracted
    | _ =>
      cases (ran_done_iff.mp ran).2
      exact namesBlock_of_extracted extracted

/-- What an answer of the mirror node is made into. -/
def evaluated (config : CallConfig) (answer : PostOutcome) : Except HandlerError (Except JsonRpcError String) :=
  match received config answer with
  | .ok contractCallResponse => .ok (.ok (resultText contractCallResponse))
  | .error e => handleMirrorNodeClientError e

variable {query : MirrorCallData} {answer : PostOutcome} {formatted : FormattedCall} {gas : Option ParsedNumber}
  {outcome : Except HandlerError (Except JsonRpcError String)}

private theorem ran_executeMirrorNodeCall {given : Except MirrorNodeClientError String}
    (ran : Ran (executeMirrorNodeCall config query).run transcript given) :
    ∃ answer, transcript = [⟨.postContractCall query, answer⟩] ∧ given = (received config answer).map resultText := by
  rcases ran_bindExcept_iff.mp ran with ⟨first, second, response, rfl, posted, returned⟩ | ⟨error, rfl, posted⟩
  · obtain ⟨answer, others, rfl, taken⟩ := ran_call_iff.mp posted
    obtain ⟨rfl, known⟩ := ran_done_iff.mp taken
    obtain ⟨rfl, rfl⟩ := ran_done_iff.mp returned
    exact ⟨answer, rfl, by rw [known]; rfl⟩
  · obtain ⟨answer, others, rfl, taken⟩ := ran_call_iff.mp posted
    obtain ⟨rfl, known⟩ := ran_done_iff.mp taken
    exact ⟨answer, rfl, by rw [known]; rfl⟩

private theorem ran_callMirrorNode (ran : Ran (callMirrorNode config formatted gas block).run transcript outcome) :
    ∃ answer, transcript = [⟨.postContractCall (prepareMirrorNodeCallData formatted gas block), answer⟩] ∧
      outcome = evaluated config answer := by
  obtain ⟨first, second, given, rfl, executed, returned⟩ := ran_lift_bind_iff.mp ran
  obtain ⟨answer, rfl, rfl⟩ := ran_executeMirrorNodeCall executed
  refine ⟨answer, ?_⟩
  unfold evaluated
  cases taken : received config answer with
  | ok response =>
    rw [taken] at returned
    obtain ⟨rfl, rfl⟩ := ran_done_iff.mp returned
    exact ⟨rfl, rfl⟩
  | error e =>
    rw [taken] at returned
    obtain ⟨rfl, rfl⟩ := ran_done_iff.mp returned
    exact ⟨rfl, rfl⟩

private theorem checkRecipient_ok {recipient : Redis.Field String} (checked : checkRecipient recipient = .ok ())
    (present : textOrEmpty recipient ≠ "") : isValidEthereumAddress recipient = true := by
  by_contra invalid
  rw [Bool.not_eq_true] at invalid
  rw [checkRecipient, if_pos ⟨present, invalid⟩] at checked
  cases checked

section Prepared
variable (formatted gas block)

/-- Only the gas is changed. -/
theorem prepared_formats {before : List (Exchange NodeOp NodeOp.Answer)}
    (formats : FormatsFields config before transaction formatted) :
    FormatsFields config before transaction (prepareMirrorNodeCallData formatted gas block).call := by
  cases gas with
  | none => exact formats
  | some gas => exact { formats with }

private theorem prepared_data : (prepareMirrorNodeCallData formatted gas block).call.data = formatted.data := by
  cases gas <;> rfl

end Prepared

private theorem prepared_gas (given : formatted.gas = formatGas transaction.gas) :
    (prepareMirrorNodeCallData formatted (getCappedBlockGasLimit (textOrEmpty transaction.gas)) block).call.gas =
      cappedGas transaction.gas := by
  cases asked : transaction.gas with
  | undefined => exact given.trans (congrArg formatGas asked)
  | null => exact given.trans (congrArg formatGas asked)
  | given text =>
    rw [asked] at given
    unfold getCappedBlockGasLimit cappedGas textOrEmpty
    dsimp only
    split_ifs with empty exceeding
    · unfold formatGas at given
      dsimp only at given
      rw [if_pos empty] at given
      exact given
    · rfl
    · rfl

private theorem preparedFrom_of_ran {first second : List (Exchange NodeOp NodeOp.Answer)}
    (checked : checkRecipient transaction.recipient = .ok ())
    (extracted : Ran (extractBlockNumberOrTag config blockParam).run first (.ok block))
    (formats : Ran (contractCallFormat config transaction).run second (.ok formatted))
    (routed : isRoutedToConsensus config formatted = false) :
    PreparedFrom config transaction blockParam (first ++ second)
      (prepareMirrorNodeCallData formatted (getCappedBlockGasLimit (textOrEmpty transaction.gas)) block) where
  preparation :=
    List.forall_mem_append.mpr ⟨asks_extractBlockNumberOrTag.mem extracted, asks_contractCallFormat.mem formats⟩
  address := checkRecipient_ok checked
  formats := prepared_formats _ _ _ ((formats_of_ran formats).mono (List.subset_append_right first second))
  gas := prepared_gas (formats_of_ran formats).gas
  estimate := rfl
  block := (namesBlock_of_ran extracted).mono (List.subset_append_left _ _)
  routed := by
    rw [isRoutedToConsensus, prepared_data]
    exact routed

/-- Where the mirror node is asked, this is the last step, and its answer is the outcome. -/
theorem ran_tryCall (ran : Ran (tryCall config transaction blockParam).run transcript outcome)
    (asked : (⟨.postContractCall query, answer⟩ : Exchange NodeOp NodeOp.Answer) ∈ transcript) :
    ∃ before, transcript = before ++ [⟨.postContractCall query, answer⟩] ∧
      PreparedFrom config transaction blockParam before query ∧ outcome = evaluated config answer := by
  rcases ran_bindExcept_iff.mp ran with ⟨none, rest, _, rfl, checked, named⟩ | ⟨_, -, checked⟩
  · obtain ⟨rfl, valid⟩ := ran_done_iff.mp checked
    rw [List.nil_append] at asked ⊢
    rcases ran_bindExcept_iff.mp named with ⟨first, rest, block, rfl, extracted, prepared⟩ | ⟨_, -, extracted⟩
    · rcases ran_bindExcept_iff.mp prepared with ⟨second, last, formatted, rfl, formats, routed⟩ | ⟨_, -, formats⟩
      · have before : (⟨.postContractCall query, answer⟩ : Exchange NodeOp NodeOp.Answer) ∉ first ++ second := by
          intro early
          rcases List.mem_append.mp early with inFirst | inSecond
          · exact asks_extractBlockNumberOrTag.mem extracted _ inFirst
          · exact asks_contractCallFormat.mem formats _ inSecond
        unfold routeAndExecuteCall at routed
        rw [← List.append_assoc] at asked ⊢
        have late := (List.mem_append.mp asked).resolve_left before
        split_ifs at routed with consensus
        · obtain ⟨result, others, rfl, ended⟩ := ran_call_iff.mp routed
          obtain ⟨rfl, -⟩ := ran_done_iff.mp ended
          cases List.mem_singleton.mp late
        · obtain ⟨given, rfl, rfl⟩ := ran_callMirrorNode routed
          cases List.mem_singleton.mp late
          exact ⟨first ++ second, rfl,
            preparedFrom_of_ran valid extracted formats (Bool.eq_false_iff.mpr consensus), rfl⟩
      · rcases List.mem_append.mp asked with early | late
        · exact (asks_extractBlockNumberOrTag.mem extracted _ early).elim
        · exact (asks_contractCallFormat.mem formats _ late).elim
    · exact (asks_extractBlockNumberOrTag.mem extracted _ asked).elim
  · obtain ⟨rfl, -⟩ := ran_done_iff.mp checked
    cases asked

/-- Errors of the mirror node are passed on as they are. -/
theorem caught_evaluated (config : CallConfig) (answer : PostOutcome) :
    caught (evaluated config answer) = evaluated config answer := by
  unfold evaluated
  cases received config answer with
  | ok response => rfl
  | error e =>
    dsimp only
    unfold handleMirrorNodeClientError
    split_ifs
    · rfl
    · rfl
    · rfl

private theorem ran_call (ran : Ran (call config transaction blockParam).run transcript outcome)
    (asked : (⟨.postContractCall query, answer⟩ : Exchange NodeOp NodeOp.Answer) ∈ transcript) :
    ∃ before, transcript = before ++ [⟨.postContractCall query, answer⟩] ∧
      PreparedFrom config transaction blockParam before query ∧ outcome = evaluated config answer := by
  obtain ⟨first, second, inner, rfl, tried, returned⟩ := ran_bind_iff.mp ran
  obtain ⟨rfl, rfl⟩ := ran_done_iff.mp returned
  rw [List.append_nil] at asked ⊢
  obtain ⟨before, rfl, prepared, rfl⟩ := ran_tryCall tried asked
  exact ⟨before, rfl, prepared, caught_evaluated config answer⟩

end ContractService

end Asked

/-! What a client is told. -/

/-- The HTTP status for an error of the mirror node. -/
def upstreamStatus (statusCode : Nat) : Nat :=
  if statusCode = 404 then 400 else if statusCode = 429 then 429 else if statusCode = 501 then 501 else 500

/-- The message of the mirror node, or of the client where there is none. -/
def firstMessage (error : AxiosError) : StatusMessage :=
  ((error.response.bind fun response => response.messages.head?)).getD
    { message := error.message, detail := none, data := none }

/-- The error stands for an empty result. -/
def StandsForNothing (config : CallConfig) (error : AxiosError) : Prop :=
  (error.response.isSome = true ∧ effectiveStatusCode error ∈ config.acceptedErrorResponses) ∨
    (firstMessage error).message = "FAIL_INVALID" ∨ (firstMessage error).message = "INVALID_TRANSACTION"

/-- The status and the outcome of the reply for an answer of the mirror node. -/
inductive MirrorReply (config : CallConfig) (requestId : String) : PostOutcome → Nat → Server.Outcome → Prop where
  | result {text : String} (present : text ≠ "") :
      MirrorReply config requestId (.response (some text)) 200 (.result (.str (prepend0x text)))
  | empty {result : Option String} (absent : result.getD "" = "") :
      MirrorReply config requestId (.response result) 200 (.result (.str "0x"))
  | nothing {error : AxiosError} (stands : StandsForNothing config error) :
      MirrorReply config requestId (.failure error) 200 (.result (.str "0x"))
  | reverted {error : AxiosError} (own : ¬ StandsForNothing config error) (status : effectiveStatusCode error = 400) :
      MirrorReply config requestId (.failure error) 200 (.error
        ((CONTRACT_REVERT (orDefault (firstMessage error).detail (firstMessage error).message)
          ((firstMessage error).data.getD "")).newWithRequestId requestId))
  | upstream {error : AxiosError} (own : ¬ StandsForNothing config error) (status : effectiveStatusCode error ≠ 400) :
      MirrorReply config requestId (.failure error) (upstreamStatus (effectiveStatusCode error)) (.error
        ((Relay.predefined.MIRROR_NODE_UPSTREAM_FAIL (effectiveStatusCode error)
          (orDefault (some (firstMessage error).message) "Mirror node upstream failure")).newWithRequestId requestId))

section Reply
variable {config : CallConfig} {requestId : String} {error : AxiosError}

theorem new_eq (statusCode : Nat) : MirrorNodeClientError.new error statusCode =
    { statusCode, message := (firstMessage error).message, detail := (firstMessage error).detail,
      data := (firstMessage error).data } := by
  unfold MirrorNodeClientError.new firstMessage
  cases error.response.bind fun response => response.messages.head? with
  | some first => rfl
  | none => rfl

theorem translate_newWithRequestId (reported : JsonRpcError) :
    translateRpcErrorToHttpStatus (reported.newWithRequestId requestId) = translateRpcErrorToHttpStatus reported := by
  unfold JsonRpcError.newWithRequestId
  split_ifs
  · rfl
  · rfl

theorem toString_inj {first second : Nat} (same : toString first = toString second) : first = second := by
  rw [Nat.toString_eq_ofList_toDigits, Nat.toString_eq_ofList_toDigits, String.ofList_inj] at same
  rw [← Nat.ofDigitChars_toDigits (by decide : 1 < 10) (Nat.le_refl 10) (n := first), same,
    Nat.ofDigitChars_toDigits (by decide) (Nat.le_refl 10)]

private theorem translate_upstream (statusCode : Nat) (message : String) :
    translateRpcErrorToHttpStatus (Relay.predefined.MIRROR_NODE_UPSTREAM_FAIL statusCode message) =
      upstreamStatus statusCode := by
  have nonempty : toString statusCode ≠ "" := by
    rw [Nat.toString_eq_repr]
    exact Nat.repr_ne_empty
  have shown : translateRpcErrorToHttpStatus (Relay.predefined.MIRROR_NODE_UPSTREAM_FAIL statusCode message) =
      (Server.MIRROR_NODE_ERROR_MAP.lookup (toString statusCode)).getD 500 := if_pos ⟨rfl, nonempty⟩
  rw [shown, upstreamStatus]
  split_ifs with notFound tooMany notSupported
  · rw [notFound]
    rfl
  · rw [tooMany]
    rfl
  · rw [notSupported]
    rfl
  · have absent : Server.MIRROR_NODE_ERROR_MAP.lookup (toString statusCode) = none := by
      apply List.lookup_eq_none_iff.mpr
      intro entry listed
      simp only [Server.MIRROR_NODE_ERROR_MAP, List.mem_cons, List.not_mem_nil, or_false] at listed
      rw [bne_iff_ne]
      intro same
      rcases listed with rfl | rfl | rfl
      · exact notFound (@toString_inj statusCode 404 same)
      · exact tooMany (@toString_inj statusCode 429 same)
      · exact notSupported (@toString_inj statusCode 501 same)
    rw [absent]
    rfl

/-- The report of an answer that is made into a text. -/
theorem mirrorReply_response (result : Option String) :
    MirrorReply config requestId (.response result) 200 (.result (.str (ContractService.resultText result))) := by
  unfold ContractService.resultText
  split_ifs with present
  · cases result with
    | some text => exact .result present
    | none => exact absurd rfl present
  · exact .empty (not_not.mp present)

theorem dispatch_returned (reported : JsonRpcError) :
    Relay.dispatch (handlerOutcome (.ok (.error reported))) requestId =
      .error (reported.newWithRequestId requestId) := rfl

private theorem dispatch_upstream (e : MirrorNodeClientError) :
    Relay.dispatch (handlerOutcome (.error e.toHandlerError)) requestId =
      .error ((Relay.predefined.MIRROR_NODE_UPSTREAM_FAIL e.statusCode
        (orDefault (some e.message) "Mirror node upstream failure")).newWithRequestId requestId) := by
  change Relay.Report.error ((Relay.predefined.MIRROR_NODE_UPSTREAM_FAIL e.statusCode
    (if (e.message == "") = true then "Mirror node upstream failure" else e.message)).newWithRequestId requestId) = _
  rw [orDefault]
  simp only [beq_iff_eq]

private theorem handleError_accepted (accepted : error.response.isSome = true ∧
    effectiveStatusCode error ∈ config.acceptedErrorResponses) :
    ContractService.evaluated config (.failure error) = .ok (.ok "0x") := by
  have handled : handleError config.acceptedErrorResponses error = .ok none := by
    rw [handleError, if_pos]
    rw [Bool.and_eq_true, List.contains_iff_mem]
    exact accepted
  rw [ContractService.evaluated, ContractService.received, handled]
  rfl

private theorem handleError_rejected (rejected : ¬ (error.response.isSome = true ∧
    effectiveStatusCode error ∈ config.acceptedErrorResponses)) :
    ContractService.evaluated config (.failure error) = ContractService.handleMirrorNodeClientError
      (MirrorNodeClientError.new error (effectiveStatusCode error)) := by
  have handled : handleError config.acceptedErrorResponses error =
      .error (MirrorNodeClientError.new error (effectiveStatusCode error)) := by
    rw [handleError, if_neg]
    rw [Bool.and_eq_true, List.contains_iff_mem]
    exact rejected
  rw [ContractService.evaluated, ContractService.received, handled]

/-- The errors that stand for nothing by their message. -/
theorem named_iff (e : MirrorNodeClientError) :
    (e.isFailInvalid || e.isInvalidTransaction) = true ↔
      e.message = "FAIL_INVALID" ∨ e.message = "INVALID_TRANSACTION" := by
  simp [MirrorNodeClientError.isFailInvalid, MirrorNodeClientError.isInvalidTransaction]

/-- A report, as it is sent, is the reply for the answer of the mirror node. -/
def Replies (config : CallConfig) (requestId : String) (answer : PostOutcome) : Relay.Report → Prop
  | .error reported => MirrorReply config requestId answer (translateRpcErrorToHttpStatus reported) (.error reported)
  | .result value => ∃ text, value = .json (.str text) ∧
      MirrorReply config requestId answer 200 (.result (.str text))

private theorem replies_failure (error : AxiosError) : Replies config requestId (.failure error)
    (Relay.dispatch (handlerOutcome (ContractService.evaluated config (.failure error))) requestId) := by
  by_cases accepted : error.response.isSome = true ∧ effectiveStatusCode error ∈ config.acceptedErrorResponses
  · rw [handleError_accepted accepted]
    exact ⟨"0x", rfl, .nothing (.inl accepted)⟩
  · rw [handleError_rejected accepted, ContractService.handleMirrorNodeClientError]
    have message : (MirrorNodeClientError.new error (effectiveStatusCode error)).message =
        (firstMessage error).message := congrArg MirrorNodeClientError.message (new_eq _)
    split_ifs with named reverted
    · rw [named_iff, message] at named
      exact ⟨"0x", rfl, .nothing (.inr named)⟩
    · have own : ¬ StandsForNothing config error := by
        rw [named_iff, message] at named
        exact not_or.mpr ⟨accepted, named⟩
      rw [MirrorNodeClientError.isContractReverted, new_eq, beq_iff_eq] at reverted
      rw [dispatch_returned, new_eq]
      have translated : translateRpcErrorToHttpStatus ((CONTRACT_REVERT
          (orDefault (firstMessage error).detail (firstMessage error).message)
          ((firstMessage error).data.getD "")).newWithRequestId requestId) = 200 := by
        rw [translate_newWithRequestId]
        rfl
      unfold Replies
      dsimp only
      rw [translated]
      exact .reverted own reverted
    · have own : ¬ StandsForNothing config error := by
        rw [named_iff, message] at named
        exact not_or.mpr ⟨accepted, named⟩
      rw [MirrorNodeClientError.isContractReverted, new_eq, beq_iff_eq] at reverted
      rw [dispatch_upstream, new_eq]
      unfold Replies
      dsimp only
      rw [translate_newWithRequestId, translate_upstream]
      exact .upstream own reverted

private theorem replies_evaluated (answer : PostOutcome) : Replies config requestId answer
    (Relay.dispatch (handlerOutcome (ContractService.evaluated config answer)) requestId) := by
  cases answer with
  | response result => exact ⟨_, rfl, mirrorReply_response result⟩
  | failure error => exact replies_failure error

variable {app : KoaJsonRpc} {services : Services} {request : Json} {carried : ResponseId}
  {transaction : IContractCallRequest} {blockParam : Json} {transcript : List (Exchange NodeOp NodeOp.Answer)}
  {query : MirrorCallData} {answer : PostOutcome} {outcome : Except HandlerError (Except JsonRpcError String)}

end Reply

/-- The defaults of the configuration, with an operator key of that format. -/
def exampleCallConfig : CallConfig where
  numberToString := toString
  acceptedErrorResponses := [404]
  OPERATOR_KEY_FORMAT := "HEX_ECDSA"
  operatorEvmAddress := .given "0x0000000000000000000000000000000000000002"
  operatorAccountId := "0.0.2"
  ETH_CALL_CONSENSUS_SELECTORS := []
  ETH_CALL_DEFAULT_TO_CONSENSUS_NODE := false
  ESTIMATE_GAS_THROWS := true
  TX_DEFAULT_GAS := 400000

/-- A deployment of the empty code with a value, at the head, by nobody and with too much gas. -/
def exampleTransaction : IContractCallRequest where
  gas := .given "0x1000000"
  gasPrice := .given "0x1"
  value := .given "0x2540be400"
  data := .given "0x"

def exampleQuery : MirrorCallData where
  call := {
    sender := exampleCallConfig.operatorEvmAddress
    recipient := .undefined
    gas := .given (.number (.finite 15000000))
    gasPrice := .finite 1
    value := .given (.number (.finite 1))
    data := .given "0x"
    input := .undefined }
  estimate := false
  block := some (.str "latest")

def tooManyRequests : AxiosError where
  response := some { status := 429, messages := [] }
  code := none
  message := "Request failed with status code 429"

def exampleCallRequest : Json :=
  .obj [("jsonrpc", .str "2.0"), ("id", .num 7), ("method", .str "eth_call")]

/-- A relay whose mirror node refuses the call. -/
def refusingServices : Services where
  shouldRateLimit _ _ := .ok false
  executeRpcMethod _ _ := .ok (.ofReport (Relay.dispatch
    (handlerOutcome (ContractService.evaluated exampleCallConfig (.failure tooManyRequests))) "4711"))

private theorem executes_exampleCallRequest :
    KoaJsonRpc.Executes .byDefault refusingServices exampleCallRequest (.num 7) "eth_call" where
  present := Json.noConfusion
  wellFormed := by decide
  carries := by decide
  method := rfl
  unlimited _ := rfl

/-- The value is one tinybar, and the sender is the operator. -/
theorem ran_formatInPlace_example : Ran (formatInPlace exampleCallConfig exampleTransaction).run []
    (.ok { exampleQuery.call with gas := formatGas exampleTransaction.gas }) := by
  have value : Formatting.weibarHexToTinyBarInt "0x2540be400" = some 1 := by decide +kernel
  have price : parseInt "0x1" = .finite 1 := by decide +kernel
  have converted : Ran (formatValue exampleTransaction.value).run [] (.ok exampleQuery.call.value) := by
    unfold formatValue exampleTransaction
    dsimp only
    rw [if_neg (by decide), value]
    exact .done
  have priced : Ran (formatGasPrice exampleTransaction.gasPrice).run [] (.ok exampleQuery.call.gasPrice) := by
    unfold formatGasPrice exampleTransaction textOrEmpty
    dsimp only
    rw [if_pos (by decide), price]
    exact .done
  exact ran_bind_ok_iff.mpr ⟨[], [], _, rfl, ran_adapt_ok_iff.mpr converted,
    ran_bind_ok_iff.mpr ⟨[], [], _, rfl, ran_adapt_ok_iff.mpr priced,
      ran_bind_ok_iff.mpr ⟨[], [], _, rfl, .done, .done⟩⟩⟩

private theorem ran_exampleTransaction : Ran
    (ContractService.call exampleCallConfig exampleTransaction (.str "latest")).run
    [⟨.postContractCall exampleQuery, .failure tooManyRequests⟩]
    (ContractService.evaluated exampleCallConfig (.failure tooManyRequests)) := by
  have capped : getCappedBlockGasLimit "0x1000000" = some (.finite MAX_GAS_PER_SEC) := by decide +kernel
  have routed : Ran (ContractService.routeAndExecuteCall exampleCallConfig
      { exampleQuery.call with gas := formatGas exampleTransaction.gas }
      (getCappedBlockGasLimit (textOrEmpty exampleTransaction.gas)) (some (.str "latest"))).run
      [⟨.postContractCall exampleQuery, .failure tooManyRequests⟩]
      (ContractService.evaluated exampleCallConfig (.failure tooManyRequests)) := by
    unfold exampleTransaction textOrEmpty
    dsimp only
    rw [capped]
    exact .call .done
  have tried : Ran (ContractService.tryCall exampleCallConfig exampleTransaction (.str "latest")).run
      [⟨.postContractCall exampleQuery, .failure tooManyRequests⟩]
      (ContractService.evaluated exampleCallConfig (.failure tooManyRequests)) :=
    ran_bindExcept_iff.mpr (.inl ⟨[], _, _, rfl, .done, ran_bindExcept_iff.mpr (.inl ⟨[], _, _, rfl, .done,
      ran_bindExcept_iff.mpr (.inl ⟨[], _, _, rfl, ran_adapt_ok_iff.mpr ran_formatInPlace_example, routed⟩)⟩)⟩)
  exact ran_bind_iff.mpr ⟨_, [], _, rfl, tried, .done⟩

end HieroRelay.Contracts
