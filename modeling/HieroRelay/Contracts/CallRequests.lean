import HieroRelay.Contracts.ConsensusCalls
import HieroRelay.Debug.DebugImpl
import HieroRelay.Formatting.TransactionValues
import HieroRelay.Relay.EthMethods

/-! The requests of `eth_call` and `eth_estimateGas` as they are prepared for the mirror node, and
what the mirror node makes of them. -/

namespace HieroRelay.Contracts

open HieroRelay.Blocks (leadingHex prepend0x)
open HieroRelay.Js (Json hexDigits isWhiteSpace roundToDouble truthy)
open HieroRelay.Lib (Prog)
open HieroRelay.Relay (HandlerError JsonRpcError)

/-- A number as `parseInt` makes it of a text. -/
inductive ParsedNumber where
  | nan
  | infinite (negative : Bool)
  | finite (value : Int)
  deriving Repr, DecidableEq

def leadingDecimal : List Char → Option Nat → Option Nat
  | [], value => value
  | digit :: rest, value =>
      if digit.isDigit then leadingDecimal rest (some (value.getD 0 * 10 + (digit.toNat - '0'.toNat))) else value

namespace ParsedNumber

/-- The nearest number; beyond the largest one it is infinite. -/
def ofMagnitude (negative : Bool) : Option Nat → ParsedNumber
  | none => .nan
  | some magnitude =>
      if roundToDouble magnitude < 2 ^ 1024 then
        .finite (if negative then -(roundToDouble magnitude : Int) else roundToDouble magnitude)
      else .infinite negative

def exceeds (number : ParsedNumber) (limit : Int) : Bool :=
  match number with
  | .nan => false
  | .infinite negative => !negative
  | .finite value => limit < value

end ParsedNumber

/-- The digits after `0x` are hexadecimal. -/
def parseUnsigned (digits : List Char) : Option Nat :=
  if digits.take 2 = ['0', 'x'] ∨ digits.take 2 = ['0', 'X'] then leadingHex (digits.drop 2) none
  else leadingDecimal digits none

def parseInt (text : String) : ParsedNumber :=
  match text.toList.dropWhile isWhiteSpace with
  | '-' :: digits => .ofMagnitude true (parseUnsigned digits)
  | '+' :: digits => .ofMagnitude false (parseUnsigned digits)
  | digits => .ofMagnitude false (parseUnsigned digits)

/-- The transaction object of a request. -/
structure IContractCallRequest where
  sender : Redis.Field String := .undefined
  recipient : Redis.Field String := .undefined
  gas : Redis.Field String := .undefined
  gasPrice : Redis.Field String := .undefined
  value : Redis.Field String := .undefined
  data : Redis.Field String := .undefined
  input : Redis.Field String := .undefined
  deriving Repr, DecidableEq

/-- A field that is parsed only where it is truthy. -/
inductive Quantity where
  | text (text : String)
  | number (number : ParsedNumber)
  deriving Repr, DecidableEq

def Quantity.isPositive : Quantity → Bool
  | .text _ => false
  | .number amount => amount.exceeds 0

/-- The object after `contractCallFormat`. -/
structure FormattedCall where
  sender : Redis.Field String
  recipient : Redis.Field String
  gas : Redis.Field Quantity
  gasPrice : ParsedNumber
  value : Redis.Field Quantity
  data : Redis.Field String
  input : Redis.Field String
  deriving Repr, DecidableEq

/-- What is posted to the mirror node. -/
structure MirrorCallData where
  call : FormattedCall
  estimate : Bool
  block : Option Json
  deriving DecidableEq

/-- An entry of `_status.messages`. -/
structure StatusMessage where
  message : String
  detail : Option String
  data : Option String
  deriving Repr, DecidableEq

structure AxiosResponse where
  status : Nat
  messages : List StatusMessage
  deriving Repr, DecidableEq

structure AxiosError where
  response : Option AxiosResponse
  code : Option String
  message : String
  deriving Repr, DecidableEq

/-- The response to a call, whose body may be empty, or the error of the HTTP client. -/
inductive PostOutcome where
  | response (result : Option String)
  | failure (error : AxiosError)
  deriving Repr, DecidableEq

structure MirrorNodeClientError where
  statusCode : Nat
  message : String
  detail : Option String
  data : Option String
  deriving Repr, DecidableEq

namespace MirrorNodeClientError

def ErrorCodes : List (String × Nat) :=
  [("ECONNABORTED", 504), ("CONTRACT_REVERT_EXECUTED", 400), ("NOT_SUPPORTED", 501)]

/-- The first message of the mirror node, where there is one, comes before the one of the client. -/
def new (error : AxiosError) (statusCode : Nat) : MirrorNodeClientError :=
  match error.response.bind fun response => response.messages.head? with
  | some first => { statusCode, message := first.message, detail := first.detail, data := first.data }
  | none => { statusCode, message := error.message, detail := none, data := none }

def isContractReverted (error : MirrorNodeClientError) : Bool := error.statusCode == 400

def isContractRevertOpcodeExecuted (error : MirrorNodeClientError) : Bool :=
  error.message == "CONTRACT_REVERT_EXECUTED"

def isFailInvalid (error : MirrorNodeClientError) : Bool := error.message == "FAIL_INVALID"

def isInvalidTransaction (error : MirrorNodeClientError) : Bool := error.message == "INVALID_TRANSACTION"

def toHandlerError (error : MirrorNodeClientError) : HandlerError :=
  .mirrorNodeClient error.statusCode error.message
    ((error.detail.map fun detail => ("detail", Json.str detail)).toList ++
      (error.data.map fun data => ("data", Json.str data)).toList ++ [("statusCode", .num error.statusCode)])

end MirrorNodeClientError

def unknownServerErrorHttpStatusCode : Nat := 567

/-- A status of zero counts as none. -/
def effectiveStatusCode (error : AxiosError) : Nat :=
  let status := (error.response.map AxiosResponse.status).getD 0
  if status ≠ 0 then status
  else (error.code.bind fun code => MirrorNodeClientError.ErrorCodes.lookup code).getD unknownServerErrorHttpStatusCode

/-- Statuses that stand for no result. -/
def handleError (acceptedErrorResponses : List Nat) (error : AxiosError) :
    Except MirrorNodeClientError (Option String) :=
  if error.response.isSome && acceptedErrorResponses.contains (effectiveStatusCode error) then .ok none
  else .error (MirrorNodeClientError.new error (effectiveStatusCode error))

/-- What a service is asked for on behalf of one request. -/
inductive NodeOp where
  | getBlock (blockHash : String)
  | gasPrice
  | getAccount (account : String)
  | postContractCall (callData : MirrorCallData)
  | callConsensusNode (call : ContractCallRequest) (gas : Option ParsedNumber)

/-- The number of a block, a price, the EVM address of an account, and the answers to a call. -/
abbrev NodeOp.Answer : NodeOp → Type
  | .getBlock _ => Except HandlerError (Option Nat)
  | .gasPrice => Except HandlerError String
  | .getAccount _ => Except HandlerError (Option (Redis.Field String))
  | .postContractCall _ => PostOutcome
  | .callConsensusNode _ _ => Except JsonRpcError String

abbrev Evaluating (Result : Type) := ExceptT HandlerError (Prog NodeOp NodeOp.Answer) Result

def awaitOp (op : NodeOp) : Evaluating op.Answer := ExceptT.lift (Prog.op op)

/-- The configuration of the service and of its operator. -/
structure CallConfig where
  numberToString : Rat → String
  acceptedErrorResponses : List Nat
  OPERATOR_KEY_FORMAT : String
  operatorEvmAddress : Redis.Field String
  operatorAccountId : String
  ETH_CALL_CONSENSUS_SELECTORS : List String
  ETH_CALL_DEFAULT_TO_CONSENSUS_NODE : Bool
  ESTIMATE_GAS_THROWS : Bool
  TX_DEFAULT_GAS : Nat

/-- `if (transaction.value) transaction.value = weibarHexToTinyBarInt(transaction.value)` -/
def formatValue : Redis.Field String → Evaluating (Redis.Field Quantity)
  | .undefined => return .undefined
  | .null => return .null
  | .given text =>
      if text = "" then return .given (.text text)
      else
        match Formatting.weibarHexToTinyBarInt text with
        | some tinybars => return .given (.number (.finite tinybars))
        | none => throw (.other ("Cannot convert " ++ text ++ " to a BigInt") [])

def formatGasPrice (gasPrice : Redis.Field String) : Evaluating ParsedNumber := do
  if textOrEmpty gasPrice ≠ "" then return parseInt (textOrEmpty gasPrice)
  else
    let answer : Except HandlerError String ← awaitOp .gasPrice
    let networkGasPrice ← ExceptT.mk (.done answer)
    return parseInt networkGasPrice

def formatGas : Redis.Field String → Redis.Field Quantity
  | .undefined => .undefined
  | .null => .null
  | .given text => if text = "" then .given (.text text) else .given (.number (parseInt text))

/-- `value > 0` -/
def isPositiveValue : Redis.Field Quantity → Bool
  | .undefined => false
  | .null => false
  | .given amount => amount.isPositive

/-- A call with a value is sent by the operator, unless it names its sender. -/
def formatSender (config : CallConfig) (sender : Redis.Field String) (value : Redis.Field Quantity) :
    Evaluating (Redis.Field String) := do
  if textOrEmpty sender = "" ∧ isPositiveValue value = true then
    if config.OPERATOR_KEY_FORMAT = "HEX_ECDSA" then return config.operatorEvmAddress
    else
      let answer : Except HandlerError (Option (Redis.Field String)) ← awaitOp (.getAccount config.operatorAccountId)
      let operatorAccount ← ExceptT.mk (.done answer)
      return operatorAccount.getD .undefined
  else return sender

/-- The input takes the place of the data, unless the data is null or empty. -/
def formatData (data input : Redis.Field String) : Redis.Field String × Redis.Field String :=
  if textOrEmpty input ≠ "" ∧ (data = .undefined ∨ textOrEmpty data ≠ "") then (input, .undefined) else (data, input)

/-- What the object holds at some point of its formatting. -/
structure CallView where
  recipient : Redis.Field String
  value : Redis.Field Quantity
  data : Redis.Field String
  deriving Repr, DecidableEq

def IContractCallRequest.view (transaction : IContractCallRequest) : CallView where
  recipient := transaction.recipient
  value := transaction.value.map .text
  data := transaction.data

def FormattedCall.view (call : FormattedCall) : CallView where
  recipient := call.recipient
  value := call.value
  data := call.data

/-- The object is changed in place: an error leaves it as the steps before have made it. -/
def formatInPlace (config : CallConfig) (transaction : IContractCallRequest) :
    ExceptT (HandlerError × CallView) (Prog NodeOp NodeOp.Answer) FormattedCall := do
  let value ← ExceptT.adapt (fun error => (error, transaction.view)) (formatValue transaction.value)
  let left : CallView := { transaction.view with value }
  let gasPrice ← ExceptT.adapt (fun error => (error, left)) (formatGasPrice transaction.gasPrice)
  let sender ← ExceptT.adapt (fun error => (error, left)) (formatSender config transaction.sender value)
  return {
    sender
    recipient := transaction.recipient
    gas := formatGas transaction.gas
    gasPrice
    value
    data := (formatData transaction.data transaction.input).1
    input := (formatData transaction.data transaction.input).2 }

def contractCallFormat (config : CallConfig) (transaction : IContractCallRequest) : Evaluating FormattedCall :=
  ExceptT.adapt Prod.fst (formatInPlace config transaction)

/-- The preparation of a call asks no node to execute it. -/
def NodeOp.isPreparation : NodeOp → Prop
  | .getBlock _ | .gasPrice | .getAccount _ => True
  | .postContractCall _ | .callConsensusNode _ _ => False

section Preparation
open HieroRelay.Lib

variable {config : CallConfig} {transaction : IContractCallRequest}

theorem ran_awaitOp_iff {Result : Type} {op : NodeOp} {next : op.Answer → Evaluating Result}
    {transcript : List (Exchange NodeOp NodeOp.Answer)} {outcome : Except HandlerError Result} :
    Ran (awaitOp op >>= next).run transcript outcome ↔
      ∃ answer others, transcript = ⟨op, answer⟩ :: others ∧ Ran (next answer).run others outcome :=
  ran_call_iff

private theorem asks_formatValue (value : Redis.Field String) : (formatValue value).run.Asks NodeOp.isPreparation := by
  cases value with
  | undefined => trivial
  | null => trivial
  | given text =>
    unfold formatValue
    dsimp only
    split_ifs
    · trivial
    · cases Formatting.weibarHexToTinyBarInt text with
      | some tinybars => trivial
      | none => trivial

private theorem asks_formatGasPrice (gasPrice : Redis.Field String) :
    (formatGasPrice gasPrice).run.Asks NodeOp.isPreparation := by
  unfold formatGasPrice
  split_ifs
  · trivial
  · refine ⟨trivial, fun answer => ?_⟩
    cases answer with
    | ok price => trivial
    | error error => trivial

private theorem asks_formatSender (sender : Redis.Field String) (value : Redis.Field Quantity) :
    (formatSender config sender value).run.Asks NodeOp.isPreparation := by
  unfold formatSender
  split_ifs
  · trivial
  · refine ⟨trivial, fun answer => ?_⟩
    cases answer with
    | ok account => trivial
    | error error => trivial
  · trivial

theorem asks_formatInPlace : (formatInPlace config transaction).run.Asks NodeOp.isPreparation := by
  apply asks_bindExcept (asks_adapt (asks_formatValue transaction.value))
  intro value
  apply asks_bindExcept (asks_adapt (asks_formatGasPrice transaction.gasPrice))
  intro gasPrice
  apply asks_bindExcept (asks_adapt (asks_formatSender transaction.sender value))
  intro sender
  trivial

theorem asks_contractCallFormat : (contractCallFormat config transaction).run.Asks NodeOp.isPreparation :=
  asks_adapt asks_formatInPlace

/-- The value of a request in tinybars; one that is missing or empty stays as it is. -/
inductive ValueOf : Redis.Field String → Redis.Field Quantity → Prop where
  | undefined : ValueOf .undefined .undefined
  | null : ValueOf .null .null
  | empty : ValueOf (.given "") (.given (.text ""))
  | tinybars {text : String} {tinybars : Int} (present : text ≠ "")
      (converted : Formatting.weibarHexToTinyBarInt text = some tinybars) :
      ValueOf (.given text) (.given (.number (.finite tinybars)))

/-- The gas price of a request, or the one of the network where it has none. -/
inductive GasPriceOf (transcript : List (Exchange NodeOp NodeOp.Answer)) (gasPrice : Redis.Field String) :
    ParsedNumber → Prop where
  | own (present : textOrEmpty gasPrice ≠ "") : GasPriceOf transcript gasPrice (parseInt (textOrEmpty gasPrice))
  | network (missing : textOrEmpty gasPrice = "") {price : String} (told : ⟨.gasPrice, .ok price⟩ ∈ transcript) :
      GasPriceOf transcript gasPrice (parseInt price)

/-- The sender of a request, or the operator where a value is sent by nobody. -/
inductive SenderOf (config : CallConfig) (transcript : List (Exchange NodeOp NodeOp.Answer))
    (sender : Redis.Field String) (value : Redis.Field Quantity) : Redis.Field String → Prop where
  | own (kept : textOrEmpty sender ≠ "" ∨ isPositiveValue value = false) :
      SenderOf config transcript sender value sender
  | operatorKey (missing : textOrEmpty sender = "") (positive : isPositiveValue value = true)
      (format : config.OPERATOR_KEY_FORMAT = "HEX_ECDSA") :
      SenderOf config transcript sender value config.operatorEvmAddress
  | operatorAccount (missing : textOrEmpty sender = "") (positive : isPositiveValue value = true)
      (format : config.OPERATOR_KEY_FORMAT ≠ "HEX_ECDSA") {account : Option (Redis.Field String)}
      (told : ⟨.getAccount config.operatorAccountId, .ok account⟩ ∈ transcript) :
      SenderOf config transcript sender value (account.getD .undefined)

/-- The object that is made of the request, with what was asked for it, whatever its gas. -/
structure FormatsFields (config : CallConfig) (transcript : List (Exchange NodeOp NodeOp.Answer))
    (transaction : IContractCallRequest) (call : FormattedCall) : Prop where
  sender : SenderOf config transcript transaction.sender call.value call.sender
  recipient : call.recipient = transaction.recipient
  gasPrice : GasPriceOf transcript transaction.gasPrice call.gasPrice
  value : ValueOf transaction.value call.value
  data : (call.data, call.input) = formatData transaction.data transaction.input

structure Formats (config : CallConfig) (transcript : List (Exchange NodeOp NodeOp.Answer))
    (transaction : IContractCallRequest) (call : FormattedCall) : Prop extends
    FormatsFields config transcript transaction call where
  gas : call.gas = formatGas transaction.gas

/-- Why no object could be made of the request. -/
inductive Unprepared (config : CallConfig) (transcript : List (Exchange NodeOp NodeOp.Answer))
    (transaction : IContractCallRequest) : HandlerError → Prop where
  | value {text : String} (given : transaction.value = .given text)
      (unreadable : Formatting.weibarHexToTinyBarInt text = none) :
      Unprepared config transcript transaction (.other ("Cannot convert " ++ text ++ " to a BigInt") [])
  | gasPrice {error : HandlerError} (told : ⟨.gasPrice, .error error⟩ ∈ transcript) :
      Unprepared config transcript transaction error
  | operatorAccount {error : HandlerError} (told : ⟨.getAccount config.operatorAccountId, .error error⟩ ∈ transcript) :
      Unprepared config transcript transaction error

variable {transcript more : List (Exchange NodeOp NodeOp.Answer)} {call : FormattedCall}

theorem GasPriceOf.mono {gasPrice : Redis.Field String} {number : ParsedNumber}
    (priced : GasPriceOf transcript gasPrice number) (kept : transcript ⊆ more) : GasPriceOf more gasPrice number := by
  cases priced with
  | own present => exact .own present
  | network missing told => exact .network missing (kept told)

theorem SenderOf.mono {sender sent : Redis.Field String} {value : Redis.Field Quantity}
    (named : SenderOf config transcript sender value sent) (kept : transcript ⊆ more) :
    SenderOf config more sender value sent := by
  cases named with
  | own held => exact .own held
  | operatorKey missing positive format => exact .operatorKey missing positive format
  | operatorAccount missing positive format told => exact .operatorAccount missing positive format (kept told)

theorem FormatsFields.mono (formats : FormatsFields config transcript transaction call) (kept : transcript ⊆ more) :
    FormatsFields config more transaction call :=
  { formats with sender := formats.sender.mono kept, gasPrice := formats.gasPrice.mono kept }

theorem Unprepared.mono {error : HandlerError} (why : Unprepared config transcript transaction error)
    (kept : transcript ⊆ more) : Unprepared config more transaction error := by
  cases why with
  | value given unreadable => exact .value given unreadable
  | gasPrice told => exact .gasPrice (kept told)
  | operatorAccount told => exact .operatorAccount (kept told)

theorem valueOf_of_ran {given : Redis.Field String} {value : Redis.Field Quantity}
    (ran : Ran (formatValue given).run transcript (.ok value)) : ValueOf given value := by
  cases given with
  | undefined =>
    cases ran
    exact .undefined
  | null =>
    cases ran
    exact .null
  | given text =>
    unfold formatValue at ran
    dsimp only at ran
    split_ifs at ran with empty
    · subst empty
      cases ran
      exact .empty
    · cases converted : Formatting.weibarHexToTinyBarInt text with
      | some tinybars =>
        rw [converted] at ran
        cases ran
        exact .tinybars empty converted
      | none =>
        rw [converted] at ran
        cases ran

theorem unprepared_of_ran_value {error : HandlerError}
    (ran : Ran (formatValue transaction.value).run transcript (.error error)) :
    Unprepared config transcript transaction error := by
  cases given : transaction.value with
  | undefined =>
    rw [given] at ran
    cases ran
  | null =>
    rw [given] at ran
    cases ran
  | given text =>
    rw [given] at ran
    unfold formatValue at ran
    dsimp only at ran
    split_ifs at ran
    · cases ran
    · cases converted : Formatting.weibarHexToTinyBarInt text with
      | some tinybars =>
        rw [converted] at ran
        cases ran
      | none =>
        rw [converted] at ran
        obtain ⟨-, same⟩ := ran_done_iff.mp ran
        cases same
        exact .value given converted

variable (config) in
/-- The price that was parsed, or the error that was told instead. -/
theorem ran_formatGasPrice {given : Except HandlerError ParsedNumber}
    (ran : Ran (formatGasPrice transaction.gasPrice).run transcript given) :
    match given with
    | .ok number => GasPriceOf transcript transaction.gasPrice number
    | .error error => Unprepared config transcript transaction error := by
  unfold formatGasPrice at ran
  split_ifs at ran with present
  · cases ran
    exact .own present
  · obtain ⟨answer, others, rfl, followed⟩ := ran_awaitOp_iff.mp ran
    cases answer with
    | ok price =>
      obtain ⟨-, rfl⟩ := ran_done_iff.mp followed
      exact .network (not_not.mp present) List.mem_cons_self
    | error error =>
      obtain ⟨-, rfl⟩ := ran_done_iff.mp followed
      exact .gasPrice List.mem_cons_self

theorem ran_formatSender {value : Redis.Field Quantity} {given : Except HandlerError (Redis.Field String)}
    (ran : Ran (formatSender config transaction.sender value).run transcript given) :
    match given with
    | .ok sent => SenderOf config transcript transaction.sender value sent
    | .error error => Unprepared config transcript transaction error := by
  unfold formatSender at ran
  split_ifs at ran with missing format
  · cases ran
    exact .operatorKey missing.1 missing.2 format
  · obtain ⟨answer, others, rfl, followed⟩ := ran_awaitOp_iff.mp ran
    cases answer with
    | ok account =>
      obtain ⟨-, rfl⟩ := ran_done_iff.mp followed
      exact .operatorAccount missing.1 missing.2 format List.mem_cons_self
    | error error =>
      obtain ⟨-, rfl⟩ := ran_done_iff.mp followed
      exact .operatorAccount List.mem_cons_self
  · cases ran
    refine .own ?_
    rw [← Bool.not_eq_true]
    exact not_and_or.mp missing

theorem formats_of_ran_inPlace (ran : Ran (formatInPlace config transaction).run transcript (.ok call)) :
    Formats config transcript transaction call := by
  obtain ⟨first, _, value, rfl, converted, afterValue⟩ := ran_bind_ok_iff.mp ran
  obtain ⟨second, _, gasPrice, rfl, priced, afterPrice⟩ := ran_bind_ok_iff.mp afterValue
  obtain ⟨third, last, sender, rfl, sent, returned⟩ := ran_bind_ok_iff.mp afterPrice
  cases returned
  have priced := ran_formatGasPrice config (ran_adapt_ok_iff.mp priced)
  have sent := ran_formatSender (ran_adapt_ok_iff.mp sent)
  exact {
    sender := sent.mono fun exchange member => by simp [member]
    recipient := rfl
    gas := rfl
    gasPrice := priced.mono fun exchange member => by simp [member]
    value := valueOf_of_ran (ran_adapt_ok_iff.mp converted)
    data := rfl }

theorem formats_of_ran (ran : Ran (contractCallFormat config transaction).run transcript (.ok call)) :
    Formats config transcript transaction call :=
  formats_of_ran_inPlace (ran_adapt_ok_iff.mp ran)

end Preparation

end HieroRelay.Contracts
