import HieroRelay.Blocks.CommonService
import HieroRelay.Lib.Prog
import HieroRelay.Relay.Types

/-! The calls that the relay makes of the Hedera SDK and of its other services, with what
they answer. The transactions, queries and errors have the fields that the relay reads. -/

namespace HieroRelay.Hapi

open HieroRelay.Blocks (decodeErrorMessage substring)
open HieroRelay.Js (includesText)
open HieroRelay.Relay (JsonRpcError RequestDetails)

/-- The response codes that the relay knows by name. -/
inductive Status where
  | ok
  | insufficientTxFee
  | invalidTransactionId
  | unknown
  | success
  | contractRevertExecuted
  | wrongNonce
  | other (code : Nat) (name : String)
  deriving Repr, DecidableEq

def Status.toString : Status → String
  | .ok => "OK"
  | .insufficientTxFee => "INSUFFICIENT_TX_FEE"
  | .invalidTransactionId => "INVALID_TRANSACTION_ID"
  | .unknown => "UNKNOWN"
  | .success => "SUCCESS"
  | .contractRevertExecuted => "CONTRACT_REVERT_EXECUTED"
  | .wrongNonce => "WRONG_NONCE"
  | .other _ name => name

/-- An error that the SDK throws: `contractErrorMessage` is the one of the function result
inside a `PrecheckStatusError`. -/
structure SdkError where
  status : Option Status
  message : String
  nodeAccountId : Option String := none
  contractErrorMessage : Option String := none
  deriving Repr, DecidableEq

structure SDKClientError where
  status : Status
  message : String
  validNetworkError : Bool
  transactionId : String
  nodeAccountId : Option String
  deriving Repr, DecidableEq

/-- The constructor; the code of `OK` is zero and counts as none. -/
def SDKClientError.new (e : SdkError) (transactionId : Option String) (nodeId : Option String) : SDKClientError where
  status := match e.status with
    | some status => if status = .ok then .unknown else status
    | none => .unknown
  message := e.message
  validNetworkError := e.status.any (· ≠ .ok)
  transactionId := transactionId.getD ""
  nodeAccountId := nodeId

namespace SDKClientError

def isInsufficientTxFee (error : SDKClientError) : Bool := error.status = .insufficientTxFee

def isContractRevertExecuted (error : SDKClientError) : Bool := error.status = .contractRevertExecuted

def isTimeoutExceeded (error : SDKClientError) : Bool :=
  error.status = .unknown && includesText error.message "timeout exceeded"

def isConnectionDropped (error : SDKClientError) : Bool :=
  error.status = .unknown && includesText error.message "Connection dropped"

/-- The SDK has one code for both. -/
def isGrpcTimeout (error : SDKClientError) : Bool := error.status = .invalidTransactionId

end SDKClientError

/-- What the functions of the relay throw. -/
inductive Thrown where
  | jsonRpc (error : JsonRpcError)
  | sdkClient (error : SDKClientError)
  | sdk (error : SdkError)
  | other (message : String)
  deriving Repr, DecidableEq

def Thrown.message : Thrown → String
  | .jsonRpc error => error.message
  | .sdkClient error => error.message
  | .sdk error => error.message
  | .other message => message

/-- What the constructor of another error reads of it. -/
def Thrown.toSdkError (error : Thrown) : SdkError where
  status := match error with
    | .sdkClient error => some error.status
    | .sdk error => error.status
    | _ => none
  message := error.message

def CONTRACT_REVERT (errorMessage : Option String) (data : String := "") : JsonRpcError where
  code := 3
  message :=
    if errorMessage.getD "" ≠ "" then s!"execution reverted: {decodeErrorMessage errorMessage}"
    else
      let decodedData := decodeErrorMessage (some data)
      if decodedData ≠ "" then s!"execution reverted: {decodedData}" else "execution reverted"
  data := some data

abbrev TransactionId := String

abbrev FileId := String

/-- `callData` and `to` of a signed Ethereum transaction, and its other bytes. -/
structure EthereumTransactionData where
  toAddress : String
  callData : List UInt8
  otherFields : List UInt8
  deriving Repr, DecidableEq

inductive Transaction where
  | fileCreate (contents : String)
  | fileDelete (fileId : FileId)
  | ethereum (ethereumData : EthereumTransactionData) (callDataFileId : Option FileId) (maxTransactionFee : Nat)
  deriving Repr, DecidableEq

/-- `transaction.constructor.name` -/
def Transaction.constructorName : Transaction → String
  | .fileCreate _ => "FileCreateTransaction"
  | .fileDelete _ => "FileDeleteTransaction"
  | .ethereum _ _ _ => "EthereumTransaction"

structure FileAppendTransaction where
  fileId : FileId
  contents : String
  chunkSize : Nat
  maxChunks : Nat
  deriving Repr, DecidableEq

structure TransactionResponse where
  transactionId : TransactionId
  deriving Repr, DecidableEq

structure TransactionReceipt where
  status : Status
  fileId : Option FileId
  deriving Repr, DecidableEq

/-- What `execute` does, and the identifier that the transaction has after it. -/
structure Submission where
  outcome : Except SdkError TransactionResponse
  transactionId : Option TransactionId

structure FileInfo where
  size : Nat
  isDeleted : Bool
  deriving Repr, DecidableEq

structure ContractFunctionResult where
  bytes : List UInt8
  deriving Repr, DecidableEq

inductive Query where
  | contractCall (contractId : String) (gas : Nat) (functionParameters sender : Option String)
  | fileInfo (fileId : FileId)
  deriving Repr, DecidableEq

namespace Query

def constructorName : Query → String
  | .contractCall _ _ _ _ => "ContractCallQuery"
  | .fileInfo _ => "FileInfoQuery"

abbrev Response : Query → Type
  | .contractCall _ _ _ _ => ContractFunctionResult
  | .fileInfo _ => FileInfo

end Query

/-- The part of a query that the SDK sets while it executes the query: `queryPayment` is
in tinybars. -/
structure QueryPayment where
  paymentTransactionId : Option TransactionId
  queryPayment : Option Int
  deriving Repr, DecidableEq

structure QueryExecution (query : Query) where
  outcome : Except SdkError query.Response
  payment : QueryPayment

/-- Who waits for the receipt. -/
inductive ReceiptReader where
  | executeTransaction
  | createFile
  deriving Repr, DecidableEq

structure Transfer where
  accountId : String
  amount : Int
  deriving Repr, DecidableEq

/-- The record of a consensus node, with the exchange rate of its receipt in cents. -/
structure TransactionRecord where
  status : Status
  exchangeRate : Option Rat
  transfers : List Transfer
  gasUsed : Option Nat

structure MirrorNodeTransactionRecord where
  transactionId : String
  result : String
  transfers : List Transfer

inductive ExecutionMode where
  | QUERY
  | RECORD
  | TRANSACTION
  deriving Repr, DecidableEq

structure IExecuteTransactionEventPayload where
  transactionId : TransactionId
  requestDetails : RequestDetails
  txConstructorName : String
  operatorAccountId : String
  originalCallerAddress : String
  deriving Repr, DecidableEq

structure IExecuteQueryEventPayload where
  executionMode : ExecutionMode
  transactionId : Option TransactionId
  txConstructorName : String
  cost : Int
  gasUsed : Nat
  status : String
  requestDetails : RequestDetails
  originalCallerAddress : Option String
  deriving Repr, DecidableEq

/-- The events of the emitter that lead to expenses. -/
inductive Event where
  | executeTransaction (payload : IExecuteTransactionEventPayload)
  | executeQuery (payload : IExecuteQueryEventPayload)
  deriving Repr, DecidableEq

/-- A call of `addExpense`, with the execution that it is for. -/
structure Expense where
  cost : Int
  evmAddress : String
  requestDetails : RequestDetails
  executionMode : ExecutionMode
  transactionId : Option TransactionId
  deriving Repr, DecidableEq

structure ExchangeRate where
  centEquivalent : Nat
  hbarEquivalent : Nat
  deriving Repr, DecidableEq

/-- The transaction that `ethers` reads from the raw bytes. -/
structure EthersTransaction where
  sender : Option String
  nonce : Nat
  deriving Repr, DecidableEq

/-- A call that leaves the functions of the client and its callers. -/
inductive Op where
  | shouldLimit (mode : ExecutionMode) (callerName txConstructorName originalCallerAddress : String)
      (requestDetails : RequestDetails) (estimatedTxFee : Option Int)
  | execute (transaction : Transaction)
  | executeAll (transaction : FileAppendTransaction)
  | getReceipt (transactionResponse : TransactionResponse) (reader : ReceiptReader)
  | generate (operatorAccountId : String)
  | getCost (query : Query)
  | executeQuery (query : Query) (payment : QueryPayment)
  | emit (event : Event)
  | setTimeout (delay : Nat)
  | getTransactionRecord (transactionId : TransactionId)
  | getTransactionById (transactionId : TransactionId) (requestDetails : RequestDetails)
  | addExpense (expense : Expense)
  | captureMetrics (mode : ExecutionMode) (type status : String) (cost : Int) (gas : Nat)
  | cachedExchangeRate (requestDetails : RequestDetails)
  | getNetworkExchangeRate (requestDetails : RequestDetails)
  | cacheExchangeRate (rate : ExchangeRate) (ttl : Nat) (requestDetails : RequestDetails)
  | deleteFile (fileId : FileId) (requestDetails : RequestDetails)
      (callerName interactingEntity originalCallerAddress : String)
  | emitEthExecution (requestDetails : RequestDetails)
  | getGasPriceInWeibars (requestDetails : RequestDetails)
  | sendRawTransactionCheck (parsedTx : EthersTransaction) (gasPrice : Nat) (requestDetails : RequestDetails)
  | getContractResult (transactionId : Option String) (requestDetails : RequestDetails)
  | getAccount (address : String) (requestDetails : RequestDetails)
  | getContractRevertReasonFromTransaction (error : Thrown) (requestDetails : RequestDetails)
  | decrementErrorCounter (status : Status)

abbrev Answer : Op → Type
  | .shouldLimit _ _ _ _ _ _ => Except Thrown Bool
  | .execute _ => Submission
  | .executeAll _ => Except SdkError (List TransactionResponse)
  | .getReceipt _ _ => Except SdkError TransactionReceipt
  | .generate _ => TransactionId
  | .getCost _ => Except SdkError Int
  | .executeQuery query _ => QueryExecution query
  | .emit _ => Unit
  | .setTimeout _ => Unit
  | .getTransactionRecord _ => Except SdkError TransactionRecord
  | .getTransactionById _ _ => Except Thrown (Option (List MirrorNodeTransactionRecord))
  | .addExpense _ => Except Thrown Unit
  | .captureMetrics _ _ _ _ _ => Unit
  | .cachedExchangeRate _ => Except Thrown (Option ExchangeRate)
  | .getNetworkExchangeRate _ => Except Thrown ExchangeRate
  | .cacheExchangeRate _ _ _ => Except Thrown Unit
  | .deleteFile _ _ _ _ _ => Unit
  | .emitEthExecution _ => Unit
  | .getGasPriceInWeibars _ => Except Thrown Nat
  | .sendRawTransactionCheck _ _ _ => Except Thrown Unit
  | .getContractResult _ _ => Option (Option String)
  | .getAccount _ _ => Except Thrown Nat
  | .getContractRevertReasonFromTransaction _ _ => Except Thrown Unit
  | .decrementErrorCounter _ => Unit

open HieroRelay.Lib (Prog)

/-- The programs of the relay over these calls. -/
abbrev Throwing (Result : Type) := ExceptT Thrown (Prog Op Answer) Result

def perform (op : Op) : Prog Op Answer (Answer op) := Prog.op op

/-- A call inside a program that may throw. -/
def ask (op : Op) : Throwing (Answer op) := ExceptT.lift (perform op)

/-- An answer that throws where it is an error. -/
def awaited (answer : Except Error Result) (thrown : Error → Thrown) : Throwing Result :=
  ExceptT.mk (pure (answer.mapError thrown))

end HieroRelay.Hapi
