import HieroRelay.Hapi.SDKClient

/-! The listeners of the events of the client: they read the record of a transaction and
add its fee, and the fee of a query, to the expenses of the caller. -/

namespace HieroRelay.Hapi

open HieroRelay.Relay (RequestDetails)

/-- `/\d{1,10}/`, and what follows the digits. -/
def digitsThen (rest : List Char → Bool) (text : List Char) : Bool :=
  let digits := text.takeWhile Char.isDigit
  1 ≤ digits.length && digits.length ≤ 10 && rest (text.dropWhile Char.isDigit)

/-- A character, and what follows it. -/
def characterThen (character : Char) (rest : List Char → Bool) : List Char → Bool
  | first :: text => first = character && rest text
  | [] => false

/-- `/\d{1}/`, and what follows the digit. -/
def digitThen (rest : List Char → Bool) : List Char → Bool
  | digit :: text => digit.isDigit && rest text
  | [] => false

/-- `TRANSACTION_ID_REGEX` at the start of the text. -/
def startsWithTransactionId : List Char → Bool :=
  digitThen <| characterThen '.' <| digitThen <| characterThen '.' <| digitsThen <| characterThen '@' <|
    digitsThen <| characterThen '.' <| digitThen fun _ => true

/-- `TRANSACTION_ID_REGEX.test(text)` -/
def matchesTransactionId (text : String) : Bool := text.toList.tails.any startsWithTransactionId

/-- The text up to the first separator, and the text up to the next one. -/
def splitAtFirst (separator : Char) (text : List Char) : List Char × List Char :=
  (text.takeWhile (· ≠ separator), ((text.dropWhile (· ≠ separator)).drop 1).takeWhile (· ≠ separator))

/-- The first dot becomes a hyphen. -/
def replaceDot : List Char → List Char
  | [] => []
  | char :: rest => if char = '.' then '-' :: rest else char :: replaceDot rest

def formatTransactionId (transactionId : String) : Option String :=
  if matchesTransactionId transactionId then
    let (payer, timestamp) := splitAtFirst '@' transactionId.toList
    some (String.ofList (payer ++ '-' :: replaceDot timestamp))
  else none

def MASKED_IP_ADDRESS : String := "xxx.xxx.xxx.xxx"

structure ITransactionRecordMetric where
  transactionFee : Int
  txRecordChargeAmount : Int
  gasUsed : Nat
  status : String
  deriving Repr, DecidableEq

/-- What the transfers take from the account. -/
def getTransferAmountSumForAccount (transfers : List Transfer) (accountId : String) : Int :=
  (transfers.filter fun transfer => transfer.accountId = accountId ∧ transfer.amount < 0).foldl
    (fun acc transfer => acc - transfer.amount) 0

/-- In tinybars. -/
def calculateTxRecordChargeAmount (exchangeRateInCents : Rat) : Int :=
  mathRound (TRANSACTION_GET_RECORD / exchangeRateInCents * HBAR_TO_TINYBAR_COEF)

def recordError (e : SdkError) : Thrown := .sdkClient (SDKClientError.new e none none)

/-- What the record of a consensus node says. -/
def TransactionRecord.metrics (transactionRecord : TransactionRecord) (operatorAccountId : String) :
    Throwing ITransactionRecordMetric :=
  match transactionRecord.exchangeRate with
  | some exchangeRate => return {
      transactionFee := getTransferAmountSumForAccount transactionRecord.transfers operatorAccountId
      txRecordChargeAmount := calculateTxRecordChargeAmount exchangeRate
      gasUsed := transactionRecord.gasUsed.getD 0
      status := transactionRecord.status.toString }
  | none => throw (recordError { status := none, message := "Cannot read properties of null" })

/-- `getTransactionRecordMetrics` of the client of the consensus nodes. -/
def SDKClient.getTransactionRecordMetrics (transactionId : TransactionId) (operatorAccountId : String) :
    Throwing ITransactionRecordMetric := do
  let transactionRecord : TransactionRecord ← awaited (← ask (.getTransactionRecord transactionId)) recordError
  transactionRecord.metrics operatorAccountId

/-- The record with the identifier among the records of the mirror node. -/
def findRecord (transactionId : TransactionId) (records : List MirrorNodeTransactionRecord) :
    Option MirrorNodeTransactionRecord :=
  records.find? fun record => some record.transactionId = formatTransactionId transactionId

/-- What the records of the mirror node say. -/
def mirrorMetrics (transactionId : TransactionId) (operatorAccountId : String) :
    Option (List MirrorNodeTransactionRecord) → Throwing ITransactionRecordMetric
  | none => throw (.other s!"No transaction record retrieved: transactionId={transactionId}")
  | some records =>
      match findRecord transactionId records with
      | some mirrorNodeTxRecord => return {
          transactionFee := getTransferAmountSumForAccount mirrorNodeTxRecord.transfers operatorAccountId
          txRecordChargeAmount := 0
          gasUsed := 0
          status := mirrorNodeTxRecord.result }
      | none => throw (.other "Cannot read properties of undefined")

/-- `getTransactionRecordMetrics` of the client of the mirror node. -/
def MirrorNodeClient.getTransactionRecordMetrics (transactionId : TransactionId) (operatorAccountId : String)
    (requestDetails : RequestDetails) : Throwing ITransactionRecordMetric := do
  let transactionRecords : Option (List MirrorNodeTransactionRecord) ← awaited (← ask
    (.getTransactionById transactionId { requestId := requestDetails.requestId, ipAddress := MASKED_IP_ADDRESS })) id
  mirrorMetrics transactionId operatorAccountId transactionRecords

namespace MetricService

/-- Errors are only logged. -/
def getTransactionRecordMetrics (defaultToConsensusNode : Bool) (transactionId : TransactionId)
    (operatorAccountId : String) (requestDetails : RequestDetails) : Throwing (Option ITransactionRecordMetric) := do
  let metrics ← ExceptT.lift <| ExceptT.run <|
    if defaultToConsensusNode then SDKClient.getTransactionRecordMetrics transactionId operatorAccountId
    else MirrorNodeClient.getTransactionRecordMetrics transactionId operatorAccountId requestDetails
  match metrics with
  | .ok metrics => return some metrics
  | .error _ => return none

def addExpenseAndCaptureMetrics (payload : IExecuteQueryEventPayload) : Throwing Unit := do
  awaited (← ask (.addExpense {
    cost := payload.cost
    evmAddress := payload.originalCallerAddress.getD ""
    requestDetails := payload.requestDetails
    executionMode := payload.executionMode
    transactionId := payload.transactionId })) id
  ask (.captureMetrics payload.executionMode payload.txConstructorName payload.status payload.cost payload.gasUsed)

/-- The payload of a part of what a transaction cost. -/
def expenseOf (payload : IExecuteTransactionEventPayload) (executionMode : ExecutionMode) (cost : Int) (gasUsed : Nat)
    (status : String) : IExecuteQueryEventPayload where
  executionMode
  transactionId := payload.transactionId
  txConstructorName := payload.txConstructorName
  cost
  gasUsed
  status
  requestDetails := payload.requestDetails
  originalCallerAddress := payload.originalCallerAddress

/-- Costs of zero are not added. -/
def addNonZero (payload : IExecuteQueryEventPayload) : Throwing Unit :=
  if payload.cost ≠ 0 then addExpenseAndCaptureMetrics payload else return ()

def captureTransactionMetrics (defaultToConsensusNode : Bool) (payload : IExecuteTransactionEventPayload) :
    Throwing Unit := do
  match ← getTransactionRecordMetrics defaultToConsensusNode payload.transactionId payload.operatorAccountId
    payload.requestDetails with
  | some { transactionFee, txRecordChargeAmount, gasUsed, status } =>
      addNonZero (expenseOf payload .TRANSACTION transactionFee gasUsed status)
      addNonZero (expenseOf payload .RECORD txRecordChargeAmount 0 status)
  | none => return ()

/-- The listener of an event. -/
def listener (defaultToConsensusNode : Bool) : Event → Throwing Unit
  | .executeTransaction payload => captureTransactionMetrics defaultToConsensusNode payload
  | .executeQuery payload => addExpenseAndCaptureMetrics payload

end MetricService

end HieroRelay.Hapi
