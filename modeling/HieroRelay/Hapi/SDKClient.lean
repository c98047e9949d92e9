import HieroRelay.Hapi.Sdk

/-! The client of the consensus nodes: every transaction and query that the operator pays
for goes through it. A `finally` block runs after the answer is known and before the
function settles. -/

namespace HieroRelay.Hapi

open HieroRelay.Blocks (TINYBAR_TO_WEIBAR_COEF startsWith strip0x)
open HieroRelay.Relay (RequestDetails)
open HieroRelay.Lib (Prog)

/-- The configuration of a client. `fromBytes` is the decoding of signed transactions. -/
structure SDKClient where
  operatorAccountId : Option String
  maxChunks : Nat
  fileAppendChunkSize : Nat
  jumboTxEnabled : Bool
  contractQueryTimeoutRetries : Nat
  maxTransactionFeeThreshold : Nat
  fromBytes : List UInt8 → Except Thrown EthereumTransactionData

/-- In cents. -/
def FILE_CREATE_PER_5_KB : Rat := 951 / 100

def FILE_APPEND_PER_5_KB : Rat := 955 / 100

def FILE_APPEND_BASE_FEE : Rat := 39 / 10

def FILE_APPEND_RATE_PER_BYTE : Rat := 11 / 10000

def TRANSACTION_GET_RECORD : Rat := 1 / 100

def HBAR_TO_TINYBAR_COEF : Rat := 100000000

/-- `Math.round` -/
def mathRound (value : Rat) : Int := (value + 1 / 2).floor

/-- In tinybars. -/
def estimateFileTransactionsFee (callDataSize fileChunkSize : Nat) (currentNetworkExchangeRateInCents : Rat) : Int :=
  let fileAppendTransactions : Rat := (callDataSize / fileChunkSize : Nat) - 1
  let lastFileAppendChunkFeeInCents :=
    FILE_APPEND_BASE_FEE + (callDataSize % fileChunkSize : Nat) * FILE_APPEND_RATE_PER_BYTE
  let totalTxFeeInCents :=
    FILE_CREATE_PER_5_KB + FILE_APPEND_PER_5_KB * fileAppendTransactions + lastFileAppendChunkFeeInCents
  mathRound (totalTxFeeInCents / currentNetworkExchangeRateInCents * HBAR_TO_TINYBAR_COEF)

def weibarHexToTinyBarInt (weibars : Nat) : Nat :=
  if weibars / TINYBAR_TO_WEIBAR_COEF = 0 ∧ weibars > 0 then 1 else weibars / TINYBAR_TO_WEIBAR_COEF

/-- `Buffer.from(data).toString('hex')` -/
def toHexText (data : List UInt8) : List Char :=
  data.flatMap fun byte => [Nat.digitChar (byte.toNat / 16), Nat.digitChar (byte.toNat % 16)]

/-- `Math.pow(QUERY_COST_INCREMENTATION_STEP, retry)` as the numbers of the runtime. -/
def costMultiplier : Nat → Rat
  | 0 => 1
  | 1 => 11 / 10
  | 2 => 12100000000000002 / 10000000000000000
  | _ => 13310000000000004 / 10000000000000000

/-- `baseCost._valueInTinybar.multipliedBy(multiplier).toFixed(0)` -/
def increasedCost (baseCost : Int) (currentRetry : Nat) : Int := mathRound (baseCost * costMultiplier currentRetry)

namespace SDKClient

variable (client : SDKClient)

/-- What `executeTransaction` makes of an error before there is a response. -/
def unanswered (transaction : Transaction) (submission : Submission) (e : SdkError) (callerName : String)
    (requestId : String) : Thrown :=
  let sdkClientError := SDKClientError.new e submission.transactionId e.nodeAccountId
  if sdkClientError.status = .wrongNonce then .sdkClient sdkClientError
  else if sdkClientError.isConnectionDropped || sdkClientError.isTimeoutExceeded then .sdkClient sdkClientError
  else
    let transactionId := submission.transactionId.getD "null"
    .jsonRpc (Relay.predefined.INTERNAL_ERROR
      (s!"{requestId} Transaction execution returns a null value: " ++
        s!"transactionId={transactionId}, callerName={callerName}, " ++
        s!"txConstructorName={transaction.constructorName}"))

/-- The event of the `finally` blocks of the transactions. -/
def emitTransaction (transactionId : TransactionId) (requestDetails : RequestDetails)
    (txConstructorName originalCallerAddress : String) : Throwing Unit :=
  match client.operatorAccountId with
  | some operatorAccountId => ask (.emit (.executeTransaction {
      transactionId, requestDetails, txConstructorName, operatorAccountId, originalCallerAddress }))
  | none => throw (.other "Cannot read properties of null (reading 'toString')")

/-- The check of the limiter before a transaction, where it is asked for. -/
def throwHbarLimit (shouldThrowHbarLimit : Bool) (callerName txConstructorName originalCallerAddress : String)
    (requestDetails : RequestDetails) (estimatedTxFee : Option Int) : Throwing Unit := do
  if shouldThrowHbarLimit then
    let shouldLimit ← awaited (← ask
      (.shouldLimit .TRANSACTION callerName txConstructorName originalCallerAddress requestDetails estimatedTxFee)) id
    if shouldLimit then throw (.jsonRpc Relay.predefined.HBAR_RATE_LIMIT_EXCEEDED)

/-- What `executeTransaction` makes of the receipt. -/
def settled (transactionResponse : TransactionResponse) (submission : Submission) :
    Except SdkError TransactionReceipt → Throwing TransactionResponse
  | .ok _ => return transactionResponse
  | .error e =>
      let sdkClientError := SDKClientError.new e submission.transactionId e.nodeAccountId
      if sdkClientError.status = .wrongNonce then throw (.sdkClient sdkClientError) else return transactionResponse

/-- The `try` block of `executeTransaction` with its `catch` and `finally`. -/
def tryTransaction (transaction : Transaction) (callerName : String) (requestDetails : RequestDetails)
    (originalCallerAddress : String) : Throwing TransactionResponse := do
  let submission ← ask (.execute transaction)
  match submission.outcome with
  | .error e => throw (unanswered transaction submission e callerName requestDetails.formattedRequestId)
  | .ok transactionResponse =>
      let receipt ← ask (.getReceipt transactionResponse .executeTransaction)
      (if transactionResponse.transactionId ≠ "" then
        client.emitTransaction transactionResponse.transactionId requestDetails transaction.constructorName
          originalCallerAddress
      else return () : Throwing Unit)
      settled transactionResponse submission receipt

def executeTransaction (transaction : Transaction) (callerName : String) (requestDetails : RequestDetails)
    (shouldThrowHbarLimit : Bool) (originalCallerAddress : String) (estimatedTxFee : Option Int) :
    Throwing TransactionResponse := do
  throwHbarLimit shouldThrowHbarLimit callerName transaction.constructorName originalCallerAddress requestDetails
    estimatedTxFee
  client.tryTransaction transaction callerName requestDetails originalCallerAddress

/-- One event for each response. -/
def emitTransactions (requestDetails : RequestDetails) (originalCallerAddress : String) :
    List TransactionResponse → Throwing Unit
  | [] => return ()
  | transactionResponse :: rest => do
      client.emitTransaction transactionResponse.transactionId requestDetails "FileAppendTransaction"
        originalCallerAddress
      emitTransactions requestDetails originalCallerAddress rest

/-- The `try` block of `executeAllTransaction` with its `catch` and `finally`. -/
def tryAllTransaction (transaction : FileAppendTransaction) (requestDetails : RequestDetails)
    (originalCallerAddress : String) : Throwing Unit := do
  match ← ask (.executeAll transaction) with
  | .error e => throw (.sdkClient (SDKClientError.new e none e.nodeAccountId))
  | .ok transactionResponses => client.emitTransactions requestDetails originalCallerAddress transactionResponses

def executeAllTransaction (transaction : FileAppendTransaction) (callerName : String) (requestDetails : RequestDetails)
    (shouldThrowHbarLimit : Bool) (originalCallerAddress : String) (estimatedTxFee : Option Int) : Throwing Unit := do
  throwHbarLimit shouldThrowHbarLimit callerName "FileAppendTransaction" originalCallerAddress requestDetails
    estimatedTxFee
  client.tryAllTransaction transaction requestDetails originalCallerAddress

/-- The response of a query with its cost, or the error, and the query as it was left. -/
abbrev Tried (query : Query) := Except SdkError (query.Response × Option Int) × QueryPayment

/-- The execution with the cost that goes with its response. -/
def tried (execution : QueryExecution query) (cost : Option Int) : Tried query :=
  (execution.outcome.map fun resp => (resp, cost), execution.payment)

def increaseCostAndRetryExecution (query : Query) (payment : QueryPayment) (baseCost : Int) (currentRetry : Nat) :
    (retriesLeft : Nat) → Prog Op Answer (Tried query)
  | 0 => do
      let cost := increasedCost baseCost currentRetry
      return tried (← perform (.executeQuery query { payment with queryPayment := some cost })) (some cost)
  | retriesLeft + 1 => do
      let cost := increasedCost baseCost currentRetry
      let execution ← perform (.executeQuery query { payment with queryPayment := some cost })
      match execution.outcome with
      | .ok _ => return tried execution (some cost)
      | .error e =>
          if (SDKClientError.new e none none).isInsufficientTxFee then
            increaseCostAndRetryExecution query execution.payment baseCost (currentRetry + 1) retriesLeft
          else return tried execution (some cost)

/-- The `try` block of `executeQuery`. -/
def tryQuery (query : Query) (payment : QueryPayment) : Prog Op Answer (Tried query) := do
  match payment.paymentTransactionId with
  | some _ =>
      let baseCost : Except SdkError Int ← perform (.getCost query)
      match baseCost with
      | .ok baseCost => increaseCostAndRetryExecution query payment baseCost 0 3
      | .error e => return (.error e, payment)
  | none =>
      let execution ← perform (.executeQuery query payment)
      return tried execution execution.payment.queryPayment

/-- What `executeQuery` makes of an error. -/
def queryError (e : SdkError) : Thrown :=
  let sdkClientError := SDKClientError.new e none none
  match e.contractErrorMessage with
  | some errorMessage =>
      if errorMessage ≠ "" then .jsonRpc (CONTRACT_REVERT (some errorMessage))
      else if sdkClientError.isGrpcTimeout then .jsonRpc Relay.predefined.REQUEST_TIMEOUT
      else .sdkClient sdkClientError
  | none => if sdkClientError.isGrpcTimeout then .jsonRpc Relay.predefined.REQUEST_TIMEOUT else .sdkClient sdkClientError

/-- The event of the `finally` block of `executeQuery`. -/
def emitQuery (query : Query) (payment : QueryPayment) (queryCost : Option Int) (status : String)
    (requestDetails : RequestDetails) (originalCallerAddress : Option String) : Throwing Unit :=
  match queryCost with
  | some cost => do
      if cost ≠ 0 then
        ask (.emit (.executeQuery {
          executionMode := .QUERY
          transactionId := payment.paymentTransactionId
          txConstructorName := query.constructorName
          cost, gasUsed := 0, status, requestDetails, originalCallerAddress }))
  | none => return ()

/-- The end of `executeQuery` after its `try` block. -/
def reported (query : Query) (requestDetails : RequestDetails) (originalCallerAddress : Option String) :
    Tried query → Throwing query.Response
  | (.ok (queryResponse, queryCost), payment) => do
      emitQuery query payment queryCost Status.success.toString requestDetails originalCallerAddress
      return queryResponse
  | (.error e, payment) => do
      emitQuery query payment payment.queryPayment (SDKClientError.new e none none).status.toString requestDetails
        originalCallerAddress
      throw (queryError e)

def executeQuery (query : Query) (payment : QueryPayment) (requestDetails : RequestDetails)
    (originalCallerAddress : Option String) : Throwing query.Response := do
  reported query requestDetails originalCallerAddress (← ExceptT.lift (tryQuery query payment))

/-- A new query has no payment. -/
def unpaid : QueryPayment := { paymentTransactionId := none, queryPayment := none }

/-- The identifier of a contract, which is one of its two addresses. -/
def contractIdOf (contract : String) : String :=
  if startsWith contract "00000000000" then s!"fromSolidityAddress {contract}" else s!"fromEvmAddress 0.0.{contract}"

def submitContractCallQuery (recipient data : String) (gas : Nat) (sender : String) (requestDetails : RequestDetails) :
    Throwing ContractFunctionResult := do
  let contractCallQuery := Query.contractCall (contractIdOf (strip0x recipient)) gas
    (if data ≠ "" then some (strip0x data) else none) (if sender ≠ "" then some sender else none)
  match client.operatorAccountId with
  | some operatorAccountId =>
      let paymentTransactionId ← ask (.generate operatorAccountId)
      executeQuery contractCallQuery { unpaid with paymentTransactionId := some paymentTransactionId } requestDetails sender
  | none => executeQuery contractCallQuery unpaid requestDetails sender

/-- `undefined` where all the retries timed out. -/
def submitContractCallQueryWithRetry (recipient data : String) (gas : Nat) (sender : String)
    (requestDetails : RequestDetails) (retries : Nat) : (retriesLeft : Nat) → Throwing (Option ContractFunctionResult)
  | 0 => return none
  | retriesLeft + 1 => do
      match ← ExceptT.lift (client.submitContractCallQuery recipient data gas sender requestDetails).run with
      | .ok resp => return some resp
      | .error e =>
          let sdkClientError := SDKClientError.new e.toSdkError none none
          if sdkClientError.isTimeoutExceeded then
            ask (.setTimeout (retries * 1000))
            submitContractCallQueryWithRetry recipient data gas sender requestDetails (retries + 1) retriesLeft
          else
            match e with
            | .jsonRpc error => throw (.jsonRpc error)
            | _ => throw (.sdkClient sdkClientError)

/-- The rest of the call data goes into the file. -/
def appendToFile (fileId : FileId) (callData : List UInt8) (requestDetails : RequestDetails)
    (callerName originalCallerAddress : String) : Throwing Unit :=
  if callData.length > client.fileAppendChunkSize then
    let fileAppendTx : FileAppendTransaction := {
      fileId
      contents := String.ofList ((toHexText callData).drop client.fileAppendChunkSize)
      chunkSize := client.fileAppendChunkSize
      maxChunks := client.maxChunks }
    client.executeAllTransaction fileAppendTx callerName requestDetails false originalCallerAddress none
  else return ()

/-- The file must not be empty. -/
def checkSize (requestDetails : RequestDetails) (fileInfo : FileInfo) : Throwing Unit :=
  if fileInfo.size = 0 then
    throw (.sdkClient (SDKClientError.new
      { status := none, message := s!"{requestDetails.formattedRequestId} Created file is empty. " } none none))
  else return ()

def checkFile (fileId : FileId) (requestDetails : RequestDetails) (originalCallerAddress : String) : Throwing Unit := do
  let fileInfo : FileInfo ← executeQuery (.fileInfo fileId) unpaid requestDetails originalCallerAddress
  checkSize requestDetails fileInfo

def createFile (callData : List UInt8) (requestDetails : RequestDetails) (callerName originalCallerAddress : String)
    (currentNetworkExchangeRateInCents : Rat) : Throwing (Option FileId) := do
  let hexedCallData := toHexText callData
  let estimatedTxFee :=
    estimateFileTransactionsFee hexedCallData.length client.fileAppendChunkSize currentNetworkExchangeRateInCents
  throwHbarLimit true callerName "createFile" originalCallerAddress requestDetails (some estimatedTxFee)
  let fileCreateTx := Transaction.fileCreate (String.ofList (hexedCallData.take client.fileAppendChunkSize))
  let fileCreateTxResponse ← client.executeTransaction fileCreateTx callerName requestDetails false
    originalCallerAddress none
  let receipt ← awaited (← ask (.getReceipt fileCreateTxResponse .createFile)) .sdk
  match receipt.fileId with
  | none => return none
  | some fileId =>
      client.appendToFile fileId callData requestDetails callerName originalCallerAddress
      checkFile fileId requestDetails originalCallerAddress
      return some fileId

/-- The `try` block of `deleteFile`. -/
def tryDeleteFile (fileId : FileId) (requestDetails : RequestDetails) (callerName originalCallerAddress : String) :
    Throwing Unit := do
  let _ ← client.executeTransaction (.fileDelete fileId) callerName requestDetails false originalCallerAddress none
  let _ ← executeQuery (.fileInfo fileId) unpaid requestDetails originalCallerAddress

/-- Errors are only logged. -/
def deleteFile (fileId : FileId) (requestDetails : RequestDetails) (callerName originalCallerAddress : String) :
    Prog Op Answer Unit := do
  let _ ← (client.tryDeleteFile fileId requestDetails callerName originalCallerAddress).run

structure SubmittedTransaction where
  txResponse : TransactionResponse
  fileId : Option FileId

/-- The part of `submitEthereumTransaction` before the execution. -/
def prepareTransaction (ethereumTransactionData : EthereumTransactionData) (callerName : String)
    (requestDetails : RequestDetails) (originalCallerAddress : String) (networkGasPriceInWeiBars : Nat)
    (currentNetworkExchangeRateInCents : Rat) : Throwing (Transaction × Option FileId) := do
  let maxTransactionFee := weibarHexToTinyBarInt networkGasPriceInWeiBars * client.maxTransactionFeeThreshold
  if client.jumboTxEnabled || ethereumTransactionData.callData.length ≤ client.fileAppendChunkSize then
    return (.ethereum ethereumTransactionData none maxTransactionFee, none)
  else
    match ← client.createFile ethereumTransactionData.callData requestDetails callerName originalCallerAddress
      currentNetworkExchangeRateInCents with
    | none => throw (.sdkClient (SDKClientError.new
        { status := none, message := s!"{requestDetails.formattedRequestId} No fileId created for transaction. " }
          none none))
    | some fileId =>
        return (.ethereum { ethereumTransactionData with callData := [] } (some fileId) maxTransactionFee, some fileId)

def submitEthereumTransaction (transactionBuffer : List UInt8) (callerName : String) (requestDetails : RequestDetails)
    (originalCallerAddress : String) (networkGasPriceInWeiBars : Nat) (currentNetworkExchangeRateInCents : Rat) :
    Throwing SubmittedTransaction := do
  let ethereumTransactionData ← awaited (client.fromBytes transactionBuffer) id
  let (ethereumTransaction, fileId) ← client.prepareTransaction ethereumTransactionData callerName requestDetails
    originalCallerAddress networkGasPriceInWeiBars currentNetworkExchangeRateInCents
  let txResponse ← client.executeTransaction ethereumTransaction callerName requestDetails true originalCallerAddress none
  return { fileId, txResponse }

end SDKClient

end HieroRelay.Hapi
