import HieroRelay.Hapi.MetricService

/-! `eth_sendRawTransaction`: the prechecks, the submission with the file that it may have
put the call data in, and the polling of the mirror node for the result. -/

namespace HieroRelay.Hapi

open HieroRelay.Blocks (strip0x)
open HieroRelay.Lib (Prog)
open HieroRelay.Relay (JsonRpcError RequestDetails)

/-- The service with its client. The decoding of raw transactions and the hash function are
those of libraries. -/
structure TransactionService where
  relay : Blocks.Relay
  client : SDKClient
  useAsyncTxProcessing : Bool
  mirrorNodeRetryDelay : Nat
  fromHex : String → List UInt8
  parseRawTransaction : String → Except Thrown EthersTransaction
  computeTransactionHash : List UInt8 → String

def ETH_SEND_RAW_TRANSACTION : String := "eth_sendRawTransaction"

structure SubmissionResult where
  txSubmitted : Bool
  submittedTransactionId : String
  error : Option Thrown

/-- The hash of the transaction, or an error that is returned. -/
inductive RawTransactionAnswer where
  | hash (transactionHash : String)
  | error (error : JsonRpcError)
  deriving Repr, DecidableEq

/-- The part of a transaction identifier before its query parameters. -/
def formatTransactionIdWithoutQueryParams (transactionId : String) : Option String :=
  (formatTransactionId transactionId).map fun formatted => String.ofList (formatted.toList.takeWhile (· ≠ '?'))

/-- Errors after which the transaction may still reach consensus. -/
def Thrown.mayReachConsensus : Thrown → Bool
  | .sdkClient error => error.isConnectionDropped || error.isTimeoutExceeded
  | _ => false

namespace TransactionService

variable (service : TransactionService)

/-- The exchange rate is cached for a quarter of an hour. -/
def currentRate (requestDetails : RequestDetails) : Option ExchangeRate → Throwing ExchangeRate
  | some rate => return rate
  | none => do
      let rate : ExchangeRate ← awaited (← ask (.getNetworkExchangeRate requestDetails)) id
      awaited (← ask (.cacheExchangeRate rate 900000 requestDetails)) id
      return rate

def getCurrentNetworkExchangeRateInCents (requestDetails : RequestDetails) : Throwing Rat := do
  let cached : Option ExchangeRate ← awaited (← ask (.cachedExchangeRate requestDetails)) id
  let rate ← currentRate requestDetails cached
  return (rate.centEquivalent : Rat) / rate.hbarEquivalent

/-- The `try` block of `submitTransaction` up to the answer of the client. -/
def trySubmit (transactionBuffer : List UInt8) (originalCallerAddress : String) (networkGasPriceInWeiBars : Nat)
    (requestDetails : RequestDetails) : Throwing SDKClient.SubmittedTransaction := do
  let rate ← getCurrentNetworkExchangeRateInCents requestDetails
  service.client.submitEthereumTransaction transactionBuffer ETH_SEND_RAW_TRANSACTION requestDetails
    originalCallerAddress networkGasPriceInWeiBars rate

/-- The variables of `submitTransaction` after its `try` and `catch` blocks. -/
def submissionResult : Except Thrown SDKClient.SubmittedTransaction → SubmissionResult × Option FileId
  | .ok sendRawTransactionResult =>
      let submittedTransactionId := sendRawTransactionResult.txResponse.transactionId
      ({ txSubmitted := true
         submittedTransactionId
         error := if matchesTransactionId submittedTransactionId then none
           else some (.jsonRpc (Relay.predefined.INTERNAL_ERROR
             ("Transaction successfully submitted but returned invalid transactionID: " ++
               s!"transactionId=={submittedTransactionId}"))) },
        sendRawTransactionResult.fileId)
  | .error e =>
      ({ txSubmitted := false
         submittedTransactionId := match e with
           | .sdkClient error => if e.mayReachConsensus then error.transactionId else ""
           | _ => ""
         error := some e }, none)

/-- The file is deleted in the background. -/
def submitTransaction (transactionBuffer : List UInt8) (originalCallerAddress : String) (networkGasPriceInWeiBars : Nat)
    (requestDetails : RequestDetails) : Prog Op Answer SubmissionResult := do
  let submitted ← (service.trySubmit transactionBuffer originalCallerAddress networkGasPriceInWeiBars requestDetails).run
  match (submissionResult submitted).2 with
  | some fileId =>
      perform (.deleteFile fileId requestDetails ETH_SEND_RAW_TRANSACTION fileId originalCallerAddress)
      return (submissionResult submitted).1
  | none => return (submissionResult submitted).1

/-- The rounds of polling that are left for a nonce other than the one of the transaction. -/
def updatedNonce (parsedTx : EthersTransaction) (requestDetails : RequestDetails) : Nat → Throwing (Option Nat)
  | 0 => return none
  | roundsLeft + 1 => do
      let nonce : Nat ← awaited (← ask (.getAccount (parsedTx.sender.getD "null") requestDetails)) id
      if nonce ≠ parsedTx.nonce then return some nonce
      else
        ask (.setTimeout service.mirrorNodeRetryDelay)
        updatedNonce parsedTx requestDetails roundsLeft

/-- A nonce of zero counts as none. -/
def wrongNonceError (parsedTx : EthersTransaction)
    (requestDetails : RequestDetails) : Throwing RawTransactionAnswer := do
  let accountNonce := (← service.updatedNonce parsedTx requestDetails service.relay.mirrorNodeRequestRetryCount).getD 0
  if accountNonce = 0 then
    throw (.jsonRpc (Relay.predefined.INTERNAL_ERROR "Cannot find updated account nonce for WRONG_NONCE error."))
  else if parsedTx.nonce > accountNonce then
    return .error (Relay.predefined.NONCE_TOO_HIGH parsedTx.nonce accountNonce)
  else return .error (Relay.predefined.NONCE_TOO_LOW parsedTx.nonce accountNonce)

/-- The end of the error handler, for errors that are no answer of their own. -/
def unhandledError (e : Option Thrown) (transactionBuffer : List UInt8) (txSubmitted : Bool)
    (requestDetails : RequestDetails) : Throwing RawTransactionAnswer :=
  match e, txSubmitted with
  | none, false => throw (.other "Cannot read properties of null (reading 'message')")
  | some e, false => return .error (Relay.predefined.INTERNAL_ERROR e.message)
  | none, true => return .hash (service.computeTransactionHash transactionBuffer)
  | some e, true => do
      awaited (← ask (.getContractRevertReasonFromTransaction e requestDetails)) id
      return .hash (service.computeTransactionHash transactionBuffer)

def sendRawTransactionErrorHandler (e : Option Thrown) (transactionBuffer : List UInt8) (txSubmitted : Bool)
    (parsedTx : EthersTransaction) (requestDetails : RequestDetails) : Throwing RawTransactionAnswer :=
  match e with
  | some (.jsonRpc error) => return .error error
  | some (.sdkClient error) => do
      ask (.decrementErrorCounter error.status)
      if error.status = .wrongNonce then service.wrongNonceError parsedTx requestDetails
      else service.unhandledError e transactionBuffer txSubmitted requestDetails
  | _ => service.unhandledError e transactionBuffer txSubmitted requestDetails

/-- The hash in the contract result, or the error of the polling. -/
def polledHash (result : SubmissionResult) : Option (Option String) → Except Thrown String
  | some (some hash) => .ok hash
  | some none => .error (.jsonRpc (Relay.predefined.INTERNAL_ERROR
      s!"Transaction returned a null transaction hash: transactionId={result.submittedTransactionId}"))
  | none =>
      match result.error with
      | some e => if e.mayReachConsensus then .error e else .error notFound
      | none => .error notFound
where
  notFound : Thrown := .jsonRpc (Relay.predefined.INTERNAL_ERROR
    s!"No matching transaction record retrieved: transactionId={result.submittedTransactionId}")

def sendRawTransactionProcessor (transactionBuffer : List UInt8) (parsedTx : EthersTransaction)
    (networkGasPriceInWeiBars : Nat) (requestDetails : RequestDetails) : Throwing RawTransactionAnswer := do
  ask (.emitEthExecution requestDetails)
  let result ← ExceptT.lift (service.submitTransaction transactionBuffer (parsedTx.sender.getD "")
    networkGasPriceInWeiBars requestDetails)
  if result.submittedTransactionId ≠ "" then
    let contractResult ← ask (.getContractResult (formatTransactionIdWithoutQueryParams result.submittedTransactionId)
      { requestDetails with ipAddress := MASKED_IP_ADDRESS })
    match polledHash result contractResult with
    | .ok hash => return .hash hash
    | .error e =>
        service.sendRawTransactionErrorHandler (some e) transactionBuffer result.txSubmitted parsedTx requestDetails
  else
    service.sendRawTransactionErrorHandler result.error transactionBuffer result.txSubmitted parsedTx requestDetails

/-- With asynchronous processing the steps of the processor come after the answer. -/
def sendRawTransaction (transaction : String) (requestDetails : RequestDetails) : Throwing RawTransactionAnswer := do
  let transactionBuffer := service.fromHex (strip0x transaction)
  let parsedTx ← awaited (service.parseRawTransaction transaction) id
  let gasPrice : Nat ← awaited (← ask (.getGasPriceInWeibars requestDetails)) id
  let networkGasPriceInWeiBars := Blocks.CommonService.addPercentageBufferToGasPrice service.relay gasPrice
  awaited (← ask (.sendRawTransactionCheck parsedTx networkGasPriceInWeiBars requestDetails)) id
  let processed ← ExceptT.lift (service.sendRawTransactionProcessor transactionBuffer parsedTx networkGasPriceInWeiBars
    requestDetails).run
  if service.useAsyncTxProcessing then return .hash (service.computeTransactionHash transactionBuffer)
  else awaited processed id

end TransactionService

end HieroRelay.Hapi
