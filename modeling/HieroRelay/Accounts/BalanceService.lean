import HieroRelay.Lib.FixedWidth
import HieroRelay.Mirror.Pagination
import HieroRelay.Redis.JsIntegers

/-! `eth_getBalance`, as a program over the cached number of the head and the queries to the
mirror node. Timestamps are compared as texts, and amounts are added as JavaScript does. -/

namespace HieroRelay.Accounts.Balances

open HieroRelay.Lib HieroRelay.Mirror
open HieroRelay.Blocks (TINYBAR_TO_WEIBAR_COEF)
open HieroRelay.Filters (HexNumber numberTo0x)
open HieroRelay.Redis (JsInteger digits toDouble)
open HieroRelay.Relay (JsonRpcError)

/-- Nanoseconds in a second. -/
def nanosPerSecond : Nat := 1000000000

/-- A timestamp of the mirror node, whose seconds have ten digits. -/
structure Timestamp where
  nanos : Nat
  tenDigits : 10 ^ 18 ≤ nanos ∧ nanos < 10 ^ 19
  deriving Repr, DecidableEq

namespace Timestamp

/-- `Number(timestamp.split('.')[0])` -/
def seconds (timestamp : Timestamp) : Nat := timestamp.nanos / nanosPerSecond

def text (timestamp : Timestamp) : String :=
  String.ofList (fixedDigits Nat.digitChar 10 10 timestamp.seconds ++
    '.' :: fixedDigits Nat.digitChar 10 9 (timestamp.nanos % nanosPerSecond))

end Timestamp

/-- `first >= second` of two texts -/
def textGe (first second : String) : Bool := !decide (first.toList < second.toList)

structure Transfer where
  account : String
  amount : JsInteger
  isApproval : Bool
  deriving Repr, DecidableEq

structure Transaction where
  consensusTimestamp : Timestamp
  transfers : List Transfer
  deriving Repr, DecidableEq

/-- An account with the first page of its transactions. -/
structure MirrorAccount where
  account : String
  balance : Option JsInteger
  transactions : List Transaction
  next : Option String
  deriving Repr, DecidableEq

structure MirrorBlock where
  number : Nat
  hash : String
  timestampFrom : Timestamp
  timestampTo : Timestamp
  deriving Repr, DecidableEq

/-- The second parameter; a number is a text that is shorter than a hash. -/
inductive BlockParam where
  | absent
  | latest
  | pending
  | safe
  | finalized
  | earliest
  | number (number : HexNumber)
  | hash (hash : String)
  deriving Repr, DecidableEq

def BlockParam.blockTagIsLatestOrPending : BlockParam → Bool
  | .absent | .latest | .pending | .safe | .finalized => true
  | _ => false

/-- The head as the cache or the mirror node has it: the cache has no timestamp. -/
structure LatestBlockNumberTimestamp where
  blockNumber : HexNumber
  timeStampTo : Option Timestamp
  deriving Repr, DecidableEq

inductive BalanceError where
  | mirrorNode (statusCode : Nat)
  | rpc (error : JsonRpcError)
  /-- Any other error, with its message. -/
  | other (message : String)
  deriving Repr, DecidableEq

namespace BalanceError

def ofMirror : MirrorError → BalanceError
  | .mirrorNode statusCode => .mirrorNode statusCode
  | .rpc error => .rpc error

/-- `genericErrorHandler` -/
def handled : BalanceError → BalanceError
  | .other message => .rpc (Relay.predefined.INTERNAL_ERROR message)
  | error => error

end BalanceError

inductive BalanceOp where
  | getBlockNumberCached
  | setBlockNumberCached (number : HexNumber)
  | getLatestBlock
  | getBlock (number : Nat)
  | getBlockByHash (hash : String)
  | getAccountPageLimit (idOrAliasOrEvmAddress : String)
  | getAccountPage (url : String)
  | getBalanceAtTimestamp (accountId : String) (timestamp : Timestamp)
  deriving Repr, DecidableEq

/-- What is not found is answered by nothing; balances are a list of them. -/
abbrev BalanceOp.Answer : BalanceOp → Type
  | .getBlockNumberCached => Option HexNumber
  | .setBlockNumberCached _ => Unit
  | .getLatestBlock => Except MirrorError (Option (List MirrorBlock))
  | .getBlock _ | .getBlockByHash _ => Except MirrorError (Option MirrorBlock)
  | .getAccountPageLimit _ => Except MirrorError (Option MirrorAccount)
  | .getAccountPage _ => Except MirrorError (Option (Page Transaction))
  | .getBalanceAtTimestamp _ _ => Except MirrorError (Option (List JsInteger))

abbrev Throwing (Result : Type) := ExceptT BalanceError (Prog BalanceOp BalanceOp.Answer) Result

def await (op : BalanceOp) : Throwing op.Answer := ExceptT.lift (Prog.op op)

def answered {Answer : Type} : Except MirrorError Answer → Throwing Answer
  | .ok answer => return answer
  | .error error => throw (.ofMirror error)

/-- `text.split(separator)[1]` -/
def splitSecond (separator : Char) (text : String) : Option String :=
  (text.toList.splitOn separator)[1]?.map String.ofList

/-- `new URLSearchParams(query).get(name)`, where nothing in the query is encoded -/
def searchParam (name : String) (query : String) : Option String :=
  (query.toList.splitOn '&').findSome? fun param =>
    if param.takeWhile (· != '=') = name.toList then some (String.ofList ((param.dropWhile (· != '=')).drop 1)) else none

/-- The `timestamp` of a next link. -/
def linkTimestamp (link : String) : Option String := (splitSecond '?' link).bind (searchParam "timestamp")

namespace MirrorNodeClient

def ACCOUNTS : String := "/accounts/"

/-- The group of the first match of a pattern that begins with `/accounts/`. -/
def matchAccount (group : List Char → Option String) : List Char → Option String
  | [] => none
  | char :: rest =>
      (if ACCOUNTS.toList.isPrefixOf (char :: rest) then group ((char :: rest).drop ACCOUNTS.toList.length) else none).or
        (matchAccount group rest)

/-- `(0x[a-fA-F0-9]{40})` -/
def evmAddress (text : List Char) : Option String :=
  let address := text.take 42
  if "0x".toList.isPrefixOf address ∧ (address.drop 2).all Js.isHexDigit ∧ address.length = 42 then
    some (String.ofList address)
  else none

/-- `([\d\.]+)` -/
def accountId (text : List Char) : Option String :=
  let id := text.takeWhile fun char => char.isDigit || char == '.'
  if id = [] then none else some (String.ofList id)

def extractAccountIdFromUrl (url : String) : String :=
  let start := (matchAccount (fun text => some (String.ofList text)) url.toList).getD ""
  let group := if "0x".toList.isPrefixOf start.toList then evmAddress else accountId
  (matchAccount group url.toList).getD "null"

/-- The path of the first page that a next link leads to. -/
def accountPath (url : String) : String :=
  "accounts/" ++ extractAccountIdFromUrl url ++ "?limit=100" ++ ((linkTimestamp url).elim "" ("&timestamp=" ++ ·))

def getAccountPage (url : String) :
    ExceptT MirrorError (Prog BalanceOp BalanceOp.Answer) (Option (Page Transaction)) :=
  ExceptT.mk (Prog.op (BalanceOp.getAccountPage url))

def getAccountPaginated (url : String) : Throwing (List Transaction) :=
  ExceptT.adapt BalanceError.ofMirror
    (Mirror.MirrorNodeClient.getPaginatedResults getAccountPage (accountPath url) [] 1 MAX_MIRROR_NODE_PAGINATION)

end MirrorNodeClient

/-- A number of JavaScript that is an integer, or none. -/
inductive JsNumber where
  | finite (value : Int)
  | infinite (negative : Bool)
  | nan
  deriving Repr, DecidableEq

namespace JsNumber

def name : JsNumber → String
  | .finite value => digits 10 value
  | .infinite false => "Infinity"
  | .infinite true => "-Infinity"
  | .nan => "NaN"

/-- `Number(text)`, where the text is not empty -/
def ofText (text : String) : JsNumber :=
  let negative := "-".toList.isPrefixOf text.toList
  let absolute := if negative then text.toList.drop 1 else text.toList
  let value := absolute.foldl (fun value digit => 10 * value + (digit.toNat - '0'.toNat)) 0
  if absolute = [] ∨ !absolute.all Char.isDigit then .nan
  else if 2 ^ 1024 - 2 ^ 970 ≤ value then .infinite negative
  else .finite (toDouble (if negative then -(value : Int) else value))

/-- `value - other` -/
def minus (value : Int) : JsNumber → JsNumber
  | .finite other => .finite (toDouble (value - other))
  | .infinite negative => .infinite !negative
  | .nan => .nan

/-- `BigInt(number)` -/
def toBigInt : JsNumber → Except BalanceError Int
  | .finite value => .ok value
  | number => .error (.other s!"The number {number.name} cannot be converted to a BigInt because it is not an integer")

end JsNumber

/-- A sum of amounts: with anything but numbers, `+` joins texts. -/
inductive Total where
  | number (value : Int)
  | text (text : String)
  deriving Repr, DecidableEq

namespace Total

def toText : Total → String
  | .number value => digits 10 value
  | .text joined => joined

/-- `total + amount` -/
def add : Total → JsInteger → Total
  | .number total, .number amount => .number (toDouble (total + amount))
  | total, amount => .text (total.toText ++ digits 10 amount.toBigInt)

def toNumber : Total → JsNumber
  | .number value => .finite value
  | .text joined => .ofText joined

end Total

def weibarsOf (tinybars : Int) : Int := tinybars * TINYBAR_TO_WEIBAR_COEF

namespace CommonService

variable (maxBlockRange : Nat)

/-- `latestBlockResponse.blocks[0]`, of which a property is read. -/
def firstBlock (property : String) : Option (List MirrorBlock) → Throwing MirrorBlock
  | none => throw (.other "Cannot read properties of null (reading 'blocks')")
  | some [] => throw (.other ("Cannot read properties of undefined (reading '" ++ property ++ "')"))
  | some (block :: _) => return block

/-- For a block that is not the latest; a number that is far beyond the head is not asked for. -/
def getHistoricalBlockResponse : BlockParam → Throwing (Option MirrorBlock)
  | .number number => do
      let latestBlock ← firstBlock "number" (← answered (← await .getLatestBlock))
      if number.value > latestBlock.number + maxBlockRange then return none
      else answered (← await (.getBlock number.value))
  | .hash hash => do answered (← await (.getBlockByHash hash))
  | .earliest => do answered (← await (.getBlock 0))
  | _ => do
      match ← answered (← await .getLatestBlock) with
      | none => throw (.other "Cannot read properties of null (reading 'blocks')")
      | some blocks => return blocks.head?

end CommonService

namespace AccountService

def BALANCES_UPDATE_INTERVAL : Nat := 900

def latestBlockTolerance : Nat := 1

def COULD_NOT_RETRIEVE_LATEST_BLOCK : JsonRpcError :=
  { code := -32607, message := "Error encountered retrieving latest block" }

def blockNumberTimestamp : Throwing LatestBlockNumberTimestamp := do
  match ← answered (← await .getLatestBlock) with
  | none | some [] => throw (.rpc COULD_NOT_RETRIEVE_LATEST_BLOCK)
  | some (block :: _) =>
      await (.setBlockNumberCached (numberTo0x block.number))
      return { blockNumber := numberTo0x block.number, timeStampTo := some block.timestampTo }

/-- `Number(…)` of the block, with nothing for `NaN`. -/
def currentBlockNumber : BlockParam → Throwing (Option Nat)
  | .hash hash => do
      match ← answered (← await (.getBlockByHash hash)) with
      | none => throw (.other "Cannot read properties of null (reading 'number')")
      | some block => return some block.number
  | .number number => return some number.value
  | _ => return none

def latestBlockCached : Throwing LatestBlockNumberTimestamp := do
  match ← await .getBlockNumberCached with
  | some blockNumber => return { blockNumber, timeStampTo := none }
  | none => blockNumberTimestamp

/-- A block that is at most one behind the head counts as the latest. -/
def extractBlockNumberAndTimestamp (block : BlockParam) : Throwing (LatestBlockNumberTimestamp × BlockParam) := do
  let latestBlock ← latestBlockCached
  let number ← currentBlockNumber block
  if number.any fun number => latestBlock.blockNumber.value ≤ number + latestBlockTolerance then
    return (latestBlock, .latest)
  else if latestBlock.timeStampTo = none then return (← blockNumberTimestamp, block)
  else return (latestBlock, block)

/-- The transfers of the account in what happened from the timestamp on, that one included. -/
def balanceChanges (account : String) (transactions : List Transaction) (blockTimestamp : Timestamp) : List JsInteger :=
  ((transactions.filter fun transaction => textGe transaction.consensusTimestamp.text blockTimestamp.text).flatMap
    fun transaction => transaction.transfers.filter fun transfer => transfer.account = account ∧ !transfer.isApproval).map
      Transfer.amount

def getBalanceAtBlockTimestamp (account : String) (transactions : List Transaction)
    (blockTimestamp : Timestamp) : Total :=
  (balanceChanges account transactions blockTimestamp).foldl Total.add (.number 0)

/-- The further pages are asked for where their link does not fall before the end of the block. -/
def getPagedTransactions (nextPage : String) (block : MirrorBlock) : Throwing (List Transaction) :=
  if ((linkTimestamp nextPage).bind (splitSecond ':')).any (textGe · block.timestampTo.text) then
    MirrorNodeClient.getAccountPaginated nextPage
  else return []

/-- `links.next`, where it is truthy. -/
def nextPage (mirrorAccount : MirrorAccount) : Option String := mirrorAccount.next.filter (· ≠ "")

def allTransactions (mirrorAccount : MirrorAccount) (block : MirrorBlock) : Throwing (List Transaction) := do
  match nextPage mirrorAccount with
  | some link => return mirrorAccount.transactions ++ (← getPagedTransactions link block)
  | none => return mirrorAccount.transactions

def currentBalance (mirrorAccount : MirrorAccount) : JsInteger := mirrorAccount.balance.getD (.number 0)

/-- The balance of a block from the last 15 minutes. -/
def getRecentBalance (account : String) (block : MirrorBlock) : Throwing (Option Int) := do
  match ← answered (← await (.getAccountPageLimit account)) with
  | none => return none
  | some mirrorAccount =>
      let transactions ← allTransactions mirrorAccount block
      let balanceFromTxs := getBalanceAtBlockTimestamp mirrorAccount.account transactions block.timestampTo
      let tinybars ← (JsNumber.minus (currentBalance mirrorAccount).toNumber balanceFromTxs.toNumber).toBigInt
      return some (weibarsOf tinybars)

/-- The weibars, where the balance is found. -/
def getBalanceAtBlockNumber (account : String) (block : MirrorBlock) (latestBlock : LatestBlockNumberTimestamp) :
    Throwing (Option Int) := do
  let latestTimestamp := (latestBlock.timeStampTo.map Timestamp.seconds).getD 0
  if latestTimestamp > block.timestampFrom.seconds + BALANCES_UPDATE_INTERVAL then
    match ← answered (← await (.getBalanceAtTimestamp account block.timestampFrom)) with
    | some (balance :: _) => return some (weibarsOf balance.toBigInt)
    | _ => return some 0
  else getRecentBalance account block

variable (maxBlockRange : Nat)

/-- The number of a block is never equal to the text that stands for the head's. -/
def getHistoricalBalance (account : String) (latestBlock : LatestBlockNumberTimestamp) (block : BlockParam) :
    Throwing (Option Int) := do
  match ← CommonService.getHistoricalBlockResponse maxBlockRange block with
  | none => return none
  | some response => getBalanceAtBlockNumber account response latestBlock

def getCurrentBalance (account : String) : Throwing (Option Int) := do
  match ← answered (← await (.getAccountPageLimit account)) with
  | none => return none
  | some mirrorAccount =>
      match mirrorAccount.balance with
      | none => throw (.other "Cannot read properties of null (reading 'balance')")
      | some balance => return some (weibarsOf balance.toBigInt)

def numberTo0x (weibars : Int) : String := "0x" ++ digits 16 weibars

/-- A balance that is not found as of a block is looked for once more. -/
def getFoundBalance (account : String) (historical : Throwing (Option Int)) : Throwing String :=
  ExceptT.adapt BalanceError.handled do
    match ← historical with
    | some weibars => return numberTo0x weibars
    | none =>
        match ← getCurrentBalance account with
        | some weibars => return numberTo0x weibars
        | none => return "0x0"

def getBalance (account : String) (block : BlockParam) : Throwing String := do
  if block.blockTagIsLatestOrPending then getFoundBalance account (return none)
  else
    let (latestBlock, block) ← extractBlockNumberAndTimestamp block
    getFoundBalance account do
      if block.blockTagIsLatestOrPending then return none
      else getHistoricalBalance maxBlockRange account latestBlock block

end AccountService

end HieroRelay.Accounts.Balances
