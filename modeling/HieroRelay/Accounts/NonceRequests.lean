import HieroRelay.Accounts.AccountService

/-! Requests for nonces at block numbers, any number of them in progress, while blocks are
produced, cache entries expire and the mirror node comes and goes. -/

namespace HieroRelay.Accounts

open HieroRelay.Lib

abbrev NonceCache := CacheLevel → CacheKey → Option Nat

/-- What an operation of a request sees; and two records of the request: whether its answer
no longer depends on later blocks, and the transaction that it has read. -/
structure NonceView where
  ledger : Ledger
  available : Bool
  cache : NonceCache
  settled : Bool
  result : Option EthereumTransaction

namespace NonceView

variable (view : NonceView)

def ifAvailable {Answer : Type} (answer : Answer) : Option Answer := if view.available then some answer else none

def answer : (op : NonceOp) → op.Answer
  | .getCached level key => view.cache level key
  | .setCached _ _ _ => ()
  | .getLatestBlock => view.ifAvailable (some view.ledger.headNumber)
  | .getBlock number => view.ifAvailable view.ledger.blocks[number]?
  | .getAccount address => view.ifAvailable (view.ledger.head.accounts address)
  | .getSenderAccount sender => view.ifAvailable (view.ledger.head.accounts sender)
  | .getAccountLatestEthereumTransactionsByTimestamp address timestampTo limit =>
      view.ifAvailable (view.ledger.latestTransactions address timestampTo limit)
  | .getContractResult transactionId => view.ifAvailable (view.ledger.contractResult transactionId)

/-- An answer is settled when it was cached, or when the latest nonce is read. -/
def record : NonceOp → NonceView
  | .getCached level key => { view with settled := view.settled || (view.cache level key).isSome }
  | .setCached level key nonce =>
      { view with cache := Function.update view.cache level (Function.update (view.cache level) key (some nonce)) }
  | .getAccount _ => { view with settled := true }
  | .getContractResult transactionId => { view with result := view.ledger.contractResult transactionId }
  | _ => view

def perform (op : NonceOp) : op.Answer × NonceView := (view.answer op, view.record op)

end NonceView

/-- A request in progress, with the number of blocks that were there when it came. -/
structure NonceRequest where
  address : String
  block : BlockNumber
  askedAt : Nat
  call : Prog NonceOp NonceOp.Answer (Except NonceError Nat)
  settled : Bool
  result : Option EthereumTransaction

structure NonceAnswer where
  address : String
  block : BlockNumber
  askedAt : Nat
  nonce : Nat

structure NonceServer where
  ledger : Ledger
  available : Bool
  cache : NonceCache
  requests : List NonceRequest
  answers : List NonceAnswer

inductive NonceLabel where
  | produce (block : LedgerBlock)
  | outage (restored : Bool)
  | expire (level : CacheLevel) (key : CacheKey)
  | request (address : String) (block : BlockNumber)
  | operate (position : Nat)
  | answer (position : Nat)

namespace NonceServer

variable (maxBlockRange : Nat) (server : NonceServer)

/-- What a request sees of the server. -/
def viewOf (request : NonceRequest) : NonceView where
  ledger := server.ledger
  available := server.available
  cache := server.cache
  settled := request.settled
  result := request.result

def begin (address : String) (block : BlockNumber) : NonceRequest where
  address
  block
  askedAt := server.ledger.blocks.length
  call := (EthImpl.getTransactionCount maxBlockRange address block).run
  settled := decide (block.value ≤ 1)
  result := none

/-- An operation of a request that goes on with the call. -/
def advance (position : Nat) (request : NonceRequest) (view : NonceView)
    (call : Prog NonceOp NonceOp.Answer (Except NonceError Nat)) : NonceServer :=
  { server with
    cache := view.cache
    requests := server.requests.set position { request with call, settled := view.settled, result := view.result } }

def finish (position : Nat) (request : NonceRequest) (nonce : Nat) : NonceServer :=
  { server with
    requests := server.requests.eraseIdx position
    answers := server.answers ++ [{ address := request.address
                                    block := request.block
                                    askedAt := request.askedAt
                                    nonce }] }

def serve (server : NonceServer) : NonceLabel → Option NonceServer
  | .produce block => some { server with ledger := server.ledger.produce block }
  | .outage restored => some { server with available := restored }
  | .expire level key =>
      some { server with
        cache := Function.update server.cache level (Function.update (server.cache level) key none) }
  | .request address block =>
      some { server with requests := server.requests ++ [server.begin maxBlockRange address block] }
  | .operate position =>
      match server.requests[position]? with
      | some { address, block, askedAt, call := .call op next, settled, result } =>
          let request : NonceRequest := { address, block, askedAt, call := .call op next, settled, result }
          let performed := (server.viewOf request).perform op
          some (server.advance position request performed.2 (next performed.1))
      | _ => none
  | .answer position =>
      match server.requests[position]? with
      | some { address, block, askedAt, call := .done (.ok nonce), settled, result } =>
          some (server.finish position { address, block, askedAt, call := .done (.ok nonce), settled, result } nonce)
      | some { call := .done (.error _), .. } =>
          some { server with requests := server.requests.eraseIdx position }
      | _ => none

def initial (ledger : Ledger) : NonceServer where
  ledger
  available := true
  cache := fun _ _ => none
  requests := []
  answers := []

/-- Every answer for a block that was there when it was asked for is the nonce at its end,
and so is every nonce that is cached for a block that is there. -/
structure Stable (server : NonceServer) : Prop where
  answers : ∀ answer ∈ server.answers, answer.block.value < answer.askedAt →
    answer.nonce = server.ledger.nonceAt answer.address answer.block.value
  cached : ∀ level address (block : BlockNumber) nonce,
    server.cache level (AccountService.cacheKey address block) = some nonce →
    block.value < server.ledger.blocks.length → nonce = server.ledger.nonceAt address block.value

end NonceServer

end HieroRelay.Accounts
