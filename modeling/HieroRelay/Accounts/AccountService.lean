import HieroRelay.Accounts.Ledger
import HieroRelay.Lib.Prog

/-! `eth_getTransactionCount` for a block number, as a program over the two caches and the
queries to the mirror node. Nonces are numbers: equal numbers have equal texts. -/

namespace HieroRelay.Accounts

open HieroRelay.Lib

def BLOCK_HASH_LENGTH : Nat := 66

/-- The text of a block number: hexadecimal, and too short or too long for a hash. -/
structure BlockNumber where
  text : String
  digits : List Char
  isHex : Js.hexDigits text = some digits
  isNoHash : text.length ≠ BLOCK_HASH_LENGTH

def BlockNumber.value (block : BlockNumber) : Nat := Js.hexValue block.digits

theorem BlockNumber.value_of_text {block other : BlockNumber} (same : block.text = other.text) :
    block.value = other.value := by
  have digits : block.digits = other.digits := Option.some.inj (block.isHex.symm.trans (same ▸ other.isHex))
  rw [value, value, digits]

/-- The cache of the decorator `@cache`, and the one of the service. -/
inductive CacheLevel where
  | decorator
  | service
  deriving Repr, DecidableEq

structure CacheKey where
  address : String
  blockNumOrTag : String
  deriving Repr, DecidableEq

inductive NonceError where
  | UNKNOWN_BLOCK
  | RESOURCE_NOT_FOUND
  | typeError
  | mirrorNode
  deriving Repr, DecidableEq

/-- The operations; the two lookups of accounts are told apart by what they are for. -/
inductive NonceOp where
  | getCached (level : CacheLevel) (key : CacheKey)
  | setCached (level : CacheLevel) (key : CacheKey) (nonce : Nat)
  | getLatestBlock
  | getBlock (number : Nat)
  | getAccount (address : String)
  | getSenderAccount (sender : String)
  | getAccountLatestEthereumTransactionsByTimestamp (address : String) (timestampTo : Nat) (limit : Nat)
  | getContractResult (transactionId : String)
  deriving Repr, DecidableEq

/-- A query that fails has no answer; what is missing is answered by nothing. -/
abbrev NonceOp.Answer : NonceOp → Type
  | .getCached _ _ => Option Nat
  | .setCached _ _ _ => Unit
  | .getLatestBlock => Option (Option Nat)
  | .getBlock _ => Option (Option LedgerBlock)
  | .getAccount _ | .getSenderAccount _ => Option (Option Account)
  | .getAccountLatestEthereumTransactionsByTimestamp _ _ _ => Option (Option (List EthereumTransaction))
  | .getContractResult _ => Option (Option EthereumTransaction)

abbrev Throwing (Result : Type) := ExceptT NonceError (Prog NonceOp NonceOp.Answer) Result

def await (op : NonceOp) : Throwing op.Answer := ExceptT.lift (Prog.op op)

def answered {Answer : Type} : Option Answer → Throwing Answer
  | some answer => return answer
  | none => throw .mirrorNode

namespace AccountService

def getAccountLatestEthereumNonce (address : String) : Throwing Nat := do
  match ← answered (← await (.getAccount address)) with
  | some account => return account.ethereumNonce.getD 1
  | none => return 0

/-- The sender of the latest transaction in the list of the address may be another one. -/
def getAccountNonceFromContractResult (address : String) (blockNum : Nat) : Throwing Nat := do
  match ← answered (← await (.getBlock blockNum)) with
  | none => throw .UNKNOWN_BLOCK
  | some block =>
      match ← answered (← await (.getAccountLatestEthereumTransactionsByTimestamp address block.timestampTo 2)) with
      | none | some [] => return 0
      | some [_] => return 1
      | some (latest :: _ :: _) =>
          match ← answered (← await (.getContractResult latest.transactionId)) with
          | none => throw .RESOURCE_NOT_FOUND
          | some transactionResult =>
              match ← answered (← await (.getSenderAccount transactionResult.sender)) with
              | none => throw .typeError
              | some accountResult =>
                  if accountResult.evmAddress ≠ address.toLower then getAccountLatestEthereumNonce address
                  else return transactionResult.nonce + 1

variable (maxBlockRange : Nat)

/-- A block near the head, or beyond it, is answered with the latest nonce. -/
def getAccountNonceForHistoricBlock (address : String) (blockNum : Nat) : Throwing Nat := do
  match ← answered (← await .getLatestBlock) with
  | none => throw .UNKNOWN_BLOCK
  | some latest =>
      if latest ≤ blockNum + maxBlockRange then getAccountLatestEthereumNonce address
      else getAccountNonceFromContractResult address blockNum

def cacheKey (address : String) (block : BlockNumber) : CacheKey := { address, blockNumOrTag := block.text }

def getTransactionCount (address : String) (block : BlockNumber) : Throwing Nat := do
  match ← await (.getCached .service (cacheKey address block)) with
  | some nonceCount => return nonceCount
  | none =>
      if block.value = 0 ∨ block.value = 1 then return 0
      else
        let nonceCount ← getAccountNonceForHistoricBlock maxBlockRange address block.value
        await (.setCached .service (cacheKey address block) nonceCount)
        return nonceCount

end AccountService

/-- The handler with its decorator. -/
def EthImpl.getTransactionCount (maxBlockRange : Nat) (address : String) (block : BlockNumber) : Throwing Nat := do
  match ← await (.getCached .decorator (AccountService.cacheKey address block)) with
  | some cachedResponse => return cachedResponse
  | none =>
      let result ← AccountService.getTransactionCount maxBlockRange address block
      await (.setCached .decorator (AccountService.cacheKey address block) result)
      return result

end HieroRelay.Accounts
