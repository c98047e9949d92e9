import HieroRelay.Js.Text

/-! What the mirror node knows of accounts and their Ethereum transactions: the accounts as
they are after each block, from block 0 on. -/

namespace HieroRelay.Accounts

/-- An account; for historical contracts the nonce was not tracked. -/
structure Account where
  evmAddress : String
  ethereumNonce : Option Nat
  deriving Repr, DecidableEq

/-- A transaction with the accounts in whose lists it is. -/
structure EthereumTransaction where
  transactionId : String
  sender : String
  nonce : Nat
  timestamp : Nat
  accounts : List String
  deriving Repr, DecidableEq

structure LedgerBlock where
  timestampTo : Nat
  transactions : List EthereumTransaction
  accounts : String → Option Account

/-- The nonce of an address at the end of the block. -/
def LedgerBlock.nonceOf (block : LedgerBlock) (address : String) : Nat :=
  match block.accounts address with
  | none => 0
  | some account => account.ethereumNonce.getD 1

structure Ledger where
  blocks : List LedgerBlock
  started : blocks ≠ []

namespace Ledger

variable (ledger : Ledger)

def head : LedgerBlock := ledger.blocks.getLast ledger.started

def headNumber : Nat := ledger.blocks.length - 1

/-- A block; a number beyond the head stands for the head. -/
def blockAt (number : Nat) : LedgerBlock := ledger.blocks[number]?.getD ledger.head

def nonceAt (address : String) (number : Nat) : Nat := (ledger.blockAt number).nonceOf address

def transactions : List EthereumTransaction := ledger.blocks.flatMap LedgerBlock.transactions

/-- The latest transactions in the list of an account, up to a time. -/
def latestTransactions (address : String) (timestampTo limit : Nat) : Option (List EthereumTransaction) :=
  (ledger.head.accounts address).map fun _ =>
    (ledger.transactions.filter fun transaction =>
      transaction.timestamp ≤ timestampTo && transaction.accounts.contains address).reverse.take limit

def contractResult (transactionId : String) : Option EthereumTransaction :=
  ledger.transactions.find? fun transaction => transaction.transactionId = transactionId

def produce (block : LedgerBlock) : Ledger where
  blocks := ledger.blocks ++ [block]
  started := List.append_ne_nil_of_right_ne_nil _ (List.cons_ne_nil block [])

variable {ledger}

theorem headNumber_lt : ledger.headNumber < ledger.blocks.length :=
  Nat.sub_lt (List.length_pos_of_ne_nil ledger.started) Nat.one_pos

theorem blockAt_of_beyond {number : Nat}
    (beyond : ledger.blocks.length ≤ number) : ledger.blockAt number = ledger.head := by
  rw [blockAt, List.getElem?_eq_none beyond, Option.getD_none]

theorem blockAt_of_getElem? {number : Nat} {block : LedgerBlock} (found : ledger.blocks[number]? = some block) :
    ledger.blockAt number = block := by
  rw [blockAt, found, Option.getD_some]

/-- The blocks that are there stay. -/
theorem nonceAt_grown {later : Ledger} (grown : ledger.blocks <+: later.blocks) {number : Nat}
    (there : number < ledger.blocks.length) (address : String) :
    later.nonceAt address number = ledger.nonceAt address number := by
  have kept : later.blocks[number]? = some ledger.blocks[number] := List.prefix_iff_getElem?.mp grown number there
  rw [nonceAt, nonceAt, blockAt_of_getElem? kept, blockAt_of_getElem? (List.getElem?_eq_getElem there)]

theorem blockAt_produce_of_beyond (block : LedgerBlock) {number : Nat} (beyond : ledger.blocks.length ≤ number) :
    (ledger.produce block).blockAt number = block := by
  have last : (ledger.produce block).head = block := List.getLast_concat
  rcases Nat.eq_or_lt_of_le beyond with same | after
  · apply blockAt_of_getElem?
    rw [produce, ← same, List.getElem?_concat_length]
  · rw [blockAt_of_beyond, last]
    rw [produce, List.length_append]
    exact after

theorem nonceAt_of_head {address : String} {number : Nat} (beyond : ledger.blocks.length ≤ number) :
    ledger.nonceAt address number = ledger.head.nonceOf address := by
  rw [nonceAt, blockAt_of_beyond beyond]

end Ledger

end HieroRelay.Accounts
