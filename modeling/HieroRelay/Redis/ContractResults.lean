import HieroRelay.Blocks.Factories
import HieroRelay.Redis.JsIntegers

/-! Contract results and entities of the mirror node, the formatters that read them, and the
cache in Redis that they may come from. A record holds its integers as they are in the answer
of the mirror node, in the relay, or in a JSON text. -/

namespace HieroRelay.Redis

open HieroRelay.Js (JsError)
open HieroRelay.Blocks (EMPTY_HEX EntityType TINYBAR_TO_WEIBAR_COEF isHex parseHex prepend0x
  stripLeadingZeroForSignatures substring trimPrecedingZeros)

/-- The fields of a contract result that are read here. -/
structure ContractResult (Integer : Type) where
  amount : Field Integer
  block_hash : Field String
  block_number : Field Integer
  chain_id : Field String
  from_address : Field String
  function_parameters : Field String
  gas_price : Field String
  gas_used : Field Integer
  hash : Field String
  max_fee_per_gas : Field String
  max_priority_fee_per_gas : Field String
  nonce : Field Integer
  r : Field String
  result : Field String
  s : Field String
  to_address : Field String
  transaction_index : Field Integer
  type : Field Integer
  v : Field Integer
  deriving Repr, DecidableEq

/-- An entity with its type; an account has a balance. -/
structure Entity (Integer : Type) where
  type : EntityType
  balance : Option (Field Integer)
  evm_address : Field String
  deriving Repr, DecidableEq

instance : Functor ContractResult where
  map change cr := {
    cr with
    amount := cr.amount.map change
    block_number := cr.block_number.map change
    gas_used := cr.gas_used.map change
    nonce := cr.nonce.map change
    transaction_index := cr.transaction_index.map change
    type := cr.type.map change
    v := cr.v.map change }

instance : Functor Entity where
  map change entity := { entity with balance := entity.balance.map (Field.map change) }

instance : LawfulFunctor ContractResult where
  map_const := rfl
  id_map cr := by simp [Functor.map]
  comp_map first second cr := by simp [Functor.map]

instance : LawfulFunctor Entity where
  map_const := rfl
  id_map entity := by cases entity; simp [Functor.map, funext Field.map_id]
  comp_map first second entity := by
    simp only [Functor.map, Option.map_map]
    congr 2
    funext field
    simp

/-- The class of a transaction with the fields it adds; its access list is always empty. -/
inductive TransactionKind where
  | Transaction
  | Transaction2930 (yParity : String)
  | Transaction1559 (yParity maxPriorityFeePerGas maxFeePerGas : String)
  deriving Repr, DecidableEq

/-- A transaction as it is sent; a field that is missing is left out. -/
structure Transaction where
  kind : TransactionKind
  blockHash : String
  blockNumber : Option String
  chainId : Field String
  fromAddress : String
  gas : String
  gasPrice : String
  hash : String
  input : Field String
  nonce : String
  r : String
  s : String
  toAddress : Option String
  transactionIndex : Option String
  type : String
  v : String
  value : String
  deriving Repr, DecidableEq

namespace TransactionFactory

def feePerGas : Field String → String
  | .null => "0x0"
  | .undefined => prepend0x "NaN"
  | .given fee => if fee = EMPTY_HEX then "0x0" else prepend0x (trimPrecedingZeros fee)

/-- The types are compared strictly: nothing but a number is a known type. -/
def createTransactionByType (type : Field JsInteger) (v : String) (maxPriorityFeePerGas maxFeePerGas : Field String) :
    Option TransactionKind :=
  match type with
  | .null | .given (.number 0) => some .Transaction
  | .given (.number 1) => some (.Transaction2930 v)
  | .given (.number 2) => some (.Transaction1559 v (feePerGas maxPriorityFeePerGas) (feePerGas maxFeePerGas))
  | _ => none

end TransactionFactory

namespace CommonService

/-- `value.substring(0, last)` -/
def textTo (last : Nat) : Field String → Except JsError String
  | .undefined => .error (.typeError "Cannot read properties of undefined (reading 'substring')")
  | .null => .error (.typeError "Cannot read properties of null (reading 'substring')")
  | .given text => .ok (substring text 0 last)

def gasPriceOf : Field String → String
  | .undefined | .null => "0x0"
  | .given price =>
      if price = EMPTY_HEX then "0x0"
      else if isHex price then "0x" ++ digits 16 ((parseHex price).getD 0 * TINYBAR_TO_WEIBAR_COEF)
      else "0x" ++ price

/-- A part of the signature. -/
def signaturePart : Field String → Except JsError String
  | .null => .ok "0x0"
  | part => stripLeadingZeroForSignatures <$> textTo 66 part

/-- The texts that the fields are cut to; one that is missing throws. -/
structure ResultTexts where
  blockHash : String
  fromAddress : String
  hash : String
  r : String
  s : String

def textsOf {Integer : Type} (cr : ContractResult Integer) : Except JsError ResultTexts := do
  let blockHash ← textTo 66 cr.block_hash
  let fromAddress ← textTo 42 cr.from_address
  let hash ← textTo 66 cr.hash
  let r ← signaturePart cr.r
  let s ← signaturePart cr.s
  return { blockHash, fromAddress, hash, r, s }

/-- The fields of the transaction, where the value is in weibars. -/
def transactionOf (cr : ContractResult JsInteger) (texts : ResultTexts) (value : Field JsInteger)
    (kind : TransactionKind) :
    Transaction where
  kind
  blockHash := texts.blockHash
  blockNumber := nullableNumberTo0x cr.block_number
  chainId := if cr.chain_id = .given EMPTY_HEX then .undefined else cr.chain_id
  fromAddress := texts.fromAddress
  gas := nanOrNumberTo0x cr.gas_used
  gasPrice := gasPriceOf cr.gas_price
  hash := texts.hash
  input := cr.function_parameters
  nonce := nanOrNumberTo0x cr.nonce
  r := texts.r
  s := texts.s
  toAddress := (textTo 42 cr.to_address).toOption
  transactionIndex := nullableNumberTo0x cr.transaction_index
  type := nanOrNumberTo0x cr.type
  v := nanOrNumberTo0x cr.v
  value := nanOrNumberInt64To0x value

/-- The transaction of a contract result that is there. -/
def formatted (cr : ContractResult JsInteger) : Except JsError (Option Transaction) := do
  let texts ← textsOf cr
  let value ← tinybarsToWeibars cr.amount true
  return (TransactionFactory.createTransactionByType cr.type (nanOrNumberTo0x cr.v) cr.max_priority_fee_per_gas
    cr.max_fee_per_gas).map (transactionOf cr texts value)

def formatContractResult : Option (ContractResult JsInteger) → Except JsError (Option Transaction)
  | none => .ok none
  | some cr => formatted cr

end CommonService

namespace DebugImpl

def zeroHex : String := "0x0"

/-- The value that the call tracer reports. -/
def callTracerValue (cr : ContractResult JsInteger) : Except JsError String :=
  if cr.amount = .given (.number 0) then .ok zeroHex else numberTo0x cr.amount

/-- `numberTo0x(balance || '0')` -/
def balanceOrZero : Option (Field JsInteger) → String
  | some (.given balance) => if balance = .number 0 then zeroHex else "0x" ++ balance.toString16
  | _ => zeroHex

/-- The balance that the prestate tracer reports: of a contract it is fetched for the
timestamp, of an account it is read from the entity. -/
def prestateBalance (entity : Entity JsInteger) (balances : List (Field JsInteger)) : Option String :=
  match entity.evm_address with
  | .undefined | .null | .given "" => none
  | .given _ =>
      match entity.type with
      | .CONTRACT => some (balanceOrZero balances.head?)
      | .ACCOUNT => some (balanceOrZero entity.balance)
      | .TOKEN => none

end DebugImpl

/-- The texts under the keys. -/
abbrev RedisCache (Record : Type → Type) := String → Option (Record JsonInteger)

namespace RedisCache

variable {Record : Type → Type} [Functor Record] (redis : RedisCache Record)

def get (key : String) : Option (Record JsInteger) := (redis key).map fun result => JSON.parse <$> result

def set (key : String) (value : Record JsInteger) : RedisCache Record :=
  Function.update redis key (some (JSON.stringify <$> value))

/-- A value that is not cached is fetched, and cached where the condition allows it. -/
def getOrFetch (json : JSONBigInt) (key : String) (fetched : Option (Record Int)) (caches : Record JsInteger → Bool) :
    Option (Record JsInteger) × RedisCache Record :=
  match redis.get key with
  | some cachedResponse => (some cachedResponse, redis)
  | none =>
      match fetched.map (json.parse <$> ·) with
      | some response => (some response, if caches response then redis.set key response else redis)
      | none => (none, redis)

end RedisCache

namespace MirrorNodeClient

/-- `value != undefined` -/
def present {Value : Type} : Field Value → Bool
  | .given _ => true
  | _ => false

def cachesResult (response : ContractResult JsInteger) : Bool :=
  present response.transaction_index && present response.block_number &&
    decide (response.block_hash ≠ .given EMPTY_HEX) && decide (response.result = .given "SUCCESS")

def contractResultKey (transactionIdOrHash : String) : String := s!"getContractResult.{transactionIdOrHash}"

def entityKey (entityIdentifier : String) : String := s!"resolveEntityType_{entityIdentifier}"

/-- The mirror node may have no contract result. -/
def getContractResult (json : JSONBigInt) (mirror : String → Option (ContractResult Int))
    (redis : RedisCache ContractResult) (transactionIdOrHash : String) :
    Option (ContractResult JsInteger) × RedisCache ContractResult :=
  redis.getOrFetch json (contractResultKey transactionIdOrHash) (mirror transactionIdOrHash) cachesResult

/-- The entity of an identifier, which is always cached. -/
def resolveEntityType (json : JSONBigInt) (mirror : String → Option (Entity Int)) (redis : RedisCache Entity)
    (entityIdentifier : String) : Option (Entity JsInteger) × RedisCache Entity :=
  redis.getOrFetch json (entityKey entityIdentifier) (mirror entityIdentifier) fun _ => true

end MirrorNodeClient

end HieroRelay.Redis
