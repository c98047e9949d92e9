import HieroRelay.Lib.Lru
import Mathlib.Data.Finset.Card

/-! The cache service with Redis disabled: `LocalLRUCache`, which keeps reserved keys
in a store of their own, and the singletons that `getInstance` hands out. The package
`lru-cache` is a parameter, one cache for each capacity. -/

namespace HieroRelay.Cache

open HieroRelay.Lib

/-- `CACHE_MAX` and `CACHE_TTL`. -/
structure LruOptions where
  max : Nat
  ttl : Int

variable {Value : Type} (lru : (max : Nat) → LruCache String Value max) (options : LruOptions)

/-- The store of the reserved keys is there only when there are such keys. -/
structure LocalLRUCache (reservedKeys : Finset String) where
  cache : (lru options.max).State
  reservedCache : Option (lru reservedKeys.card).State

namespace LocalLRUCache

variable {lru options} {reservedKeys : Finset String}

def new (reservedKeys : Finset String) : LocalLRUCache lru options reservedKeys where
  cache := (lru options.max).empty
  reservedCache := if reservedKeys.card > 0 then some (lru reservedKeys.card).empty else none

/-- `getCacheInstance(key)`: the reserved store, when the key belongs there. -/
def reservedFor (local_ : LocalLRUCache lru options reservedKeys) (key : String) :
    Option (lru reservedKeys.card).State :=
  if key ∈ reservedKeys then local_.reservedCache else none

def get (local_ : LocalLRUCache lru options reservedKeys) (now : Nat) (key : String) :
    Option Value × LocalLRUCache lru options reservedKeys :=
  match local_.reservedFor key with
  | some reserved =>
      let (value, reserved) := (lru reservedKeys.card).get reserved now key
      (value, { local_ with reservedCache := some reserved })
  | none =>
      let (value, cache) := (lru options.max).get local_.cache now key
      (value, { local_ with cache })

/-- The time to live given to `lru-cache`: zero, for an indefinite time, unless the
resolved one is positive. -/
def resolvedTtl (options : LruOptions) (ttl : Option Int) : Nat :=
  (ttl.getD options.ttl).toNat

def set (local_ : LocalLRUCache lru options reservedKeys) (now : Nat) (key : String) (value : Value)
    (ttl : Option Int) : LocalLRUCache lru options reservedKeys :=
  match local_.reservedFor key with
  | some reserved =>
      { local_ with
        reservedCache := some ((lru reservedKeys.card).set reserved now key value (resolvedTtl options ttl)) }
  | none => { local_ with cache := (lru options.max).set local_.cache now key value (resolvedTtl options ttl) }

def delete (local_ : LocalLRUCache lru options reservedKeys) (key : String) :
    LocalLRUCache lru options reservedKeys :=
  match local_.reservedFor key with
  | some reserved => { local_ with reservedCache := some ((lru reservedKeys.card).delete reserved key) }
  | none => { local_ with cache := (lru options.max).delete local_.cache key }

end LocalLRUCache

/-- With Redis disabled the shared cache is the internal one. -/
structure CacheService where
  reservedKeys : Finset String
  internalCache : LocalLRUCache lru options reservedKeys

inductive CacheLevel where
  | L1
  | L2
  deriving Repr, DecidableEq

namespace CacheService

variable {lru options}

def new (reservedKeys : Finset String) : CacheService lru options where
  reservedKeys
  internalCache := .new reservedKeys

def getAsync (service : CacheService lru options) (now : Nat) (key : String) :
    Option Value × CacheService lru options :=
  let (value, internalCache) := service.internalCache.get now key
  (value, { service with internalCache })

def set (service : CacheService lru options) (now : Nat) (key : String) (value : Value) (ttl : Option Int) :
    CacheService lru options :=
  { service with internalCache := service.internalCache.set now key value ttl }

def delete (service : CacheService lru options) (key : String) : CacheService lru options :=
  { service with internalCache := service.internalCache.delete key }

end CacheService

/-- The singletons created so far. -/
abbrev Instances := CacheLevel → Option (CacheService lru options)

/-- `CacheService.getInstance`: the reserved keys count only for the call that creates
the instance of a level. -/
def getInstance {lru : (max : Nat) → LruCache String Value max} {options : LruOptions}
    (instances : Instances lru options) (type : CacheLevel) (reservedKeys : Finset String) :
    CacheService lru options × Instances lru options :=
  match instances type with
  | some service => (service, instances)
  | none => (.new reservedKeys, Function.update instances type (some (.new reservedKeys)))

end HieroRelay.Cache
