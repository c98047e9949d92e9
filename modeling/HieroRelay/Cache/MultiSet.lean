import HieroRelay.Cache.CounterExpiry

/-! Many values that are stored at once, in each of the two modes and in both caches, beside the same
values stored one after the other: the modes do not agree on the time to live. -/

namespace HieroRelay.Cache

open HieroRelay.Lib

variable {Value : Type} {lru : (max : Nat) → LruCache String Value max} {options : LruOptions}

/-- The entries of a record, in the order of `Object.entries`. -/
structure CacheEntries (Value : Type) where
  pairs : List (String × Value)
  nodup : (pairs.map Prod.fst).Nodup

namespace RedisCache

variable (redis : RedisCache options Value)

/-- `MSET` stores for an unlimited time, and needs a pair. -/
def multiSet (connected : Bool) (now : Nat) (entries : CacheEntries Value) : Option (RedisCache options Value) :=
  if connected ∧ entries.pairs ≠ [] then some { server := redis.server.setEach now entries.pairs 0 } else none

/-- Each `SET` of the pipeline has a time to live, which is refused unless it is positive. -/
def pipelineSet (connected : Bool) (now : Nat) (entries : CacheEntries Value) (ttl : Option Int) :
    Option (RedisCache options Value) :=
  let resolvedTtl := ttl.getD options.ttl
  if connected ∧ (entries.pairs = [] ∨ 0 < resolvedTtl) then
    some { server := redis.server.setEach now entries.pairs resolvedTtl.toNat }
  else none

end RedisCache

def LocalLRUCache.pipelineSet {reservedKeys : Finset String} (local_ : LocalLRUCache lru options reservedKeys)
    (now : Nat) (entries : CacheEntries Value) (ttl : Option Int) : LocalLRUCache lru options reservedKeys :=
  entries.pairs.foldl (fun local_ pair => local_.set now pair.1 pair.2 ttl) local_

namespace SharedCacheService

variable {sharedOptions : LruOptions} (service other : SharedCacheService lru options sharedOptions)

def multiSet (shouldMultiSet connected : Bool) (now : Nat) (entries : CacheEntries Value) (ttl : Option Int) :
    SharedCacheService lru options sharedOptions :=
  let written := service.shared fun redis =>
    if shouldMultiSet then redis.multiSet connected now entries else redis.pipelineSet connected now entries ttl
  match written with
  | some sharedCache => { service with sharedCache }
  | none => { service with internalCache := service.internalCache.pipelineSet now entries ttl }

/-- The values stored one after the other. -/
def setEach (connected : Bool) (now : Nat) (entries : CacheEntries Value) (ttl : Option Int) :
    SharedCacheService lru options sharedOptions :=
  entries.pairs.foldl (fun service pair => service.set connected now pair.1 pair.2 ttl) service

/-- The value of an entry, and when its time is past. -/
def held (entry : LruEntry Value) : Value × Option Nat := (entry.value, expiry entry)

/-- Under each key both have the same value for the same time, in Redis and in the internal cache. -/
def SameEntries : Prop :=
  ∀ key, (service.sharedCache.server.find key).map held = (other.sharedCache.server.find key).map held ∧
    (service.internalCache.entryOf key).map held = (other.internalCache.entryOf key).map held

/-- Without entries or without Redis the modes do not count. With it, `MSET` is alike where there is no
time to live, and the pipeline where there is one. -/
def AlikeTtl (sharedOptions : LruOptions) (isSharedCacheEnabled shouldMultiSet connected : Bool)
    (entries : CacheEntries Value) (ttl : Option Int) : Prop :=
  entries.pairs = [] ∨ (isSharedCacheEnabled && connected) = false ∨
    if shouldMultiSet then ttl.getD sharedOptions.ttl ≤ 0 else 0 < ttl.getD sharedOptions.ttl

variable {service} {enabled shouldMultiSet connected : Bool} {now : Nat} {entries : CacheEntries Value} {ttl : Option Int}

theorem setEach_of_shared (reached : (service.isSharedCacheEnabled && connected) = true) :
    service.setEach connected now entries ttl = { service with sharedCache := {
      server := service.sharedCache.server.setEach now entries.pairs (LocalLRUCache.resolvedTtl sharedOptions ttl) } } := by
  rw [setEach, TtlStore.setEach]
  generalize entries.pairs = pairs
  induction pairs generalizing service with
  | nil => rfl
  | cons pair rest ih =>
    have stored : service.set connected now pair.1 pair.2 ttl = { service with sharedCache := {
        server := service.sharedCache.server.set now pair.1 pair.2 (LocalLRUCache.resolvedTtl sharedOptions ttl) } } := by
      rw [Bool.and_eq_true] at reached
      rw [SharedCacheService.set, shared, if_pos reached.1, RedisCache.set, if_pos reached.2]
    rw [List.foldl_cons, stored]
    exact ih reached

private theorem setEach_of_internal (unreached : (service.isSharedCacheEnabled && connected) = false) :
    service.setEach connected now entries ttl = { service with
      internalCache := service.internalCache.pipelineSet now entries ttl } := by
  rw [setEach, LocalLRUCache.pipelineSet]
  generalize entries.pairs = pairs
  induction pairs generalizing service with
  | nil => rfl
  | cons pair rest ih =>
    have stored : service.set connected now pair.1 pair.2 ttl = { service with
        internalCache := service.internalCache.set now pair.1 pair.2 ttl } := by
      have failed : (service.shared fun redis => redis.set connected now pair.1 pair.2 ttl) = none := by
        rw [shared]
        split
        · next enabled =>
          rw [enabled, Bool.true_and] at unreached
          rw [RedisCache.set, unreached]
          rfl
        · rfl
      rw [SharedCacheService.set, failed]
    rw [List.foldl_cons, stored]
    exact @ih { service with internalCache := service.internalCache.set now pair.1 pair.2 ttl } unreached

/-- A write that Redis takes. -/
theorem multiSet_of_written {sharedCache : RedisCache sharedOptions Value} (enabled : service.isSharedCacheEnabled = true)
    (written : (if shouldMultiSet then service.sharedCache.multiSet connected now entries
      else service.sharedCache.pipelineSet connected now entries ttl) = some sharedCache) :
    service.multiSet shouldMultiSet connected now entries ttl = { service with sharedCache } := by
  rw [multiSet, shared, if_pos enabled, written]

/-- A write that Redis does not take, or is not asked to. -/
theorem multiSet_of_failed (failed : service.isSharedCacheEnabled = true →
      (if shouldMultiSet then service.sharedCache.multiSet connected now entries
        else service.sharedCache.pipelineSet connected now entries ttl) = none) :
    service.multiSet shouldMultiSet connected now entries ttl = { service with
      internalCache := service.internalCache.pipelineSet now entries ttl } := by
  have none : (service.shared fun redis => if shouldMultiSet then redis.multiSet connected now entries
      else redis.pipelineSet connected now entries ttl) = none := by
    rw [shared]
    split
    · next enabled => exact failed enabled
    · rfl
  rw [multiSet, none]

theorem multiSet_of_unreached (unreached : (service.isSharedCacheEnabled && connected) = false) :
    service.multiSet shouldMultiSet connected now entries ttl = { service with
      internalCache := service.internalCache.pipelineSet now entries ttl } := by
  refine multiSet_of_failed fun enabled => ?_
  rw [enabled, Bool.true_and] at unreached
  subst unreached
  split <;> rfl

/-- Nothing is written without entries. -/
theorem multiSet_of_empty (empty : entries.pairs = []) :
    service.multiSet shouldMultiSet connected now entries ttl = service := by
  cases reached : service.isSharedCacheEnabled && connected with
  | false =>
    rw [multiSet_of_unreached reached, LocalLRUCache.pipelineSet, empty]
    rfl
  | true =>
    rw [Bool.and_eq_true] at reached
    cases shouldMultiSet with
    | true =>
      have failed : service.sharedCache.multiSet connected now entries = none := if_neg fun both => both.2 empty
      rw [@multiSet_of_failed _ _ _ _ _ true _ _ _ ttl fun _ => failed, LocalLRUCache.pipelineSet, empty]
      rfl
    | false =>
      have written : service.sharedCache.pipelineSet connected now entries ttl = some service.sharedCache := by
        rw [RedisCache.pipelineSet, if_pos ⟨reached.2, .inl empty⟩, empty]
        rfl
      exact @multiSet_of_written _ _ _ _ _ false _ _ _ ttl _ reached.1 written

private theorem multiSet_eq_setEach
    (alike : AlikeTtl sharedOptions service.isSharedCacheEnabled shouldMultiSet connected entries ttl) :
    service.multiSet shouldMultiSet connected now entries ttl = service.setEach connected now entries ttl := by
  by_cases empty : entries.pairs = []
  · rw [multiSet_of_empty empty, setEach, empty]
    rfl
  · cases reached : service.isSharedCacheEnabled && connected with
    | false => rw [multiSet_of_unreached reached, setEach_of_internal reached]
    | true =>
      rw [setEach_of_shared reached]
      have modes := (alike.resolve_left empty).resolve_left (by rw [reached]; exact Bool.noConfusion)
      rw [Bool.and_eq_true] at reached
      refine multiSet_of_written reached.1 ?_
      cases shouldMultiSet with
      | true =>
        have unlimited : LocalLRUCache.resolvedTtl sharedOptions ttl = 0 := Int.toNat_of_nonpos modes
        have written : service.sharedCache.multiSet connected now entries =
            some { server := service.sharedCache.server.setEach now entries.pairs 0 } := if_pos ⟨reached.2, empty⟩
        rw [unlimited]
        exact written
      | false =>
        have written : service.sharedCache.pipelineSet connected now entries ttl = some {
            server := service.sharedCache.server.setEach now entries.pairs (ttl.getD sharedOptions.ttl).toNat } :=
          if_pos ⟨reached.2, .inr modes⟩
        exact written

section Different

variable {key : String} {value : Value}

/-- With Redis the modes differ in what is there under the key of an entry, which was stored nowhere. -/
theorem alike_of_sameEntries (member : (key, value) ∈ entries.pairs)
    (fresh : service.sharedCache.server.find key = none)
    (same : (service.multiSet shouldMultiSet connected now entries ttl).SameEntries
      (service.setEach connected now entries ttl)) :
    AlikeTtl sharedOptions service.isSharedCacheEnabled shouldMultiSet connected entries ttl := by
  cases reached : service.isSharedCacheEnabled && connected with
  | false => exact .inr (.inl reached)
  | true =>
    have notEmpty : entries.pairs ≠ [] := List.ne_nil_of_mem member
    have found := (same key).1
    rw [setEach_of_shared reached] at found
    dsimp only at found
    rw [TtlStore.find_setEach_of_mem entries.nodup member, Option.map_some] at found
    rw [Bool.and_eq_true] at reached
    refine .inr (.inr ?_)
    cases shouldMultiSet with
    | true =>
      have written : service.sharedCache.multiSet connected now entries =
          some { server := service.sharedCache.server.setEach now entries.pairs 0 } := if_pos ⟨reached.2, notEmpty⟩
      rw [@multiSet_of_written _ _ _ _ _ true _ _ _ ttl _ reached.1 written] at found
      dsimp only at found
      rw [TtlStore.find_setEach_of_mem entries.nodup member, Option.map_some] at found
      have times : (none : Option Nat) =
          expiry { value, start := now, ttl := LocalLRUCache.resolvedTtl sharedOptions ttl } :=
        congrArg Prod.snd (Option.some.inj found)
      have unlimited : LocalLRUCache.resolvedTtl sharedOptions ttl = 0 := by
        by_contra limited
        rw [expiry, if_neg limited] at times
        cases times
      exact Int.toNat_eq_zero.mp unlimited
    | false =>
      by_contra refused
      have none : service.sharedCache.pipelineSet connected now entries ttl = none :=
        if_neg fun both => both.2.elim notEmpty refused
      rw [@multiSet_of_failed _ _ _ _ _ false _ _ _ ttl fun _ => none] at found
      dsimp only at found
      rw [fresh] at found
      cases found

end Different

/-- In all caches the values that are stored at once are there as if they were stored one after the
other, exactly where the mode has the time to live that each of them has. -/
theorem sameEntries_iff (lru : (max : Nat) → LruCache String Value max) (options sharedOptions : LruOptions)
    (isSharedCacheEnabled shouldMultiSet connected : Bool) (now : Nat) (entries : CacheEntries Value) (ttl : Option Int) :
    (∀ service : SharedCacheService lru options sharedOptions, service.isSharedCacheEnabled = isSharedCacheEnabled →
      (service.multiSet shouldMultiSet connected now entries ttl).SameEntries
        (service.setEach connected now entries ttl)) ↔
      AlikeTtl sharedOptions isSharedCacheEnabled shouldMultiSet connected entries ttl := by
  constructor
  · intro same
    cases listed : entries.pairs with
    | nil => exact .inl listed
    | cons pair rest =>
      have member : (pair.1, pair.2) ∈ entries.pairs := listed ▸ List.mem_cons_self
      exact alike_of_sameEntries member rfl (same (.new lru options sharedOptions isSharedCacheEnabled ∅) rfl)
  · rintro alike service rfl key
    rw [multiSet_eq_setEach alike]
    exact ⟨rfl, rfl⟩

def exampleEntries : CacheEntries String where
  pairs := [("a", "1"), ("b", "2")]
  nodup := by decide

theorem exampleEntries_unlimited :
    ¬ ∀ (service : SharedCacheService (LruCache.ofOrder String String) { max := 1000, ttl := 3600000 }
        { max := 1000, ttl := 3600000 }) (shouldMultiSet connected : Bool) (now : Nat) (entries : CacheEntries String)
        (ttl : Option Int),
      (service.multiSet shouldMultiSet connected now entries ttl).SameEntries
        (service.setEach connected now entries ttl) := by
  intro same
  have redis := (same (.new _ _ _ true ∅) true true 0 exampleEntries (some 500) "a").1
  exact absurd redis (by decide)

end SharedCacheService

end HieroRelay.Cache
