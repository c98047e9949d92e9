import HieroRelay.Cache.CacheService
import HieroRelay.Lib.Run
import HieroRelay.Lib.TtlStore

/-! The cache service with Redis enabled: every operation falls back to the internal cache
on its own when Redis fails, so that the writes of a key may be in two stores. -/

namespace HieroRelay.Cache

open HieroRelay.Lib

variable {Value : Type} {lru : (max : Nat) → LruCache String Value max} {options : LruOptions}

namespace LocalLRUCache

variable {reservedKeys : Finset String} (local_ : LocalLRUCache lru options reservedKeys)

/-- The entries of the store that the key belongs to. -/
def entriesFor (key : String) : List (String × LruEntry Value) :=
  match local_.reservedFor key with
  | some reserved => ((lru reservedKeys.card).order reserved).entries
  | none => ((lru options.max).order local_.cache).entries

/-- There is an entry for the key with this value. -/
def Holds (key : String) (value : Value) : Prop := ∃ entry, (key, entry) ∈ local_.entriesFor key ∧ entry.value = value

variable {local_}

private theorem holds_of_get {now : Nat} {key : String} {value : Value} (found : (local_.get now key).1 = some value) :
    local_.Holds key value := by
  rw [LocalLRUCache.get] at found
  rw [Holds, entriesFor]
  cases belongs : local_.reservedFor key with
  | some reserved =>
    rw [belongs] at found
    exact LruOrder.mem_of_get (((lru reservedKeys.card).get_value reserved now key).symm.trans found)
  | none =>
    rw [belongs] at found
    exact LruOrder.mem_of_get (((lru options.max).get_value local_.cache now key).symm.trans found)

private theorem not_holds_new {key : String} {value : Value} :
    ¬ (LocalLRUCache.new reservedKeys : LocalLRUCache lru options reservedKeys).Holds key value := by
  rintro ⟨entry, member, _⟩
  rw [entriesFor] at member
  split at member
  · rename_i reserved belongs
    obtain ⟨_, stored⟩ := Option.ite_none_right_eq_some.mp belongs
    obtain ⟨_, empty⟩ := Option.ite_none_right_eq_some.mp stored
    obtain rfl := Option.some.inj empty
    rw [(lru reservedKeys.card).order_empty] at member
    cases member
  · change (key, entry) ∈ ((lru options.max).order (lru options.max).empty).entries at member
    rw [(lru options.max).order_empty] at member
    cases member

section Changed
variable {key other : String} {value held : Value}

/-- A change of the reserved store. -/
theorem holds_reserved {reserved changed : (lru reservedKeys.card).State}
    (belongs : local_.reservedFor key = some reserved)
    (holds : Holds { local_ with reservedCache := some changed } other held) :
    (∃ entry, (other, entry) ∈ ((lru reservedKeys.card).order changed).entries ∧ entry.value = held ∧
      ((other, entry) ∈ ((lru reservedKeys.card).order reserved).entries → local_.Holds other held)) ∨
    other ≠ key ∧ local_.Holds other held := by
  obtain ⟨entry, member, same⟩ := holds
  simp only [reservedFor, Option.ite_none_right_eq_some] at belongs
  by_cases isReserved : other ∈ reservedKeys
  · refine .inl ⟨entry, by simpa [entriesFor, reservedFor, isReserved] using member, same, ?_⟩
    intro before
    exact ⟨entry, by simpa [entriesFor, reservedFor, isReserved, belongs.2] using before, same⟩
  · refine .inr ⟨?_, entry, by simpa [entriesFor, reservedFor, isReserved] using member, same⟩
    rintro rfl
    exact isReserved belongs.1

/-- A change of the bounded store. -/
theorem holds_bounded {changed : (lru options.max).State} (belongs : local_.reservedFor key = none)
    (holds : Holds { local_ with cache := changed } other held) :
    (∃ entry, (other, entry) ∈ ((lru options.max).order changed).entries ∧ entry.value = held ∧
      ((other, entry) ∈ ((lru options.max).order local_.cache).entries → local_.Holds other held)) ∨
    other ≠ key ∧ local_.Holds other held := by
  obtain ⟨entry, member, same⟩ := holds
  have unchanged : reservedFor { local_ with cache := changed } other = local_.reservedFor other := rfl
  rw [entriesFor, unchanged] at member
  cases stored : local_.reservedFor other with
  | none =>
    rw [stored] at member
    refine .inl ⟨entry, member, same, ?_⟩
    intro before
    exact ⟨entry, by rw [entriesFor, stored]; exact before, same⟩
  | some reserved =>
    rw [stored] at member
    refine .inr ⟨?_, entry, by rw [entriesFor, stored]; exact member, same⟩
    rintro rfl
    rw [belongs] at stored
    cases stored

private theorem holds_of_holds_get {now : Nat} (holds : (local_.get now key).2.Holds other held) :
    local_.Holds other held := by
  rw [LocalLRUCache.get] at holds
  split at holds
  · rename_i reserved belongs
    rcases holds_reserved belongs holds with ⟨entry, member, _, before⟩ | ⟨_, before⟩
    · rw [(lru reservedKeys.card).order_get] at member
      exact before (LruOrder.mem_of_mem_get member)
    · exact before
  · rename_i belongs
    rcases holds_bounded belongs holds with ⟨entry, member, _, before⟩ | ⟨_, before⟩
    · rw [(lru options.max).order_get] at member
      exact before (LruOrder.mem_of_mem_get member)
    · exact before

theorem holds_of_holds_set {now : Nat} {ttl : Option Int} (holds : (local_.set now key value ttl).Holds other held) :
    (other = key ∧ held = value) ∨ other ≠ key ∧ local_.Holds other held := by
  rw [LocalLRUCache.set] at holds
  split at holds
  · rename_i reserved belongs
    rcases holds_reserved belongs holds with ⟨entry, member, rfl, before⟩ | apart
    · rw [(lru reservedKeys.card).order_set] at member
      exact (LruOrder.mem_of_mem_set member).imp_right fun kept => ⟨kept.1, before kept.2⟩
    · exact .inr apart
  · rename_i belongs
    rcases holds_bounded belongs holds with ⟨entry, member, rfl, before⟩ | apart
    · rw [(lru options.max).order_set] at member
      exact (LruOrder.mem_of_mem_set member).imp_right fun kept => ⟨kept.1, before kept.2⟩
    · exact .inr apart

theorem holds_of_holds_delete (holds : (local_.delete key).Holds other held) :
    other ≠ key ∧ local_.Holds other held := by
  rw [LocalLRUCache.delete] at holds
  split at holds
  · rename_i reserved belongs
    rcases holds_reserved belongs holds with ⟨entry, member, rfl, before⟩ | apart
    · rw [(lru reservedKeys.card).order_delete] at member
      have kept := LruOrder.mem_without.mp member
      exact ⟨kept.2, before kept.1⟩
    · exact apart
  · rename_i belongs
    rcases holds_bounded belongs holds with ⟨entry, member, rfl, before⟩ | apart
    · rw [(lru options.max).order_delete] at member
      have kept := LruOrder.mem_without.mp member
      exact ⟨kept.2, before kept.1⟩
    · exact apart

end Changed

end LocalLRUCache

/-- The Redis server, whose texts are known by the values that they stand for. -/
structure RedisCache (options : LruOptions) (Value : Type) where
  server : TtlStore String Value

namespace RedisCache

variable (redis : RedisCache options Value)

/-- The operations of the client fail while it is not connected. -/
def get (connected : Bool) (now : Nat) (key : String) : Option (Option Value) :=
  if connected then some (redis.server.get now key) else none

def set (connected : Bool) (now : Nat) (key : String) (value : Value) (ttl : Option Int) :
    Option (RedisCache options Value) :=
  if connected then some { server := redis.server.set now key value (LocalLRUCache.resolvedTtl options ttl) } else none

def delete (connected : Bool) (key : String) : Option (RedisCache options Value) :=
  if connected then some { server := redis.server.delete key } else none

end RedisCache

/-- The service with both caches; `sharedOptions` has the time to live of the shared one. -/
structure SharedCacheService (lru : (max : Nat) → LruCache String Value max) (options sharedOptions : LruOptions) where
  isSharedCacheEnabled : Bool
  reservedKeys : Finset String
  internalCache : LocalLRUCache lru options reservedKeys
  sharedCache : RedisCache sharedOptions Value

namespace SharedCacheService

variable {sharedOptions : LruOptions} (service : SharedCacheService lru options sharedOptions)

def new (lru : (max : Nat) → LruCache String Value max) (options sharedOptions : LruOptions)
    (isSharedCacheEnabled : Bool) (reservedKeys : Finset String) : SharedCacheService lru options sharedOptions where
  isSharedCacheEnabled
  reservedKeys
  internalCache := .new reservedKeys
  sharedCache := { server := .empty }

def getFromInternalCache (now : Nat) (key : String) : Option Value × SharedCacheService lru options sharedOptions :=
  let (value, internalCache) := service.internalCache.get now key
  (value, { service with internalCache })

def getFromSharedCache (connected : Bool) (now : Nat) (key : String) :
    Option Value × SharedCacheService lru options sharedOptions :=
  match service.sharedCache.get connected now key with
  | some value => (value, service)
  | none => service.getFromInternalCache now key

def getAsync (connected : Bool) (now : Nat) (key : String) :
    Option Value × SharedCacheService lru options sharedOptions :=
  if service.isSharedCacheEnabled then service.getFromSharedCache connected now key
  else service.getFromInternalCache now key

/-- The write that the shared cache took, where it is enabled and did not fail. -/
def shared (write : RedisCache sharedOptions Value → Option (RedisCache sharedOptions Value)) :
    Option (RedisCache sharedOptions Value) :=
  if service.isSharedCacheEnabled then write service.sharedCache else none

def set (connected : Bool) (now : Nat) (key : String) (value : Value) (ttl : Option Int) :
    SharedCacheService lru options sharedOptions :=
  match service.shared fun redis => redis.set connected now key value ttl with
  | some sharedCache => { service with sharedCache }
  | none => { service with internalCache := service.internalCache.set now key value ttl }

def delete (connected : Bool) (key : String) : SharedCacheService lru options sharedOptions :=
  match service.shared fun redis => redis.delete connected key with
  | some sharedCache => { service with sharedCache }
  | none => { service with internalCache := service.internalCache.delete key }

end SharedCacheService

/-- The two stores of the service. -/
inductive StoreKind where
  | internal
  | redis
  deriving Repr, DecidableEq

/-- A write that was completed: the store that took it, its key, and its value unless it is
a deletion. -/
structure CacheWrite (Value : Type) where
  store : StoreKind
  key : String
  value : Option Value
  deriving Repr, DecidableEq

inductive FallbackLabel (Value : Type) where
  | set (connected : Bool) (now : Nat) (key : String) (value : Value) (ttl : Option Int)
  | getAsync (connected : Bool) (now : Nat) (key : String)
  | delete (connected : Bool) (key : String)

/-- The service with the completed writes, the latest first. -/
structure TracedService (lru : (max : Nat) → LruCache String Value max) (options sharedOptions : LruOptions) where
  service : SharedCacheService lru options sharedOptions
  writes : List (CacheWrite Value)

namespace TracedService

variable {sharedOptions : LruOptions} (traced : TracedService lru options sharedOptions)

def initial (service : SharedCacheService lru options sharedOptions) : TracedService lru options sharedOptions :=
  { service, writes := [] }

/-- The store that an operation goes to. -/
def storeFor (connected : Bool) : StoreKind :=
  if traced.service.isSharedCacheEnabled && connected then .redis else .internal

def serve (traced : TracedService lru options sharedOptions) :
    FallbackLabel Value → Option (TracedService lru options sharedOptions)
  | .set connected now key value ttl => some {
      service := traced.service.set connected now key value ttl
      writes := { store := traced.storeFor connected, key, value := some value } :: traced.writes }
  | .getAsync connected now key => some { traced with service := (traced.service.getAsync connected now key).2 }
  | .delete connected key => some {
      service := traced.service.delete connected key
      writes := { store := traced.storeFor connected, key, value := none } :: traced.writes }

def lastWrite (key : String) : Option (CacheWrite Value) := traced.writes.find? fun write => write.key = key

def lastWriteOn (store : StoreKind) (key : String) : Option (CacheWrite Value) :=
  traced.writes.find? fun write => write.store = store ∧ write.key = key

/-- A lookup finds the value of the last write of its key, or nothing. -/
def Fresh (traced : TracedService lru options sharedOptions) : FallbackLabel Value → Prop
  | .getAsync connected now key => ∀ value, (traced.service.getAsync connected now key).1 = some value →
      (traced.lastWrite key).bind CacheWrite.value = some value
  | _ => True

/-- The store has an entry for the key with this value. -/
def Holds (store : StoreKind) (key : String) (value : Value) : Prop :=
  match store with
  | .redis => ∃ entry, traced.service.sharedCache.server.find key = some entry ∧ entry.value = value
  | .internal => traced.service.internalCache.Holds key value

/-- The store that a lookup goes to took the last write of the key, or it has no entry for
the key. -/
def Current (traced : TracedService lru options sharedOptions) : FallbackLabel Value → Prop
  | .getAsync connected _ key =>
      (traced.lastWrite key).map CacheWrite.store = some (traced.storeFor connected) ∨
      ∀ value, ¬ traced.Holds (traced.storeFor connected) key value
  | _ => True

variable {traced}

private theorem set_cases (connected : Bool) (now : Nat) (key : String) (value : Value) (ttl : Option Int) :
    (traced.storeFor connected = .redis ∧ traced.service.set connected now key value ttl = { traced.service with
      sharedCache := { server :=
        traced.service.sharedCache.server.set now key value (LocalLRUCache.resolvedTtl sharedOptions ttl) } }) ∨
    (traced.storeFor connected = .internal ∧ traced.service.set connected now key value ttl = { traced.service with
      internalCache := traced.service.internalCache.set now key value ttl }) := by
  obtain ⟨⟨enabled, _, _, _⟩, _⟩ := traced
  cases enabled with
  | false => exact .inr ⟨rfl, rfl⟩
  | true =>
    cases connected with
    | false => exact .inr ⟨rfl, rfl⟩
    | true => exact .inl ⟨rfl, rfl⟩

private theorem delete_cases (connected : Bool) (key : String) :
    (traced.storeFor connected = .redis ∧ traced.service.delete connected key = { traced.service with
      sharedCache := { server := traced.service.sharedCache.server.delete key } }) ∨
    (traced.storeFor connected = .internal ∧ traced.service.delete connected key = { traced.service with
      internalCache := traced.service.internalCache.delete key }) := by
  obtain ⟨⟨enabled, _, _, _⟩, _⟩ := traced
  cases enabled with
  | false => exact .inr ⟨rfl, rfl⟩
  | true =>
    cases connected with
    | false => exact .inr ⟨rfl, rfl⟩
    | true => exact .inl ⟨rfl, rfl⟩

theorem getAsync_cases (connected : Bool) (now : Nat) (key : String) :
    (traced.storeFor connected = .redis ∧ traced.service.getAsync connected now key =
      (traced.service.sharedCache.server.get now key, traced.service)) ∨
    (traced.storeFor connected = .internal ∧ traced.service.getAsync connected now key =
      ((traced.service.internalCache.get now key).1,
        { traced.service with internalCache := (traced.service.internalCache.get now key).2 })) := by
  obtain ⟨⟨enabled, _, _, _⟩, _⟩ := traced
  cases enabled with
  | false => exact .inr ⟨rfl, rfl⟩
  | true =>
    cases connected with
    | false => exact .inr ⟨rfl, rfl⟩
    | true => exact .inl ⟨rfl, rfl⟩

section Held
variable {store : StoreKind} {key other : String} {value held : Value} {connected : Bool} {now : Nat}

/-- A value that is found is held by the store that the lookup goes to. -/
theorem holds_of_getAsync (found : (traced.service.getAsync connected now key).1 = some value) :
    traced.Holds (traced.storeFor connected) key value := by
  rcases getAsync_cases connected now key with ⟨redis, same⟩ | ⟨internal, same⟩
  · rw [same] at found
    rw [redis]
    obtain ⟨entry, present, _, equal⟩ := TtlStore.get_eq_some_iff.mp found
    exact ⟨entry, present, equal⟩
  · rw [same] at found
    rw [internal]
    exact LocalLRUCache.holds_of_get found

private theorem holds_of_holds_getAsync {writes : List (CacheWrite Value)}
    (holds : Holds { service := (traced.service.getAsync connected now key).2, writes } store other held) :
    traced.Holds store other held := by
  rcases getAsync_cases connected now key with ⟨redis, same⟩ | ⟨internal, same⟩
  · rw [same] at holds
    exact holds
  · rw [same] at holds
    cases store with
    | redis => exact holds
    | internal => exact LocalLRUCache.holds_of_holds_get holds

/-- After a value is written, its store has no other one for the key. -/
theorem holds_of_holds_set {ttl : Option Int} {writes : List (CacheWrite Value)}
    (holds : Holds { service := traced.service.set connected now key value ttl, writes } store other held) :
    ((store = traced.storeFor connected ∧ other = key) ∧ held = value) ∨
    ¬ (store = traced.storeFor connected ∧ other = key) ∧ traced.Holds store other held := by
  rcases set_cases connected now key value ttl with ⟨redis, same⟩ | ⟨internal, same⟩
  · rw [same] at holds
    rw [redis]
    cases store with
    | internal => exact .inr ⟨fun both => StoreKind.noConfusion both.1, holds⟩
    | redis =>
      obtain ⟨entry, present, rfl⟩ := holds
      by_cases own : other = key
      · subst own
        rw [TtlStore.find_set_self] at present
        exact .inl ⟨⟨rfl, rfl⟩, congrArg LruEntry.value (Option.some.inj present).symm⟩
      · rw [TtlStore.find_set_other own] at present
        exact .inr ⟨fun both => own both.2, entry, present, rfl⟩
  · rw [same] at holds
    rw [internal]
    cases store with
    | redis => exact .inr ⟨fun both => StoreKind.noConfusion both.1, holds⟩
    | internal =>
      rcases LocalLRUCache.holds_of_holds_set holds with ⟨own, equal⟩ | ⟨different, before⟩
      · exact .inl ⟨⟨rfl, own⟩, equal⟩
      · exact .inr ⟨fun both => different both.2, before⟩

theorem holds_of_holds_delete {writes : List (CacheWrite Value)}
    (holds : Holds { service := traced.service.delete connected key, writes } store other held) :
    ¬ (store = traced.storeFor connected ∧ other = key) ∧ traced.Holds store other held := by
  rcases delete_cases connected key with ⟨redis, same⟩ | ⟨internal, same⟩
  · rw [same] at holds
    rw [redis]
    cases store with
    | internal => exact ⟨fun both => StoreKind.noConfusion both.1, holds⟩
    | redis =>
      obtain ⟨entry, present, rfl⟩ := holds
      by_cases own : other = key
      · subst own
        rw [TtlStore.find_delete_self] at present
        cases present
      · rw [TtlStore.find_delete_other own] at present
        exact ⟨fun both => own both.2, entry, present, rfl⟩
  · rw [same] at holds
    rw [internal]
    cases store with
    | redis => exact ⟨fun both => StoreKind.noConfusion both.1, holds⟩
    | internal =>
      obtain ⟨different, before⟩ := LocalLRUCache.holds_of_holds_delete holds
      exact ⟨fun both => different both.2, before⟩

end Held

/-- Each store has the values of the last writes that it took. -/
def Traced (traced : TracedService lru options sharedOptions) : Prop :=
  ∀ store key value, traced.Holds store key value → (traced.lastWriteOn store key).bind CacheWrite.value = some value

private theorem traced_initial (isSharedCacheEnabled : Bool) (reservedKeys : Finset String) :
    Traced (.initial (.new lru options sharedOptions isSharedCacheEnabled reservedKeys)) := by
  intro store key value holds
  cases store with
  | redis =>
    obtain ⟨entry, present, _⟩ := holds
    cases present
  | internal => exact absurd holds LocalLRUCache.not_holds_new

/-- The last write on a store after one more write. -/
theorem lastWriteOn_cons {service : SharedCacheService lru options sharedOptions} {write : CacheWrite Value}
    (store : StoreKind) (key : String) :
    lastWriteOn { service, writes := write :: traced.writes } store key =
      if store = write.store ∧ key = write.key then some write else traced.lastWriteOn store key := by
  by_cases own : store = write.store ∧ key = write.key
  · have present : decide (write.store = store ∧ write.key = key) = true := decide_eq_true ⟨own.1.symm, own.2.symm⟩
    rw [if_pos own]
    simp only [lastWriteOn, List.find?_cons, present]
  · have absent : decide (write.store = store ∧ write.key = key) = false :=
      decide_eq_false fun both => own ⟨both.1.symm, both.2.symm⟩
    rw [if_neg own]
    simp only [lastWriteOn, List.find?_cons, absent]

theorem Traced.serve (before : TracedService lru options sharedOptions) (label : FallbackLabel Value)
    (after : TracedService lru options sharedOptions) (invariant : Traced before)
    (served : before.serve label = some after) : Traced after := by
  intro store other held holds
  cases label with
  | getAsync connected now key =>
    obtain rfl := Option.some.inj served
    exact invariant store other held (holds_of_holds_getAsync holds)
  | set connected now key value ttl =>
    obtain rfl := Option.some.inj served
    rw [lastWriteOn_cons]
    rcases holds_of_holds_set holds with ⟨own, rfl⟩ | ⟨apart, earlier⟩
    · rw [if_pos own]
      rfl
    · rw [if_neg apart]
      exact invariant store other held earlier
  | delete connected key =>
    obtain rfl := Option.some.inj served
    rw [lastWriteOn_cons]
    obtain ⟨apart, earlier⟩ := holds_of_holds_delete holds
    rw [if_neg apart]
    exact invariant store other held earlier

/-- The last write of a key is the last one on the store that took it. -/
theorem lastWriteOn_of_lastWrite {key : String} {write : CacheWrite Value} (last : traced.lastWrite key = some write) :
    traced.lastWriteOn write.store key = some write := by
  obtain ⟨own, earlier, later, same, others⟩ := List.find?_eq_some_iff_append.mp last
  refine List.find?_eq_some_iff_append.mpr ⟨decide_eq_true ⟨rfl, of_decide_eq_true own⟩, earlier, later, same, ?_⟩
  intro other member
  have different := others other member
  simp only [Bool.not_eq_true', decide_eq_false_iff_not] at different ⊢
  exact fun both => different both.2

private theorem fresh_of_current (label : FallbackLabel Value) (invariant : Traced traced)
    (current : traced.Current label) :
    traced.Fresh label := by
  cases label with
  | set connected now key value ttl => trivial
  | delete connected key => trivial
  | getAsync connected now key =>
    intro value found
    have holds := holds_of_getAsync found
    rcases current with taken | empty
    · obtain ⟨write, last, same⟩ := Option.map_eq_some_iff.mp taken
      have value := invariant _ _ _ holds
      rw [← same, lastWriteOn_of_lastWrite last] at value
      rw [last]
      exact value
    · exact absurd holds (empty value)

/-- Where a lookup is not current, its store has a value that a later write on the other
store replaced. -/
theorem superseded_of_not_current {connected : Bool} {now : Nat} {key : String} (invariant : Traced traced)
    (outdated : ¬ traced.Current (.getAsync connected now key)) :
    ∃ value newer, traced.Holds (traced.storeFor connected) key value ∧
      (traced.lastWriteOn (traced.storeFor connected) key).bind CacheWrite.value = some value ∧
      traced.lastWrite key = some newer ∧ newer.store ≠ traced.storeFor connected := by
  obtain ⟨elsewhere, held⟩ := not_or.mp outdated
  obtain ⟨value, holds⟩ := not_forall_not.mp held
  have written := invariant _ _ _ holds
  obtain ⟨write, found, _⟩ := Option.bind_eq_some_iff.mp written
  have present : (traced.lastWrite key).isSome := by
    rw [lastWrite, List.find?_isSome]
    have matched := List.find?_some found
    exact ⟨write, List.mem_of_find?_eq_some found, decide_eq_true (of_decide_eq_true matched).2⟩
  obtain ⟨newer, last⟩ := Option.isSome_iff_exists.mp present
  refine ⟨value, newer, holds, written, last, ?_⟩
  intro same
  rw [last, Option.map_some, same] at elsewhere
  exact elsewhere rfl

/-- In every run each lookup that is current finds the value of the last write of its key, or
nothing, whenever Redis failed before. -/
theorem current_lookups_fresh (lru : (max : Nat) → LruCache String Value max) (options sharedOptions : LruOptions)
    (isSharedCacheEnabled : Bool) (reservedKeys : Finset String) (labels : List (FallbackLabel Value)) :
    Meets serve (fun traced label => traced.Current label → traced.Fresh label)
      (.initial (.new lru options sharedOptions isSharedCacheEnabled reservedKeys)) labels :=
  meets_of_invariant Traced.serve (fun _ label invariant => fresh_of_current label invariant)
    (traced_initial isSharedCacheEnabled reservedKeys) labels

def hour : LruOptions := { max := 1000, ttl := 3600000 }

/-- Redis fails during the second write of a key and is back for the lookup. -/
theorem not_fresh_recovered :
    ¬ ∀ (lru : (max : Nat) → LruCache String String max) (options sharedOptions : LruOptions) isSharedCacheEnabled
      reservedKeys labels,
      Meets serve Fresh (.initial (.new lru options sharedOptions isSharedCacheEnabled reservedKeys)) labels := by
  intro fresh
  have recovered := fresh (fun max => .ofOrder String String max) hour hour true ∅
    [.set true 0 "a" "old" none, .set false 1 "a" "new" none, .getAsync true 2 "a"]
  have outdated := ((recovered.2 _ rfl).2 _ rfl).1 "old" rfl
  exact absurd outdated (by decide)

end TracedService

end HieroRelay.Cache
