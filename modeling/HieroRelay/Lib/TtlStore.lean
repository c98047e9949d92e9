import HieroRelay.Lib.Lru

/-! A store without a bound on its size, whose entries have a time to live. A store is
read through `find`, which also sees stale entries, and `get`, which does not. -/

namespace HieroRelay.Lib

/-- The entries, the latest first and one for each key that was ever stored. -/
structure TtlStore (Key Value : Type) where
  entries : List (Key × LruEntry Value)

namespace TtlStore

variable {Key Value : Type} [DecidableEq Key]

def empty : TtlStore Key Value := { entries := [] }

/-- The entry of a key, stale or not. -/
def find (store : TtlStore Key Value) (key : Key) : Option (LruEntry Value) :=
  store.entries.lookup key

def get (store : TtlStore Key Value) (now : Nat) (key : Key) : Option Value :=
  ((store.find key).filter fun entry => !entry.isStale now).map LruEntry.value

def set (store : TtlStore Key Value) (now : Nat) (key : Key) (value : Value) (ttl : Nat) : TtlStore Key Value where
  entries := (key, { value, start := now, ttl }) :: LruOrder.without key store.entries

/-- The values of some keys, all with one time to live. -/
def setEach (store : TtlStore Key Value) (now : Nat) (pairs : List (Key × Value)) (ttl : Nat) : TtlStore Key Value :=
  pairs.foldl (fun store pair => store.set now pair.1 pair.2 ttl) store

def delete (store : TtlStore Key Value) (key : Key) : TtlStore Key Value where
  entries := LruOrder.without key store.entries

def keys (store : TtlStore Key Value) : List Key :=
  store.entries.map Prod.fst

/-- What is left of the time to live. It is zero, which `set` takes as unlimited, where
there is no entry or its time is unlimited or over. -/
def remainingTtl (store : TtlStore Key Value) (now : Nat) (key : Key) : Nat :=
  match store.find key with
  | some entry => entry.ttl - (now - entry.start)
  | none => 0

private theorem lookup_without_self (key : Key) (entries : List (Key × LruEntry Value)) :
    (LruOrder.without key entries).lookup key = none := by
  by_contra present
  have found := Option.isSome_iff_ne_none.mpr present
  rw [LruOrder.lookup_isSome_iff] at found
  exact LruOrder.not_mem_keys_without key entries found

theorem lookup_without_other {key other : Key} (different : other ≠ key) (entries : List (Key × LruEntry Value)) :
    (LruOrder.without key entries).lookup other = entries.lookup other := by
  induction entries with
  | nil => rfl
  | cons entry rest ih =>
    obtain ⟨name, value⟩ := entry
    by_cases same : name = key
    · have skipped : (other == name) = false := by simpa [same] using different
      have dropped : LruOrder.without key ((name, value) :: rest) = LruOrder.without key rest := by
        simp [LruOrder.without, same]
      rw [dropped, ih, List.lookup_cons, skipped]
    · have kept : LruOrder.without key ((name, value) :: rest) = (name, value) :: LruOrder.without key rest := by
        simp [LruOrder.without, same]
      rw [kept, List.lookup_cons, List.lookup_cons, ih]

@[simp] theorem find_empty (key : Key) : (empty : TtlStore Key Value).find key = none := rfl

@[simp] theorem find_set_self (store : TtlStore Key Value) (now : Nat) (key : Key) (value : Value) (ttl : Nat) :
    (store.set now key value ttl).find key = some { value, start := now, ttl } := by
  simp [find, set]

theorem find_set_other {key other : Key} (different : other ≠ key) (store : TtlStore Key Value) (now : Nat)
    (value : Value) (ttl : Nat) : (store.set now key value ttl).find other = store.find other := by
  have skipped : (other == key) = false := by simpa using different
  simp [find, set, List.lookup_cons, skipped, lookup_without_other different]

private theorem find_setEach_of_not_mem {pairs : List (Key × Value)} {key : Key} (absent : key ∉ pairs.map Prod.fst)
    (store : TtlStore Key Value) (now ttl : Nat) : (store.setEach now pairs ttl).find key = store.find key := by
  induction pairs generalizing store with
  | nil => rfl
  | cons pair rest ih =>
    rw [List.map_cons, List.mem_cons, not_or] at absent
    exact (ih absent.2 _).trans (find_set_other absent.1 store now pair.2 ttl)

theorem find_setEach_of_mem {pairs : List (Key × Value)} {key : Key} {value : Value}
    (nodup : (pairs.map Prod.fst).Nodup) (member : (key, value) ∈ pairs) (store : TtlStore Key Value) (now ttl : Nat) :
    (store.setEach now pairs ttl).find key = some { value, start := now, ttl } := by
  induction pairs generalizing store with
  | nil => cases member
  | cons pair rest ih =>
    rw [List.map_cons, List.nodup_cons] at nodup
    rcases List.mem_cons.mp member with rfl | later
    · exact (find_setEach_of_not_mem nodup.1 _ now ttl).trans (find_set_self store now key value ttl)
    · exact ih nodup.2 later _

@[simp] theorem find_delete_self (store : TtlStore Key Value) (key : Key) : (store.delete key).find key = none :=
  lookup_without_self key store.entries

theorem find_delete_other {key other : Key} (different : other ≠ key) (store : TtlStore Key Value) :
    (store.delete key).find other = store.find other :=
  lookup_without_other different store.entries

theorem find_eq_none_of_not_mem_keys {store : TtlStore Key Value} {key : Key} (absent : key ∉ store.keys) :
    store.find key = none := by
  by_contra present
  exact absent ((LruOrder.lookup_isSome_iff key _).mp (Option.isSome_iff_ne_none.mpr present))

@[simp] theorem get_empty (now : Nat) (key : Key) : (empty : TtlStore Key Value).get now key = none := rfl

/-- A new entry is there at least until the clock moves. -/
@[simp] theorem get_set_self (store : TtlStore Key Value) (now : Nat) (key : Key) (value : Value) (ttl : Nat) :
    (store.set now key value ttl).get now key = some value := by
  simp [get, LruEntry.isStale]

private theorem get_set_other {key other : Key} (different : other ≠ key) (store : TtlStore Key Value) (now later : Nat)
    (value : Value) (ttl : Nat) : (store.set now key value ttl).get later other = store.get later other := by
  simp [get, find_set_other different]

theorem get_set (store : TtlStore Key Value) (now ttl : Nat) (key other : Key) (value : Value) :
    (store.set now key value ttl).get now other = if other = key then some value else store.get now other := by
  by_cases same : other = key
  · rw [if_pos same, same, get_set_self]
  · rw [if_neg same, get_set_other same]

theorem get_delete (store : TtlStore Key Value) (now : Nat) (key other : Key) :
    (store.delete key).get now other = if other = key then none else store.get now other := by
  by_cases same : other = key
  · rw [if_pos same, same, get, find_delete_self]
    rfl
  · rw [if_neg same, get, find_delete_other same]
    rfl

theorem mem_keys_of_get {store : TtlStore Key Value} {now : Nat} {key : Key} {value : Value}
    (found : store.get now key = some value) : key ∈ store.keys := by
  by_contra absent
  rw [get, find_eq_none_of_not_mem_keys absent] at found
  cases found

/-- Of the elements that are stored under a key the last one is kept. -/
theorem get_foldl_set (now ttl : Nat) (keyOf : Element → Key) (valueOf : Element → Value) (elements : List Element)
    (store : TtlStore Key Value) (key : Key) :
    (elements.foldl (fun extended element => extended.set now (keyOf element) (valueOf element) ttl) store).get now key =
      ((elements.filter fun element => keyOf element = key).getLast?.map valueOf).or (store.get now key) := by
  induction elements generalizing store with
  | nil => rfl
  | cons element rest ih =>
    rw [List.foldl_cons, ih, get_set]
    by_cases same : keyOf element = key
    · rw [if_pos same.symm, List.filter_cons_of_pos (by simpa using same), List.getLast?_cons]
      cases (rest.filter fun element => keyOf element = key).getLast? <;> rfl
    · rw [if_neg fun equal => same equal.symm, List.filter_cons_of_neg (by simpa using same)]

theorem get_foldl_delete (now : Nat) (keys : List Key) (store : TtlStore Key Value) (key : Key) :
    (keys.foldl TtlStore.delete store).get now key = if key ∈ keys then none else store.get now key := by
  induction keys generalizing store with
  | nil => rfl
  | cons first rest ih =>
    rw [List.foldl_cons, ih, get_delete]
    by_cases same : key = first
    · simp [same]
    · simp [same]

/-- Deleting some keys, each only with a value that is dropped. -/
theorem get_foldl_deleteIf (now : Nat) (drop : Value → Bool) (keys : List Key) (store : TtlStore Key Value)
    (key : Key) :
    (keys.foldl (fun remaining each => if (remaining.get now each).any drop then remaining.delete each else remaining)
      store).get now key =
        if key ∈ keys then (store.get now key).filter fun value => !drop value else store.get now key := by
  induction keys generalizing store with
  | nil => rfl
  | cons first rest ih =>
    have step : (if (store.get now first).any drop then store.delete first else store).get now key =
        if key = first then (store.get now key).filter fun value => !drop value else store.get now key := by
      by_cases same : key = first
      · subst same
        rw [if_pos rfl]
        cases found : store.get now key with
        | none => simpa using found
        | some value =>
          cases dropped : drop value with
          | true => simp [dropped, get_delete, Option.filter]
          | false => simp [dropped, found, Option.filter]
      · rw [if_neg same]
        split
        · rw [get_delete, if_neg same]
        · rfl
    rw [List.foldl_cons, ih, step]
    by_cases same : key = first
    · subst same
      simp [Option.filter_filter]
    · simp [same]

theorem get_eq_some_iff {store : TtlStore Key Value} {now : Nat} {key : Key} {value : Value} :
    store.get now key = some value ↔
      ∃ entry, store.find key = some entry ∧ entry.isStale now = false ∧ entry.value = value := by
  simp [get, Option.filter_eq_some_iff, and_assoc]

end TtlStore

end HieroRelay.Lib
