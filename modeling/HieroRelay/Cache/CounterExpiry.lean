import HieroRelay.Cache.RedisFallback
import HieroRelay.Js.Value

/-! Counters and lists in the internal cache: an update stores the value anew for the time that
remains, and where none remains it stores it for an unlimited time. -/

namespace HieroRelay.Cache

open HieroRelay.Js
open HieroRelay.Lib

/-- `value + amount` -/
def plus (numberToString : Rat → String) (value : Json) (amount : Rat) : Except JsError Json :=
  match value with
  | .null => .ok (.num amount)
  | .bool value => .ok (.num ((if value then 1 else 0) + amount))
  | .num value => .ok (.num (value + amount))
  | value => do return .str ((← toText numberToString value) ++ numberToString amount)

/-- When the time of an entry is past, where it is limited. -/
def expiry (entry : LruEntry Value) : Option Nat := if entry.ttl = 0 then none else some (entry.start + entry.ttl)

section Local
variable {lru : (max : Nat) → LruCache String Value max} {options : LruOptions} {reservedKeys : Finset String}

namespace LocalLRUCache

variable (local_ : LocalLRUCache lru options reservedKeys)

def entryOf (key : String) : Option (LruEntry Value) := (local_.entriesFor key).lookup key

/-- `getRemainingTTL` of `lru-cache`: zero without an entry, and nothing for `Infinity`. -/
def getRemainingTtl (now : Nat) (key : String) : Option Int :=
  match local_.entryOf key with
  | none => some 0
  | some entry => if entry.ttl = 0 then none else some ((entry.start + entry.ttl : Nat) - (now : Int))

variable {local_} {key : String} {entry : LruEntry Value} {now : Nat}

private theorem entryOf_of_get (found : local_.entryOf key = some entry) (readable : entry.isStale now = false) :
    (local_.get now key).1 = some entry.value ∧ (local_.get now key).2.entryOf key = some entry := by
  rw [entryOf, entriesFor] at found
  rw [LocalLRUCache.get]
  cases belongs : local_.reservedFor key with
  | some reserved =>
    rw [belongs] at found
    have own : key ∈ reservedKeys := (Option.ite_none_right_eq_some.mp belongs).1
    obtain ⟨value, kept⟩ := LruOrder.get_of_lookup found readable
    rw [← (lru reservedKeys.card).get_value] at value
    rw [← (lru reservedKeys.card).order_get] at kept
    refine ⟨value, ?_⟩
    simp only [entryOf, entriesFor, reservedFor, if_pos own]
    exact kept
  | none =>
    rw [belongs] at found
    obtain ⟨value, kept⟩ := LruOrder.get_of_lookup found readable
    rw [← (lru options.max).get_value] at value
    rw [← (lru options.max).order_get] at kept
    refine ⟨value, ?_⟩
    rw [reservedFor] at belongs
    simp only [entryOf, entriesFor, reservedFor, belongs]
    exact kept

private theorem entryOf_set (value : Value) (ttl : Option Int) :
    (local_.set now key value ttl).entryOf key = some { value, start := now, ttl := resolvedTtl options ttl } := by
  rw [LocalLRUCache.set]
  cases belongs : local_.reservedFor key with
  | some reserved =>
    have own : key ∈ reservedKeys := (Option.ite_none_right_eq_some.mp belongs).1
    simp only [entryOf, entriesFor, reservedFor, if_pos own]
    rw [(lru reservedKeys.card).order_set]
    exact LruOrder.lookup_set _ _ _ _ _
  | none =>
    rw [reservedFor] at belongs
    simp only [entryOf, entriesFor, reservedFor, belongs]
    rw [(lru options.max).order_set]
    exact LruOrder.lookup_set _ _ _ _ _

end LocalLRUCache

end Local

variable {lru : (max : Nat) → LruCache String Json max} {options : LruOptions}

namespace CacheService

/-- A remaining time that is infinite is an unlimited one. -/
def setRemaining (service : CacheService lru options) (now : Nat) (key : String) (value : Json)
    (remainingTtl : Option Int) : CacheService lru options :=
  service.set now key value (some (remainingTtl.getD 0))

def incrBy (numberToString : Rat → String) (service : CacheService lru options) (now : Nat) (key : String)
    (amount : Rat) : Except JsError Json × CacheService lru options :=
  let (value, service) := service.getAsync now key
  match plus numberToString (value.getD .null) amount with
  | .error error => (.error error, service)
  | .ok newValue =>
      (.ok newValue, service.setRemaining now key newValue (service.internalCache.getRemainingTtl now key))

def rPush (service : CacheService lru options) (now : Nat) (key : String) (value : Json) :
    Except JsError Nat × CacheService lru options :=
  let (values, service) := service.getAsync now key
  match values.getD .null with
  | .null => (.ok 1, service.setRemaining now key (.arr [value]) (service.internalCache.getRemainingTtl now key))
  | .arr items =>
      (.ok (items.length + 1),
        service.setRemaining now key (.arr (items ++ [value])) (service.internalCache.getRemainingTtl now key))
  | _ => (.error (.error s!"Value at key {key} is not an array"), service)

def entryOf (service : CacheService lru options) (key : String) : Option (LruEntry Json) :=
  service.internalCache.entryOf key

def expiryOf (service : CacheService lru options) (key : String) : Option Nat := (service.entryOf key).bind expiry

variable {service : CacheService lru options} {key : String} {entry : LruEntry Json} {now : Nat}

theorem getAsync_of_entry (found : service.entryOf key = some entry) (readable : entry.isStale now = false) :
    ∃ read : CacheService lru options, service.getAsync now key = (some entry.value, read) ∧
      read.entryOf key = some entry := by
  obtain ⟨value, kept⟩ := LocalLRUCache.entryOf_of_get found readable
  exact ⟨(service.getAsync now key).2, Prod.ext value rfl, kept⟩

theorem expiryOf_of_entry (found : service.entryOf key = some entry) : service.expiryOf key = expiry entry := by
  rw [expiryOf, found]
  rfl

/-- An entry that is stored anew for its remaining time. -/
theorem expiryOf_setRemaining (found : service.entryOf key = some entry) (finite : entry.ttl ≠ 0)
    (value : Json) :
    (service.setRemaining now key value (service.internalCache.getRemainingTtl now key)).expiryOf key = expiry entry ↔
      now < entry.start + entry.ttl := by
  have stored : (service.setRemaining now key value (service.internalCache.getRemainingTtl now key)).entryOf key =
      some { value, start := now, ttl := ((entry.start + entry.ttl : Nat) - (now : Int)).toNat } := by
    have remaining : service.internalCache.getRemainingTtl now key =
        some ((entry.start + entry.ttl : Nat) - (now : Int)) := by
      have entryOf : service.internalCache.entryOf key = some entry := found
      rw [LocalLRUCache.getRemainingTtl, entryOf]
      exact if_neg finite
    rw [remaining]
    exact LocalLRUCache.entryOf_set value _
  rw [expiryOf, stored, Option.bind_some, expiry, expiry, if_neg finite]
  dsimp only
  split
  · next past => simp; omega
  · next left => simp; omega

section Updates
variable (numberToString : Rat → String)

private theorem plus_eq_error_iff {value : Json} (amount : Rat) :
    (∃ error, plus numberToString value amount = .error error) ↔ ∃ error, toText numberToString value = .error error := by
  cases value with
  | arr items =>
    change (∃ error, (toText numberToString (.arr items) >>= fun text => _) = .error error) ↔ _
    cases toText numberToString (.arr items) <;> simp
  | obj fields =>
    change (∃ error, (toText numberToString (.obj fields) >>= fun text => _) = .error error) ↔ _
    cases toText numberToString (.obj fields) <;> simp
  | _ => simp [plus, toText]

/-- An update leaves the entry as it is where it throws. -/
theorem incrBy_keeps_iff {amount : Rat} (found : service.entryOf key = some entry) (finite : entry.ttl ≠ 0)
    (readable : entry.isStale now = false) :
    (service.incrBy numberToString now key amount).2.expiryOf key = expiry entry ↔
      now < entry.start + entry.ttl ∨ ∃ error, toText numberToString entry.value = .error error := by
  obtain ⟨read, same, kept⟩ := getAsync_of_entry found readable
  rw [incrBy, same, ← plus_eq_error_iff numberToString amount]
  dsimp only [Option.getD_some]
  cases summed : plus numberToString entry.value amount with
  | error error => exact iff_of_true (expiryOf_of_entry kept) (.inr ⟨error, rfl⟩)
  | ok newValue =>
    rw [or_iff_left nofun]
    exact expiryOf_setRemaining kept finite newValue

theorem rPush_keeps_iff {value : Json} (found : service.entryOf key = some entry) (finite : entry.ttl ≠ 0)
    (readable : entry.isStale now = false) :
    (service.rPush now key value).2.expiryOf key = expiry entry ↔
      now < entry.start + entry.ttl ∨ entry.value ≠ .null ∧ ∀ items, entry.value ≠ .arr items := by
  obtain ⟨read, same, kept⟩ := getAsync_of_entry found readable
  rw [rPush, same]
  dsimp only [Option.getD_some]
  cases held : entry.value with
  | null =>
    rw [or_iff_left fun other => other.1 rfl]
    exact expiryOf_setRemaining kept finite _
  | arr items =>
    rw [or_iff_left fun other => other.2 items rfl]
    exact expiryOf_setRemaining kept finite _
  | _ => exact iff_of_true (expiryOf_of_entry kept) (.inr ⟨nofun, nofun⟩)

inductive Update where
  | incrBy (amount : Rat)
  | rPush (value : Json)

/-- An update at a time. -/
def update (service : CacheService lru options) (key : String) : Nat × Update → CacheService lru options
  | (now, .incrBy amount) => (service.incrBy numberToString now key amount).2
  | (now, .rPush value) => (service.rPush now key value).2

private theorem update_keeps {instant : Nat} {step : Nat × Update} (limited : service.expiryOf key = some instant)
    (before : step.1 < instant) : (service.update numberToString key step).expiryOf key = some instant := by
  obtain ⟨entry, found, past⟩ := Option.bind_eq_some_iff.mp limited
  obtain ⟨finite, same⟩ := Option.ite_none_left_eq_some.mp past
  obtain rfl := Option.some.inj same
  have readable : entry.isStale step.1 = false := by
    simp [LruEntry.isStale]
    omega
  rw [← past]
  obtain ⟨now, change⟩ := step
  cases change with
  | incrBy amount => exact (incrBy_keeps_iff numberToString found finite readable).mpr (.inl before)
  | rPush value => exact (rPush_keeps_iff found finite readable).mpr (.inl before)

/-- Over a run of updates before its end the time of an entry is neither extended nor cut. -/
theorem updates_keep {instant : Nat} {steps : List (Nat × Update)} (limited : service.expiryOf key = some instant)
    (before : ∀ step ∈ steps, step.1 < instant) :
    (steps.foldl (fun service step => service.update numberToString key step) service).expiryOf key = some instant := by
  induction steps generalizing service with
  | nil => exact limited
  | cons step rest ih =>
    rw [List.forall_mem_cons] at before
    exact ih (update_keeps numberToString limited before.1) before.2

/-- The entry keeps the end of its time while some of it is left; at the very end of it an update
that does not throw makes it permanent. -/
theorem updates_keep_expiry_iff (service : CacheService lru options) (now : Nat) (key : String) (entry : LruEntry Json)
    (found : service.entryOf key = some entry) (finite : entry.ttl ≠ 0) (readable : entry.isStale now = false) :
    (∀ amount, (service.incrBy numberToString now key amount).2.expiryOf key = expiry entry ↔
      now < entry.start + entry.ttl ∨ ∃ error, toText numberToString entry.value = .error error) ∧
    ∀ value, (service.rPush now key value).2.expiryOf key = expiry entry ↔
      now < entry.start + entry.ttl ∨ entry.value ≠ .null ∧ ∀ items, entry.value ≠ .arr items := by
  constructor
  · intro amount
    exact incrBy_keeps_iff numberToString found finite readable
  · intro value
    exact rPush_keeps_iff found finite readable

/-- A counter of the internal cache, stored for ten milliseconds. -/
def exampleCounter : CacheService (LruCache.ofOrder String Json) { max := 1000, ttl := 3600000 } :=
  (CacheService.new ∅).set 0 "amountSpent" (.num 5) (some 10)

theorem exampleCounter_kept : (exampleCounter.incrBy (fun _ => "5") 9 "amountSpent" 1).2.expiryOf "amountSpent" = some 10 :=
  ((updates_keep_expiry_iff (fun _ => "5") exampleCounter 9 "amountSpent" { value := .num 5, start := 0, ttl := 10 }
    rfl (by decide) rfl).1 1).mpr (.inl (by decide))

theorem exampleCounter_permanent :
    ¬ ∀ (service : CacheService (LruCache.ofOrder String Json) { max := 1000, ttl := 3600000 }) (now : Nat)
      (key : String) (entry : LruEntry Json), service.entryOf key = some entry → entry.ttl ≠ 0 →
      entry.isStale now = false → ∀ amount,
        (service.incrBy (fun _ => "5") now key amount).2.expiryOf key = expiry entry := by
  intro keeps
  have kept := keeps exampleCounter 10 "amountSpent" { value := .num 5, start := 0, ttl := 10 } rfl (by decide) rfl 1
  have permanent : (exampleCounter.incrBy (fun _ => "5") 10 "amountSpent" 1).2.expiryOf "amountSpent" = none := rfl
  rw [permanent] at kept
  cases kept

end Updates

end CacheService

end HieroRelay.Cache
