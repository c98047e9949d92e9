import HieroRelay.Lib.Table

/-! The rate limit store in memory. The table of the methods of an IP address is a plain
object, so that a method name also finds what every object inherits. -/

namespace HieroRelay.RateLimits

open HieroRelay.Lib

structure RateLimitKey where
  ip : String
  method : String
  deriving Repr, DecidableEq

structure MethodDatabase where
  methodName : String
  remaining : Nat
  total : Nat
  deriving Repr, DecidableEq

structure DatabaseEntry where
  reset : Nat
  methodInfo : Table String MethodDatabase

structure LruRateLimitStore where
  database : Table String DatabaseEntry
  duration : Nat

/-- The two properties of a built-in object that the store may give it. -/
structure Counters where
  remaining : Option Nat := none
  total : Option Nat := none
  deriving Repr, DecidableEq

/-- The properties of the prototype of plain objects; `__proto__` is this prototype. -/
def inheritedNames : List String :=
  ["constructor", "__defineGetter__", "__defineSetter__", "hasOwnProperty", "__lookupGetter__", "__lookupSetter__",
    "isPrototypeOf", "propertyIsEnumerable", "toString", "valueOf", "__proto__", "toLocaleString"]

/-- The built-in objects, by the names under which they are inherited. -/
abbrev Builtins := String → Counters

def pristine : Builtins := fun _ => {}

/-- The store and the objects outside of it that it can reach. -/
structure Realm where
  store : LruRateLimitStore
  builtins : Builtins

/-- A `TypeError`, with what was done before it. -/
structure TypeError where
  realm : Realm

inductive CounterField where
  | remaining
  | total
  deriving Repr, DecidableEq

def MethodDatabase.set (info : MethodDatabase) (value : Nat) : CounterField → MethodDatabase
  | .remaining => { info with remaining := value }
  | .total => { info with total := value }

def Counters.set (counters : Counters) (value : Nat) : CounterField → Counters
  | .remaining => { counters with remaining := some value }
  | .total => { counters with total := some value }

/-- What a name finds in the table of an IP address: a number is there when the prototype
was given one. -/
inductive Found where
  | own (info : MethodDatabase)
  | builtin (name : String)
  | number (value : Nat)

def LruRateLimitStore.new (duration : Nat) : LruRateLimitStore := { database := .empty, duration }

namespace Realm

variable (realm : Realm)

def prototype : Counters := realm.builtins "__proto__"

/-- `this.database[ip]`, which `precheck` has created. -/
def entryOf (ip : String) : DatabaseEntry := (realm.store.database.get ip).getD { reset := 0, methodInfo := .empty }

def setEntry (ip : String) (entry : DatabaseEntry) : Realm :=
  { realm with store := { realm.store with database := realm.store.database.assign ip entry } }

/-- `this.database[ip].methodInfo[name]` -/
def find (ip name : String) : Option Found :=
  match (realm.entryOf ip).methodInfo.get name with
  | some info => some (.own info)
  | none =>
      if name ∈ inheritedNames then some (.builtin name)
      else if name = "remaining" then realm.prototype.remaining.map .number
      else if name = "total" then realm.prototype.total.map .number
      else none

/-- The property `remaining`; a function and a number inherit the one of the prototype. -/
def remainingOf : Found → Option Nat
  | .own info => some info.remaining
  | .builtin name => (realm.builtins name).remaining.or realm.prototype.remaining
  | .number _ => realm.prototype.remaining

/-- `this.database[ip].methodInfo[name].field = value`; a number takes no property. -/
def setField (ip name : String) (field : CounterField) (value : Nat) : Except TypeError Realm :=
  match realm.find ip name with
  | some (.own info) =>
      let entry := realm.entryOf ip
      .ok (realm.setEntry ip { entry with methodInfo := entry.methodInfo.assign name (info.set value field) })
  | some (.builtin builtin) =>
      .ok { realm with
        builtins := Function.update realm.builtins builtin ((realm.builtins builtin).set value field) }
  | some (.number _) | none => .error { realm }

def checkIpExist (ip : String) : Bool := (realm.store.database.get ip).isSome

def checkMethodExist (ip method : String) : Bool := (realm.find ip method).isSome

def setNewIp (ip : String) (now : Nat) : Realm :=
  realm.setEntry ip { reset := now + realm.store.duration, methodInfo := .empty }

def setNewMethod (ip methodName : String) (total : Nat) : Realm :=
  let entry := realm.entryOf ip
  realm.setEntry ip { entry with
    methodInfo := entry.methodInfo.assign methodName { methodName, remaining := total, total } }

def withIp (ip : String) (now : Nat) : Realm := if realm.checkIpExist ip then realm else realm.setNewIp ip now

def withMethod (ip methodName : String) (total : Nat) : Realm :=
  if realm.checkMethodExist ip methodName then realm else realm.setNewMethod ip methodName total

def precheck (ip methodName : String) (total now : Nat) : Realm := (realm.withIp ip now).withMethod ip methodName total

/-- `undefined > 0` is false. -/
def isPositive (value : Option Nat) : Bool := value.any fun value => value > 0

def checkRemaining (ip methodName : String) : Bool :=
  isPositive ((realm.find ip methodName).bind realm.remainingOf)

def shouldReset (ip : String) (now : Nat) : Bool := (realm.entryOf ip).reset < now

/-- The window of the address begins anew, for all its methods. -/
def restart (ip : String) (now : Nat) : Realm :=
  realm.setEntry ip {
    reset := now + realm.store.duration
    methodInfo := (realm.entryOf ip).methodInfo.mapValues fun info => { info with remaining := info.total } }

def reset (ip methodName : String) (total now : Nat) : Except TypeError Realm := do
  let realm ← (realm.restart ip now).setField ip methodName .remaining total
  realm.setField ip methodName .total total

def decreaseRemaining (ip methodName : String) : Except TypeError Realm :=
  let currentRemaining := (realm.find ip methodName).bind realm.remainingOf
  realm.setField ip methodName .remaining (if isPositive currentRemaining then currentRemaining.getD 0 - 1 else 0)

/-- Whether the limit is exceeded. -/
def incrementAndCheck (key : RateLimitKey) (limit now : Nat) : Except TypeError (Bool × Realm) :=
  let realm := realm.precheck key.ip key.method limit now
  if !realm.shouldReset key.ip now then
    if realm.checkRemaining key.ip key.method then do
      let realm ← realm.decreaseRemaining key.ip key.method
      return (false, realm)
    else .ok (true, realm)
  else do
    let realm ← realm.reset key.ip key.method limit now
    let realm ← realm.decreaseRemaining key.ip key.method
    return (false, realm)

end Realm

/-- A request with its time; the latest comes first in a history. -/
structure RateRequest where
  key : RateLimitKey
  now : Nat
  deriving Repr, DecidableEq

section Histories

variable (duration : Nat) (limits : String → Nat)

/-- What an answer leaves behind. -/
def realmAfter : Except TypeError (Bool × Realm) → Realm
  | .ok (_, realm) => realm
  | .error thrown => thrown.realm

/-- The store after a history, in a realm that nothing else changes. -/
def lruAfter : List RateRequest → Realm
  | [] => { store := .new duration, builtins := pristine }
  | request :: earlier =>
      realmAfter ((lruAfter earlier).incrementAndCheck request.key (limits request.key.method) request.now)

/-- Whether the request is rejected; an error is no answer. -/
def lruExceeded (earlier : List RateRequest) (request : RateRequest) : Option Bool :=
  match (lruAfter duration limits earlier).incrementAndCheck request.key (limits request.key.method) request.now with
  | .ok (exceeded, _) => some exceeded
  | .error _ => none

end Histories

end HieroRelay.RateLimits
