import HieroRelay.Relay.Dispatcher
import Mathlib.Logic.Function.Basic

/-! The decorator `@cache`: a cached response is returned, otherwise the handler runs
and a truthy result is stored unless a rule on the arguments says no. -/

namespace HieroRelay.Relay

open HieroRelay.Js

/-- An argument of a handler. Numbers that are not finite come from a conversion or from a text
with a large exponent; the details of the request come last. -/
inductive HandlerArg where
  | undefined
  | nan
  | infinity
  | negativeInfinity
  | json (value : Json)
  | requestDetails (details : RequestDetails)
  deriving DecidableEq

/-- The values of a rule are those between the bars of its text. -/
structure CacheSingleParam where
  index : Nat
  values : List String

structure CacheNamedParam where
  name : String
  values : List String

structure CacheNamedParams where
  index : Nat
  fields : List CacheNamedParam

structure CacheOptions where
  skipParams : List CacheSingleParam := []
  skipNamedParams : List CacheNamedParams := []
  ttl : Option Nat := none

/-- Some rule names the argument, or its argument is missing. -/
def shouldSkipCachingForSingleParams (args : List HandlerArg) (params : List CacheSingleParam) : Bool :=
  params.any fun item =>
    match args[item.index]? with
    | none => true
    | some .undefined => true
    | some (.json value) => (includesString item.values (some value)).isSome
    | some _ => false

/-- Reading a field of an argument that is `undefined` or `null` throws. -/
def fieldOf (arg : Option HandlerArg) (name : String) : Except HandlerError (Option Json) :=
  match arg with
  | some (.json .null) => .error (.other s!"Cannot read properties of null (reading '{name}')" [])
  | some (.json value) => .ok (ownField value name)
  | some .nan | some .infinity | some .negativeInfinity | some (.requestDetails _) => .ok none
  | _ => .error (.other s!"Cannot read properties of undefined (reading '{name}')" [])

/-- Some rule names a field of its argument. -/
def shouldSkipCachingForNamedParams (args : List HandlerArg) :
    List CacheNamedParams → Except HandlerError Bool
  | [] => .ok false
  | params :: rest => do
      if ← anyFieldNamed params.fields args[params.index]? then return true
      shouldSkipCachingForNamedParams args rest
where
  anyFieldNamed : List CacheNamedParam → Option HandlerArg → Except HandlerError Bool
    | [], _ => .ok false
    | field :: rest, input => do
        if (includesString field.values (← fieldOf input field.name)).isSome then return true
        anyFieldNamed rest input

/-- The parts of a cache key; in the text of the source they are joined by underscores. -/
structure CacheKey where
  methodName : String
  args : List HandlerArg
  deriving DecidableEq

def HandlerArg.isRequestDetails : HandlerArg → Bool
  | .requestDetails _ => true
  | _ => false

/-- The details of the request are not part of the key. -/
def generateCacheKey (methodName : String) (args : List HandlerArg) : CacheKey where
  methodName
  args := args.filter fun arg => !arg.isRequestDetails

inductive Backend where
  | local
  | redis
  deriving Repr, DecidableEq

/-- A value read back from the cache: the local cache holds the value itself, Redis its
JSON text, which `JSON.parse` turns into a plain value. -/
def Backend.readBack : Backend → JsValue → JsValue
  | .local, value => value
  | .redis, value =>
      match value.jsonText with
      | some json => .json json
      | none => .undefined

/-- The values that `getAsync` finds, by key. -/
abbrev CacheStore := CacheKey → Option JsValue

/-- `getAsync`, when its answer is one that the decorator returns. -/
def CacheStore.cachedResponse (store : CacheStore) (key : CacheKey) : Option JsValue :=
  (store key).filter JsValue.truthy

/-- After the handler: its outcome, and whether the result is to be stored. -/
def shouldStore (options : CacheOptions) (args : List HandlerArg) (result : JsValue) :
    Except HandlerError Bool := do
  if !result.truthy || shouldSkipCachingForSingleParams args options.skipParams then return false
  return !(← shouldSkipCachingForNamedParams args options.skipNamedParams)

/-- A call of a decorated method. `outcome` is what the handler would return or throw. -/
def cachedCall (backend : Backend) (options : CacheOptions) (methodName : String) (args : List HandlerArg)
    (outcome : Except HandlerError JsValue) (store : CacheStore) : Except HandlerError JsValue × CacheStore :=
  let key := generateCacheKey methodName args
  match store.cachedResponse key with
  | some cached => (.ok cached, store)
  | none =>
      match outcome with
      | .error error => (.error error, store)
      | .ok result =>
          match shouldStore options args result with
          | .error error => (.error error, store)
          | .ok false => (.ok result, store)
          | .ok true => (.ok result, Function.update store key (some (backend.readBack result)))

end HieroRelay.Relay
