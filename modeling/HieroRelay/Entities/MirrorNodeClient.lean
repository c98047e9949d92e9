import HieroRelay.Blocks.CommonService
import HieroRelay.Lib.Prog

/-! `resolveEntityType` as a program over the shared cache and the requests to the mirror
node. A path names a request; the mirror node answers it with JSON, or it fails. -/

namespace HieroRelay.Entities

open HieroRelay.Lib
open HieroRelay.Js (Json truthy)
open HieroRelay.Blocks (EntityType)

abbrev MirrorData := String → Option Json

/-- A call; the name of the caller and the retries have no part in the answer. -/
structure ResolveCall where
  entityIdentifier : String
  searchableTypes : List EntityType
  timestamp : Option String
  deriving Repr, DecidableEq

structure ResolvedEntity where
  type : EntityType
  entity : Json
  deriving Repr, DecidableEq

/-- The operations; `any` settles with the first of its promises that fulfils, where a
promise without a path is rejected. -/
inductive ResolveOp where
  | getAsync (cachedLabel : String)
  | set (cachedLabel : String) (response : ResolvedEntity)
  | get (path : String)
  | any (promises : List (Option String))
  deriving Repr, DecidableEq

abbrev ResolveOp.Answer : ResolveOp → Type
  | .getAsync _ => Option ResolvedEntity
  | .set _ _ => Unit
  | .get _ => Option Json
  | .any _ => Option (Json × Nat)

abbrev Resolving (Result : Type) := Prog ResolveOp ResolveOp.Answer Result

def await (op : ResolveOp) : Resolving op.Answer := Prog.op op

namespace MirrorNodeClient

/-- The object of `Mirror.Query`, as far as its values are texts. -/
abbrev QueryParams := List (String × String)

/-- A parameter that is there already is repeated in its value. -/
def setQueryParam (params : QueryParams) (key : String) : Option String → QueryParams
  | none | some "" => params
  | some value =>
      if params.any (·.1 = key) then
        params.map fun (other, held) => if other = key then (other, s!"{held}&{key}={value}") else (other, held)
      else params ++ [(key, value)]

def getQueryParams (params : QueryParams) : String :=
  params.foldl (fun text (key, value) => if text = "" then s!"?{key}={value}" else s!"{text}&{key}={value}") ""

def contractPath (contractIdOrAddress : String) (timestamp : Option String) : String :=
  let queryParams := getQueryParams (setQueryParam [] "timestamp" timestamp)
  s!"contracts/{contractIdOrAddress}{queryParams}"

def accountPath (idOrAliasOrEvmAddress : String) (timestamp : Option String) : String :=
  let queryParams := getQueryParams (setQueryParam (setQueryParam [] "timestamp" timestamp) "transactions" (some "false"))
  s!"accounts/{idOrAliasOrEvmAddress}{queryParams}"

def tokenPath (tokenId : String) : String := s!"tokens/{tokenId}"

/-- The label leaves the searchable types out. -/
def cachedLabel (entityIdentifier : String) (timestamp : Option String) : String :=
  let suffix := match timestamp with
    | none | some "" => ""
    | some timestamp => s!"_{timestamp}"
  s!"resolveEntityType_{entityIdentifier}{suffix}"

/-- A request that fails counts as one answered with null. -/
def orNull (answer : Option Json) : Json := answer.getD .null

/-- The type by the index of the promise. -/
def typeAt : Nat → EntityType
  | 0 => .ACCOUNT
  | _ => .TOKEN

def cacheResponse (label : String) (response : ResolvedEntity) : Resolving (Option ResolvedEntity) := do
  await (.set label response)
  return some response

/-- The account and the token, each only if it is searched for. -/
def racing (call : ResolveCall) : List (Option String) :=
  [if .ACCOUNT ∈ call.searchableTypes then some (accountPath call.entityIdentifier call.timestamp) else none,
    if .TOKEN ∈ call.searchableTypes then some (tokenPath (Blocks.MirrorNodeClient.toEntityId call.entityIdentifier))
    else none]

def resolveAccountOrToken (call : ResolveCall) : Resolving (Option ResolvedEntity) := do
  match ← await (.any (racing call)) with
  | none => return none
  | some (value, index) =>
      cacheResponse (cachedLabel call.entityIdentifier call.timestamp) { type := typeAt index, entity := value }

def resolveEntityType (call : ResolveCall) : Resolving (Option ResolvedEntity) := do
  let label := cachedLabel call.entityIdentifier call.timestamp
  match ← await (.getAsync label) with
  | some cachedResponse => return some cachedResponse
  | none =>
      if .CONTRACT ∈ call.searchableTypes then
        let contract := orNull (← await (.get (contractPath call.entityIdentifier call.timestamp)))
        if truthy (some contract) then cacheResponse label { type := .CONTRACT, entity := contract }
        else resolveAccountOrToken call
      else resolveAccountOrToken call

def defaultSearchableTypes : List EntityType := [.CONTRACT, .ACCOUNT, .TOKEN]

end MirrorNodeClient

/-- The lookup of `eth_getCode`. -/
def ContractService.getCodeLookup (address : String) : ResolveCall where
  entityIdentifier := address
  searchableTypes := [.CONTRACT, .TOKEN]
  timestamp := none

/-- The lookup for the sender of a transaction. -/
def CommonService.senderLookup (address : String) : ResolveCall where
  entityIdentifier := address
  searchableTypes := [.ACCOUNT]
  timestamp := none

namespace MirrorData

variable (data : MirrorData)

/-- What a promise fulfils with. -/
def fulfils (promise : Option String) : Option Json :=
  match promise.map fun path => MirrorNodeClient.orNull (data path) with
  | none | some .null => none
  | some value => some value

/-- The promise that settles first wins if it fulfils. -/
def any (promises : List (Option String)) (first : Nat) : Option (Json × Nat) :=
  let settled (index : Nat) := (promises[index]?.bind data.fulfils).map (·, index)
  (settled first).or ((List.range promises.length).findSome? settled)

/-- The answers when nothing is cached. -/
def uncached (first : Nat) : (op : ResolveOp) → op.Answer
  | .getAsync _ => none
  | .set _ _ => ()
  | .get path => data path
  | .any promises => data.any promises first

/-- An uncached evaluation of the call can give the response. -/
def Could (call : ResolveCall) (response : Option ResolvedEntity) : Prop :=
  ∃ first, (MirrorNodeClient.resolveEntityType call).answeredBy (data.uncached first) = response

end MirrorData

/-- A response in the cache, with the call that left it there. -/
structure CacheEntry where
  call : ResolveCall
  response : ResolvedEntity

abbrev EntityCache := String → Option CacheEntry

structure ResolveRequest where
  call : ResolveCall
  program : Resolving (Option ResolvedEntity)

structure ResolveAnswer where
  call : ResolveCall
  response : Option ResolvedEntity

/-- The cache and the calls that share it. -/
structure Resolver where
  cache : EntityCache
  requests : List ResolveRequest
  answers : List ResolveAnswer

/-- What an operation sees: the cache, and which promise of a race settles first. -/
structure ResolveView where
  cache : EntityCache
  first : Nat

inductive ResolveLabel where
  | call (call : ResolveCall)
  | operate (position first : Nat)
  | answer (position : Nat)
  | expire (cachedLabel : String)

namespace Resolver

variable (data : MirrorData)

def answer (view : ResolveView) : (op : ResolveOp) → op.Answer
  | .getAsync label => (view.cache label).map CacheEntry.response
  | .set _ _ => ()
  | .get path => data path
  | .any promises => data.any promises view.first

def record (call : ResolveCall) (view : ResolveView) : ResolveOp → ResolveView
  | .set label response => { view with cache := Function.update view.cache label (some { call, response }) }
  | _ => view

def serve (resolver : Resolver) : ResolveLabel → Option Resolver
  | .call call =>
      some { resolver with
        requests := resolver.requests ++ [{ call, program := MirrorNodeClient.resolveEntityType call }] }
  | .operate position first =>
      match resolver.requests[position]? with
      | some { call, program := .call op next } =>
          let view : ResolveView := { cache := resolver.cache, first }
          some { resolver with
            cache := (record call view op).cache
            requests := resolver.requests.set position { call, program := next (answer data view op) } }
      | _ => none
  | .answer position =>
      match resolver.requests[position]? with
      | some { call, program := .done response } =>
          some { resolver with
            requests := resolver.requests.eraseIdx position
            answers := resolver.answers ++ [{ call, response }] }
      | _ => none
  | .expire label => some { resolver with cache := Function.update resolver.cache label none }

def initial : Resolver where
  cache := fun _ => none
  requests := []
  answers := []

/-- Every answer has a type that was asked for, and is one without the cache. -/
def Respects (resolver : Resolver) : Prop :=
  ∀ answer ∈ resolver.answers,
    (∀ response, answer.response = some response → response.type ∈ answer.call.searchableTypes) ∧
      data.Could answer.call answer.response

end Resolver

end HieroRelay.Entities
