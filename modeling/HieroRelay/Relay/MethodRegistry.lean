import HieroRelay.Lib.Outcome
import HieroRelay.Lib.Search
import HieroRelay.Relay.EthMethods
import Mathlib.Data.List.Nodup

/-! The methods that a request can name: the decorated functions of the service objects, under the
namespace of their object, and the dispatcher over them. -/

namespace HieroRelay.Relay

open HieroRelay.Js
open HieroRelay.Lib (append_separator_inj)

/-- A registered function, bound to its object: what its decorators say and what it does. -/
structure OperationHandler where
  signature : CachedMethod
  execute : List HandlerArg → Except HandlerError JsValue

/-- An own property of a prototype: a function or another value, decorated with `@rpcMethod` or not. -/
structure PrototypeMember where
  operationName : String
  isFunction : Bool
  decorated : Bool
  operationFunction : OperationHandler

structure RpcNamespace where
  name : String
  members : List PrototypeMember

/-- The map, with its entries in the order in which they were set. -/
abbrev RpcMethodRegistry := List (String × OperationHandler)

/-- The entry that was set last. -/
def RpcMethodRegistry.get (registry : RpcMethodRegistry) (rpcMethodName : String) : Option OperationHandler :=
  List.lookup rpcMethodName (List.reverse registry)

def rpcMethodName (namespaceName operationName : String) : String := namespaceName ++ "_" ++ operationName

def PrototypeMember.isRegistered (operation : PrototypeMember) : Bool :=
  operation.operationName != "constructor" && operation.isFunction && operation.decorated

def registerRpcMethods (namespaces : List RpcNamespace) : RpcMethodRegistry :=
  namespaces.flatMap fun service =>
    (service.members.filter PrototypeMember.isRegistered).map fun operation =>
      (rpcMethodName service.name operation.operationName, operation.operationFunction)

namespace predefined

def METHOD_NOT_FOUND (methodName : String) : JsonRpcError :=
  { code := -32601, message := s!"Method {methodName} not found" }

def NOT_YET_IMPLEMENTED : JsonRpcError := { code := -32601, message := "Not yet implemented" }

end predefined

/-- The error for a name without handler, by its namespace. -/
def throwUnregisteredRpcMethods (methodName : String) : JsonRpcError :=
  if "engine_".toList.isPrefixOf methodName.toList then predefined.UNSUPPORTED_METHOD
  else if "trace_".toList.isPrefixOf methodName.toList || "debug_".toList.isPrefixOf methodName.toList then
    predefined.NOT_YET_IMPLEMENTED
  else predefined.METHOD_NOT_FOUND methodName

namespace RpcMethodRegistry

variable (numberToString : Rat → String) (registry : RpcMethodRegistry)

/-- The handler of the name, and the parameters as their validation leaves them. -/
def precheck (rpcMethodName : String) (rpcMethodParams : List Json) :
    Except HandlerError (OperationHandler × List Json) :=
  match registry.get rpcMethodName with
  | none => .error (.jsonRpc (throwUnregisteredRpcMethods rpcMethodName))
  | some operationHandler => do
      let validated ← precheckRpcMethod numberToString operationHandler.signature rpcMethodParams
      return (operationHandler, validated)

/-- `dispatch` with its three phases. -/
def executeRpcMethod (rpcMethodName : String) (rpcMethodParams : List Json) (requestDetails : RequestDetails) :
    Report :=
  dispatch
    (do
      let (operationHandler, validated) ← registry.precheck numberToString rpcMethodName rpcMethodParams
      operationHandler.execute (arrangeRpcParams numberToString operationHandler.signature validated requestDetails))
    requestDetails.requestId

end RpcMethodRegistry

/-- The names of the namespaces tell them apart and hold no underscore, and an object has one property
of a name. -/
structure DistinctNames (namespaces : List RpcNamespace) : Prop where
  separated : ∀ service ∈ namespaces, '_' ∉ service.name.toList
  names : (namespaces.map RpcNamespace.name).Nodup
  operations : ∀ service ∈ namespaces, (service.members.map PrototypeMember.operationName).Nodup

section Names
variable {first second operation other : String}

private theorem rpcMethodName_inj (separated : '_' ∉ first.toList) (otherSeparated : '_' ∉ second.toList)
    (same : rpcMethodName first operation = rpcMethodName second other) : first = second ∧ operation = other := by
  have written : first.toList ++ '_' :: operation.toList = second.toList ++ '_' :: other.toList := by
    have texts := congrArg String.toList same
    simpa [rpcMethodName, String.toList_append] using texts
  obtain ⟨names, operations⟩ := append_separator_inj separated otherSeparated written
  exact ⟨String.toList_inj.mp names, String.toList_inj.mp operations⟩

end Names

theorem mem_registerRpcMethods {namespaces : List RpcNamespace} {entry : String × OperationHandler} :
    entry ∈ registerRpcMethods namespaces ↔ ∃ service ∈ namespaces, ∃ operation ∈ service.members,
      operation.isRegistered = true ∧
        entry = (rpcMethodName service.name operation.operationName, operation.operationFunction) := by
  unfold registerRpcMethods
  constructor
  · intro listed
    obtain ⟨service, member, inside⟩ := List.mem_flatMap.mp listed
    obtain ⟨operation, kept, rfl⟩ := List.mem_map.mp inside
    obtain ⟨own, registered⟩ := List.mem_filter.mp kept
    exact ⟨service, member, operation, own, registered, rfl⟩
  · intro entered
    obtain ⟨service, member, operation, own, registered, rfl⟩ := entered
    exact List.mem_flatMap.mpr
      ⟨service, member, List.mem_map.mpr ⟨operation, List.mem_filter.mpr ⟨own, registered⟩, rfl⟩⟩

section Lookup
variable {α β : Type} [BEq α] [LawfulBEq α] {key : α} {value : β} {entries : List (α × β)}

theorem mem_of_lookup_eq_some (found : entries.lookup key = some value) : (key, value) ∈ entries := by
  obtain ⟨before, after, rfl, -⟩ := List.lookup_eq_some_iff.mp found
  exact List.mem_append_right before List.mem_cons_self

/-- Where the key has one value, the lookup finds it. -/
theorem lookup_eq_some_of_mem (listed : (key, value) ∈ entries)
    (sole : ∀ other, (key, other) ∈ entries → other = value) : entries.lookup key = some value := by
  cases found : entries.lookup key with
  | some other => rw [sole other (mem_of_lookup_eq_some found)]
  | none =>
    have absent := List.lookup_eq_none_iff.mp found (key, value) listed
    simp at absent

end Lookup

variable {namespaces : List RpcNamespace}

/-- A request names a decorated function of a service object, or nothing. -/
theorem get_registerRpcMethods_iff (distinct : DistinctNames namespaces) {name : String} {handler : OperationHandler} :
    (registerRpcMethods namespaces).get name = some handler ↔ ∃ service ∈ namespaces, ∃ operation ∈ service.members,
      operation.isRegistered = true ∧ name = rpcMethodName service.name operation.operationName ∧
        handler = operation.operationFunction := by
  constructor
  · intro found
    obtain ⟨service, member, operation, own, registered, entered⟩ :=
      mem_registerRpcMethods.mp (List.mem_reverse.mp (mem_of_lookup_eq_some found))
    obtain ⟨rfl, rfl⟩ := Prod.mk.inj entered
    exact ⟨service, member, operation, own, registered, rfl, rfl⟩
  · intro entered
    obtain ⟨service, member, operation, own, registered, rfl, rfl⟩ := entered
    apply lookup_eq_some_of_mem
    · exact List.mem_reverse.mpr (mem_registerRpcMethods.mpr ⟨service, member, operation, own, registered, rfl⟩)
    · intro other listed
      obtain ⟨second, secondMember, clash, clashOwn, -, entered⟩ :=
        mem_registerRpcMethods.mp (List.mem_reverse.mp listed)
      obtain ⟨sameName, rfl⟩ := Prod.mk.inj entered
      obtain ⟨sameService, sameOperation⟩ :=
        rpcMethodName_inj (distinct.separated service member) (distinct.separated second secondMember) sameName
      obtain rfl := List.inj_on_of_nodup_map distinct.names member secondMember sameService
      obtain rfl := List.inj_on_of_nodup_map (distinct.operations service member) own clashOwn sameOperation
      rfl

end HieroRelay.Relay
