import HieroRelay.Mirror.Pagination
import HieroRelay.Redis.ContractResults

/-! The polling for records that are mature, over any way to fetch them, and the cache of
contract results. A call of the polling is seen as the responses it fetched and how it
ended. -/

namespace HieroRelay.Mirror

open HieroRelay.Lib HieroRelay.Relay
open HieroRelay.Blocks (EMPTY_HEX)
open HieroRelay.Redis (ContractResult JsInteger)

def DEPENDENT_SERVICE_IMMATURE_RECORDS : JsonRpcError :=
  { code := -32015, message := "Dependent service returned immature records" }

structure ContractLog where
  address : String
  block_hash : Redis.Field String
  block_number : Redis.Field JsInteger
  data : String
  index : Redis.Field JsInteger
  timestamp : String
  topics : List String
  transaction_hash : String
  transaction_index : Redis.Field JsInteger
  deriving Repr, DecidableEq

/-- `value == null` -/
def isNullish {Value : Type} : Redis.Field Value → Bool
  | .given _ => false
  | _ => true

def immatureResult (contractObject : ContractResult JsInteger) : Bool :=
  isNullish contractObject.transaction_index || isNullish contractObject.block_number ||
    contractObject.block_hash == .given EMPTY_HEX

def immatureLog (log : ContractLog) : Bool :=
  isNullish log.transaction_index || isNullish log.block_number || isNullish log.index ||
    log.block_hash == .given EMPTY_HEX

/-- What a method for contract results returns: nothing, one result, or a list whose
elements may be null. -/
inductive Fetched where
  | absent
  | single (contractObject : ContractResult JsInteger)
  | list (contractObjects : List (Option (ContractResult JsInteger)))
  deriving Repr, DecidableEq

/-- Nothing is mature, as there is nothing to wait for. -/
def Fetched.mature : Fetched → Bool
  | .absent => true
  | .single contractObject => !immatureResult contractObject
  | .list contractObjects => !contractObjects.any fun contractObject => contractObject.any immatureResult

def matureLogs (logResults : List (Option ContractLog)) : Bool := !logResults.any fun log => log.any immatureLog

namespace MirrorNodeClient

section Polling
variable {Fetch : Type → Type} [Monad Fetch] {Response : Type} (fetch : ExceptT MirrorError Fetch Response)
  (mature : Response → Bool) (retryCount : Nat)

/-- The loop from round `i` on, with the response fetched last. -/
def pollFrom (i : Nat) (response : Response) : ExceptT MirrorError Fetch Response :=
  if i < retryCount then
    if mature response then return response
    else if i = retryCount - 1 then throw (.rpc DEPENDENT_SERVICE_IMMATURE_RECORDS)
    else do pollFrom (i + 1) (← fetch)
  else return response
termination_by retryCount - i

def withRetry : ExceptT MirrorError Fetch Response := do pollFrom fetch mature retryCount 0 (← fetch)

end Polling

section Clients
variable {Fetch : Type → Type} [Monad Fetch]

/-- The method is the one that `methodName` names, with its arguments. -/
def getContractResultWithRetry (retryCount : Nat) (method : ExceptT MirrorError Fetch Fetched) :
    ExceptT MirrorError Fetch Fetched :=
  withRetry method Fetched.mature retryCount

def GET_CONTRACT_RESULT_LOGS_ENDPOINT : String := "contracts/results/logs"

def getContractResultsLogsWithRetry (retryCount pageMax : Nat)
    (get : String → ExceptT MirrorError Fetch (Option (Page (Option ContractLog)))) (queryParams : String) :
    ExceptT MirrorError Fetch (List (Option ContractLog)) :=
  withRetry (getPaginatedResults get (GET_CONTRACT_RESULT_LOGS_ENDPOINT ++ queryParams) [] 1 pageMax) matureLogs retryCount

end Clients

end MirrorNodeClient

inductive RecordOp where
  | getCached (key : String)
  | setCached (key : String) (value : ContractResult JsInteger) (ttl : Nat)
  | get (path : String)

abbrev RecordOp.Answer : RecordOp → Type
  | .getCached _ => Option (ContractResult JsInteger)
  | .setCached _ _ _ => Unit
  | .get _ => Except MirrorError (Option (ContractResult JsInteger))

abbrev Recording (Result : Type) := ExceptT MirrorError (Prog RecordOp RecordOp.Answer) Result

namespace MirrorNodeClient

open HieroRelay.Redis.MirrorNodeClient (cachesResult contractResultKey)

def GET_CONTRACT_RESULT_ENDPOINT : String := "contracts/results/"

def ONE_HOUR : Nat := 3600000

def getContractResult (transactionIdOrHash : String) : Recording Fetched := do
  let cacheKey := contractResultKey transactionIdOrHash
  match ← ExceptT.lift (Prog.op (RecordOp.getCached cacheKey)) with
  | some cachedResponse => return .single cachedResponse
  | none =>
      match ← ExceptT.mk (Prog.op (RecordOp.get (GET_CONTRACT_RESULT_ENDPOINT ++ transactionIdOrHash))) with
      | some response =>
          if cachesResult response then ExceptT.lift (Prog.op (RecordOp.setCached cacheKey response ONE_HOUR))
          return .single response
      | none => return .absent

end MirrorNodeClient

section Calls
variable {Op Response : Type} {Answer : Op → Type} {fetch : ExceptT MirrorError (Prog Op Answer) Response}
  {mature : Response → Bool} {retryCount : Nat}

/-- The transcript is that of fetches with these responses. -/
inductive Fetches (fetch : ExceptT MirrorError (Prog Op Answer) Response) :
    List (Except MirrorError Response) → List (Exchange Op Answer) → Prop where
  | nil : Fetches fetch [] []
  | cons {response : Except MirrorError Response} {responses : List (Except MirrorError Response)}
      {first rest : List (Exchange Op Answer)} (ran : Ran fetch.run first response)
      (later : Fetches fetch responses rest) : Fetches fetch (response :: responses) (first ++ rest)

/-- A response that is there and not mature. -/
def IsImmature (mature : Response → Bool) (fetched : Except MirrorError Response) : Prop :=
  ∃ response, fetched = .ok response ∧ mature response = false

/-- How a call ends: it fetches again after immature responses only, and ends with the last response
where it is mature or failed, else with an error and no attempt left. -/
def EndsAfter (mature : Response → Bool) (attempts : Nat) (responses : List (Except MirrorError Response))
    (outcome : Except MirrorError Response) : Prop :=
  ∃ earlier last, responses = earlier ++ [last] ∧ (∀ response ∈ earlier, IsImmature mature response) ∧
    (outcome = last ∧ (∀ response, last = .ok response → mature response = true) ∨
      outcome = .error (.rpc DEPENDENT_SERVICE_IMMATURE_RECORDS) ∧ responses.length = attempts ∧
        IsImmature mature last)

theorem EndsAfter.cons {attempts : Nat} {responses : List (Except MirrorError Response)} {response : Response}
    {outcome : Except MirrorError Response} (ends : EndsAfter mature attempts responses outcome)
    (immature : mature response = false) :
    EndsAfter mature (attempts + 1) (.ok response :: responses) outcome := by
  obtain ⟨earlier, last, rfl, waited, reason⟩ := ends
  refine ⟨.ok response :: earlier, last, rfl, ?_, ?_⟩
  · exact List.forall_mem_cons.mpr ⟨⟨response, rfl, immature⟩, waited⟩
  · rcases reason with same | ⟨raised, spent, lastImmature⟩
    · exact .inl same
    · exact .inr ⟨raised, by rw [List.length_cons, spent], lastImmature⟩

theorem endsAfter_ok {attempts : Nat} {response : Response} (ready : mature response = true) :
    EndsAfter mature attempts [.ok response] (.ok response) :=
  ⟨[], .ok response, rfl, List.forall_mem_nil _, .inl ⟨rfl, fun _ same => by cases same; exact ready⟩⟩

theorem endsAfter_error {attempts : Nat} {error : MirrorError} :
    EndsAfter mature attempts [.error error] (.error error) :=
  ⟨[], .error error, rfl, List.forall_mem_nil _, .inl ⟨rfl, fun _ same => by cases same⟩⟩

private theorem endsAfter_immature {response : Response} (immature : mature response = false) :
    EndsAfter mature 1 [.ok response] (.error (.rpc DEPENDENT_SERVICE_IMMATURE_RECORDS)) :=
  ⟨[], .ok response, rfl, List.forall_mem_nil _, .inr ⟨rfl, rfl, response, rfl, immature⟩⟩

namespace MirrorNodeClient

/-- The loop fetches again only where a round is left, so it never returns what is not mature. -/
theorem ran_pollFrom {i : Nat} (below : i < retryCount) {response : Response} {transcript : List (Exchange Op Answer)}
    {outcome : Except MirrorError Response}
    (ran : Ran (pollFrom fetch mature retryCount i response).run transcript outcome) :
    ∃ responses, Fetches fetch responses transcript ∧ i + responses.length < retryCount ∧
      EndsAfter mature (retryCount - i) (.ok response :: responses) outcome := by
  obtain ⟨left, measured⟩ : ∃ left, retryCount - i = left + 1 := ⟨retryCount - i - 1, by omega⟩
  induction left generalizing i response transcript with
  | zero =>
    rw [pollFrom, if_pos below] at ran
    cases ready : mature response with
    | true =>
      rw [if_pos ready] at ran
      obtain ⟨rfl, rfl⟩ := ran_done_iff.mp ran
      exact ⟨[], .nil, below, endsAfter_ok ready⟩
    | false =>
      rw [if_neg (by simp [ready]), if_pos (by omega)] at ran
      obtain ⟨rfl, rfl⟩ := ran_done_iff.mp ran
      rw [measured]
      exact ⟨[], .nil, below, endsAfter_immature ready⟩
  | succ left ih =>
    rw [pollFrom, if_pos below] at ran
    cases ready : mature response with
    | true =>
      rw [if_pos ready] at ran
      obtain ⟨rfl, rfl⟩ := ran_done_iff.mp ran
      exact ⟨[], .nil, below, endsAfter_ok ready⟩
    | false =>
      rw [if_neg (by simp [ready]), if_neg (by omega)] at ran
      have fewer : retryCount - i = retryCount - (i + 1) + 1 := by omega
      rcases ran_bindExcept_iff.mp ran with ⟨first, second, again, rfl, asked, followed⟩ | ⟨error, rfl, asked⟩
      · obtain ⟨responses, fetches, bounded, ends⟩ := ih (by omega : i + 1 < retryCount) followed (by omega)
        rw [fewer]
        exact ⟨.ok again :: responses, .cons asked fetches, by simp only [List.length_cons]; omega, ends.cons ready⟩
      · rw [fewer]
        refine ⟨[.error error], ?_, by simp only [List.length_singleton]; omega, endsAfter_error.cons ready⟩
        simpa using Fetches.cons asked .nil

/-- A call ends after at most so many fetches as its last response tells. -/
theorem ran_withRetry (positive : 1 ≤ retryCount) {transcript : List (Exchange Op Answer)}
    {outcome : Except MirrorError Response} (ran : Ran (withRetry fetch mature retryCount).run transcript outcome) :
    ∃ responses, Fetches fetch responses transcript ∧ responses.length ≤ retryCount ∧
      EndsAfter mature retryCount responses outcome := by
  rcases ran_bindExcept_iff.mp ran with ⟨first, second, response, rfl, asked, followed⟩ | ⟨error, rfl, asked⟩
  · obtain ⟨responses, fetches, bounded, ends⟩ := ran_pollFrom positive followed
    refine ⟨.ok response :: responses, .cons asked fetches, ?_, ends⟩
    simp only [List.length_cons]
    omega
  · refine ⟨[.error error], ?_, positive, endsAfter_error⟩
    simpa using Fetches.cons asked .nil

end MirrorNodeClient

/-- However the fetches are answered, a call takes at most so many of them: it fetches again where a
response is not mature, returns only a last response that is mature, raises the error for immature
records only when every attempt gave some, and else the error of a fetch that failed. -/
def RetriedUntilMature (fetch : ExceptT MirrorError (Prog Op Answer) Response) (mature : Response → Bool)
    (retryCount : Nat) (call : ExceptT MirrorError (Prog Op Answer) Response) : Prop :=
  ∀ transcript outcome, Ran call.run transcript outcome →
    ∃ responses, Fetches fetch responses transcript ∧ responses.length ≤ retryCount ∧
      EndsAfter mature retryCount responses outcome

theorem MirrorNodeClient.retried_withRetry (positive : 1 ≤ retryCount) :
    RetriedUntilMature fetch mature retryCount (withRetry fetch mature retryCount) :=
  fun _ _ ran => ran_withRetry positive ran

end Calls

/-- An operation that caches nothing but a mature successful result. -/
def CachesMature (op : RecordOp) : Prop :=
  ∀ key value ttl, op = .setCached key value ttl → immatureResult value = false ∧ value.result = .given "SUCCESS"

namespace MirrorNodeClient

open HieroRelay.Redis.MirrorNodeClient (cachesResult present)

private theorem mature_of_cachesResult {response : ContractResult JsInteger}
    (caches : cachesResult response = true) :
    immatureResult response = false ∧ response.result = .given "SUCCESS" := by
  have not_nullish : ∀ {Value : Type} {field : Redis.Field Value}, present field = true → isNullish field = false := by
    intro Value field given
    cases field with
    | given value => rfl
    | undefined | null => cases given
  simp only [cachesResult, Bool.and_eq_true, decide_eq_true_eq] at caches
  obtain ⟨⟨⟨index, number⟩, hash⟩, success⟩ := caches
  refine ⟨?_, success⟩
  rw [immatureResult, not_nullish index, not_nullish number, Bool.false_or, Bool.false_or, beq_eq_false_iff_ne]
  exact hash

private theorem asks_getContractResult (transactionIdOrHash : String) :
    (getContractResult transactionIdOrHash).run.Asks CachesMature := by
  refine ⟨by rintro _ _ _ ⟨⟩, ?_⟩
  intro cached
  cases cached with
  | some cachedResponse => trivial
  | none =>
    refine ⟨by rintro _ _ _ ⟨⟩, ?_⟩
    rintro (error | found)
    · trivial
    · cases found with
      | none => trivial
      | some response =>
        change Prog.Asks CachesMature (ExceptT.run (if cachesResult response = true then _ else _))
        split
        · rename_i caches
          refine ⟨?_, fun _ => trivial⟩
          rintro _ _ _ ⟨⟩
          exact mature_of_cachesResult caches
        · trivial

/-- Both kinds of polling, and the cache of contract results. -/
theorem retried_until_mature {Op : Type} {Answer : Op → Type} (retryCount : Nat) (positive : 1 ≤ retryCount) :
    (∀ method : ExceptT MirrorError (Prog Op Answer) Fetched,
      RetriedUntilMature method Fetched.mature retryCount (getContractResultWithRetry retryCount method)) ∧
    (∀ pageMax (get : String → ExceptT MirrorError (Prog Op Answer) (Option (Page (Option ContractLog)))) queryParams,
      RetriedUntilMature
        (getPaginatedResults get (GET_CONTRACT_RESULT_LOGS_ENDPOINT ++ queryParams) [] 1 pageMax) matureLogs retryCount
        (getContractResultsLogsWithRetry retryCount pageMax get queryParams)) ∧
    ∀ transactionIdOrHash transcript outcome, Ran (getContractResult transactionIdOrHash).run transcript outcome →
      ∀ exchange ∈ transcript, CachesMature exchange.1 := by
  refine ⟨?_, ?_, ?_⟩
  · intro method
    exact retried_withRetry positive
  · intro pageMax get queryParams
    exact retried_withRetry positive
  · intro transactionIdOrHash transcript outcome ran
    exact (asks_getContractResult transactionIdOrHash).mem ran

/-- A transaction is looked up through the cache, in three attempts. -/
theorem retried_transaction :
    RetriedUntilMature (getContractResult "0x1f") Fetched.mature 3 (getContractResultWithRetry 3
      (getContractResult "0x1f")) :=
  (retried_until_mature 3 (by decide)).1 (getContractResult "0x1f")

end MirrorNodeClient

end HieroRelay.Mirror
