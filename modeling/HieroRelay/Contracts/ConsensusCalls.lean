import HieroRelay.Hapi.SDKClient
import HieroRelay.Js.CodeUnits
import HieroRelay.Lib.Memo
import HieroRelay.Lib.Search
import HieroRelay.Redis.JsIntegers
import HieroRelay.Relay.BlockParams

/-! Calls of contracts at the consensus nodes. Their results are cached under the sender, the
contract and a digest of the data, for calls that may run at the same time. -/

namespace HieroRelay.Contracts

open HieroRelay.Blocks (prepend0x)
open HieroRelay.Hapi (toHexText)
open HieroRelay.Js (codeUnits hexDigits)
open HieroRelay.Lib (Asked LruEntry Meaning Memo MemoOp Prog Protocol run)
open HieroRelay.Relay (JsonRpcError)

/-- The request of `eth_call` after `contractCallFormat`. -/
structure ContractCallRequest where
  sender : Redis.Field String
  recipient : Redis.Field String
  data : Redis.Field String
  deriving Repr, DecidableEq

/-- A field in a template literal. -/
def fieldText : Redis.Field String → String
  | .undefined => "undefined"
  | .null => "null"
  | .given text => text

/-- `field || ''` -/
def textOrEmpty : Redis.Field String → String
  | .given text => text
  | _ => ""

/-- `^0[xX][a-fA-F0-9]{40}$` -/
def isValidEthereumAddress (address : Redis.Field String) : Bool :=
  match address with
  | .given text => (hexDigits text).any fun digits => digits.length == 40
  | _ => false

/-- A length is counted in code units. -/
def lengthNote (address : Redis.Field String) (note : Nat → String) : String :=
  if textOrEmpty address = "" then "" else note (codeUnits (textOrEmpty address)).length

def INVALID_CONTRACT_ADDRESS (address : Redis.Field String) : JsonRpcError :=
  { code := -32012
    message := s!"Invalid Contract Address: {fieldText address}." ++
      lengthNote address fun length => s!" Expected length of 42 chars but was {length}." }

def NON_EXISTING_ACCOUNT (address : Redis.Field String) : JsonRpcError :=
  { code := -32014
    message := s!"Non Existing Account Address: {fieldText address}." ++
      lengthNote address fun _ => " Expected an Account Address." }

/-- What a consensus node is asked for. -/
structure ContractCallQuery where
  call : ContractCallRequest
  gas : Nat
  deriving Repr, DecidableEq

inductive ConsensusError where
  | rpc (error : JsonRpcError)
  | other (message : String)
  deriving Repr, DecidableEq

/-- The bytes of the response; there is none after too many timeouts. -/
abbrev ConsensusResponse := Except ConsensusError (Option (List UInt8))

abbrev CallOp := MemoOp String String ContractCallQuery ConsensusResponse

abbrev Calling (Result : Type) := ExceptT ConsensusError (Prog CallOp MemoOp.Answer) Result

/-- The digest is one of a library; the rest is configured. -/
structure ContractService where
  sha1 : String → String
  ETH_CALL_CACHE_TTL : Nat
  defaultGas : Nat

namespace ContractService

variable (service : ContractService)

/-- `call.data ? sha1(call.data) : null` -/
def digest (data : Redis.Field String) : String :=
  match data with
  | .given text => if text = "" then "null" else service.sha1 text
  | _ => "null"

def cacheKey (call : ContractCallRequest) : String :=
  "eth_call:" ++ textOrEmpty call.sender ++ "." ++ fieldText call.recipient ++ "." ++ service.digest call.data

def validateAddresses (call : ContractCallRequest) : Except ConsensusError Unit :=
  if textOrEmpty call.sender ≠ "" ∧ isValidEthereumAddress call.sender = false then
    .error (.rpc (NON_EXISTING_ACCOUNT call.sender))
  else if isValidEthereumAddress call.recipient = false then .error (.rpc (INVALID_CONTRACT_ADDRESS call.recipient))
  else .ok ()

/-- `prepend0x(Buffer.from(..).toString('hex'))` -/
def formatResponse (bytes : List UInt8) : String := prepend0x (String.ofList (toHexText bytes))

def executeConsensusNodeCall (call : ContractCallRequest) (gas : Nat) : Calling (Except JsonRpcError String) := do
  let contractCallResponse : Option (List UInt8) ← ExceptT.mk (Prog.op (MemoOp.ask { call, gas } : CallOp))
  match contractCallResponse with
  | none =>
      return .error (Relay.predefined.INTERNAL_ERROR "Invalid contractCallResponse from consensus-node: undefined")
  | some bytes =>
      ExceptT.lift (Prog.op (MemoOp.write (service.cacheKey call) (formatResponse bytes) service.ETH_CALL_CACHE_TTL :
        CallOp))
      return .ok (formatResponse bytes)

def tryConsensusNode (call : ContractCallRequest) (gas : Option Nat) : Calling (Except JsonRpcError String) := do
  let gas := gas.getD service.defaultGas
  ExceptT.mk (.done (validateAddresses call))
  match ← ExceptT.lift (Prog.op (MemoOp.read (service.cacheKey call) : CallOp)) with
  | some cachedResponse => return .ok cachedResponse
  | none => service.executeConsensusNodeCall call gas

/-- The error is returned. -/
def handleConsensusNodeError : ConsensusError → JsonRpcError
  | .rpc error => error
  | .other message => Relay.predefined.INTERNAL_ERROR message

def callConsensusNode (call : ContractCallRequest) (gas : Option Nat) :
    Prog CallOp MemoOp.Answer (Except JsonRpcError String) := do
  match ← (service.tryConsensusNode call gas).run with
  | .ok answer => return answer
  | .error e => return .error (handleConsensusNodeError e)

end ContractService

/-! The keys. -/

/-- The calls differ at most in how they leave out a sender or data. -/
structure SameCall (first second : ContractCallRequest) : Prop where
  sender : textOrEmpty first.sender = textOrEmpty second.sender
  recipient : first.recipient = second.recipient
  data : textOrEmpty first.data = textOrEmpty second.data

theorem SameCall.refl (call : ContractCallRequest) : SameCall call call := ⟨rfl, rfl, rfl⟩

private theorem dot_not_mem_of_hexDigits {text : String} {digits : List Char} (hex : hexDigits text = some digits) :
    '.' ∉ text.toList := by
  obtain ⟨mark, written, marked, digitsHex⟩ := Relay.hexDigits_eq_some_iff.mp hex
  rw [written, List.mem_cons, List.mem_cons, not_or, not_or]
  refine ⟨by decide, ?_, fun member => absurd (List.all_eq_true.mp digitsHex '.' member) (by decide)⟩
  intro same
  subst same
  rcases marked with marked | marked <;> cases marked

theorem dot_not_mem_of_valid {address : Redis.Field String} (valid : isValidEthereumAddress address = true) :
    '.' ∉ (fieldText address).toList := by
  cases address with
  | given text =>
    obtain ⟨digits, hex, -⟩ := (Option.any_eq_true _ _).mp valid
    exact dot_not_mem_of_hexDigits hex
  | _ => cases valid

namespace ContractService

variable {service : ContractService} {call other : ContractCallRequest}

theorem valid_of_validateAddresses (checked : validateAddresses call = .ok ()) :
    (textOrEmpty call.sender = "" ∨ isValidEthereumAddress call.sender = true) ∧
      isValidEthereumAddress call.recipient = true := by
  unfold validateAddresses at checked
  split_ifs at checked with sender recipient
  rw [Bool.not_eq_false] at recipient
  refine ⟨?_, recipient⟩
  by_contra neither
  rw [not_or] at neither
  exact sender ⟨neither.1, Bool.eq_false_iff.mpr neither.2⟩

theorem dot_not_mem_sender (checked : validateAddresses call = .ok ()) : '.' ∉ (textOrEmpty call.sender).toList := by
  rcases (valid_of_validateAddresses checked).1 with empty | valid
  · rw [empty]
    exact List.not_mem_nil
  · cases known : call.sender with
    | given text =>
      rw [known] at valid
      exact dot_not_mem_of_valid valid
    | _ => exact List.not_mem_nil

private theorem recipient_inj (valid : isValidEthereumAddress call.recipient = true)
    (otherValid : isValidEthereumAddress other.recipient = true)
    (same : fieldText call.recipient = fieldText other.recipient) : call.recipient = other.recipient := by
  cases first : call.recipient with
  | given text =>
    cases second : other.recipient with
    | given _ =>
      rw [first, second] at same
      exact congrArg Redis.Field.given same
    | _ =>
      rw [second] at otherValid
      cases otherValid
  | _ =>
    rw [first] at valid
    cases valid

/-- Calls that pass the check of their addresses share a key only where they are the same. -/
theorem sameCall_of_cacheKey (checked : validateAddresses call = .ok ())
    (otherChecked : validateAddresses other = .ok ()) (digests :
      service.digest call.data = service.digest other.data → textOrEmpty call.data = textOrEmpty other.data)
    (same : service.cacheKey call = service.cacheKey other) : SameCall call other := by
  have valid := (valid_of_validateAddresses checked).2
  have otherValid := (valid_of_validateAddresses otherChecked).2
  have texts := congrArg String.toList same
  simp only [cacheKey, String.append_assoc, String.toList_append, List.append_cancel_left_eq] at texts
  obtain ⟨sender, rest⟩ :=
    Lib.append_separator_inj (dot_not_mem_sender checked) (dot_not_mem_sender otherChecked) texts
  obtain ⟨recipient, digest⟩ :=
    Lib.append_separator_inj (dot_not_mem_of_valid valid) (dot_not_mem_of_valid otherValid) rest
  exact {
    sender := String.toList_inj.mp sender
    recipient := recipient_inj valid otherValid (String.toList_inj.mp recipient)
    data := digests (String.toList_inj.mp digest) }

end ContractService

/-! What the answers are. -/

section Run
variable {Party : Type}

abbrev CallMemo (Party : Type) := Memo Party String String ContractCallQuery ConsensusResponse

/-- A consensus node has answered the same call, with whatever gas, until some time. -/
def Executed (asked : List (Asked Party ContractCallQuery ConsensusResponse)) (call : ContractCallRequest) (time : Nat)
    (answer : String) : Prop :=
  ∃ request ∈ asked, SameCall request.query.call call ∧ request.time ≤ time ∧
    ∃ bytes, request.raw = .ok (some bytes) ∧ answer = ContractService.formatResponse bytes

/-- What is cached under the key of a call is an answer to it. -/
def callMeaning (service : ContractService) (callOf : Party → Option (ContractCallRequest × Option Nat)) :
    Meaning Party String String ContractCallQuery ConsensusResponse where
  Stands asked cacheKey entry := ∀ party call gas, callOf party = some (call, gas) →
    ContractService.validateAddresses call = .ok () → cacheKey = service.cacheKey call →
      entry.ttl = service.ETH_CALL_CACHE_TTL ∧ Executed asked call entry.start entry.value
  kept := by
    intro asked more cacheKey entry stands party call gas own checked same
    obtain ⟨ttl, request, member, rest⟩ := stands party call gas own checked same
    exact ⟨ttl, request, List.mem_append_left more member, rest⟩

/-- Different data of the calls have different digests. -/
def NoCollision (service : ContractService) (callOf : Party → Option (ContractCallRequest × Option Nat)) : Prop :=
  ∀ party other first second, callOf party = some first → callOf other = some second →
    service.digest first.1.data = service.digest second.1.data → textOrEmpty first.1.data = textOrEmpty second.1.data

/-- The answer to a call at the consensus nodes: the error of its addresses, what they have
answered the call itself, or a result of the same call that was stored within the time to live. -/
inductive Answered (service : ContractService) (call : ContractCallRequest) (gas : Option Nat) (party : Party)
    (memo : CallMemo Party) : Except JsonRpcError String → Prop where
  | refused {error : ConsensusError} (invalid : ContractService.validateAddresses call = .error error) :
      Answered service call gas party memo (.error (ContractService.handleConsensusNodeError error))
  | failed {request : Asked Party ContractCallQuery ConsensusResponse} (member : request ∈ memo.asked)
      (own : request.party = party) (query : request.query = { call, gas := gas.getD service.defaultGas })
      {error : ConsensusError} (told : request.raw = .error error) :
      Answered service call gas party memo (.error (ContractService.handleConsensusNodeError error))
  | absent {request : Asked Party ContractCallQuery ConsensusResponse} (member : request ∈ memo.asked)
      (own : request.party = party) (query : request.query = { call, gas := gas.getD service.defaultGas })
      (told : request.raw = .ok none) :
      Answered service call gas party memo (.error
        (Relay.predefined.INTERNAL_ERROR "Invalid contractCallResponse from consensus-node: undefined"))
  | executed {request : Asked Party ContractCallQuery ConsensusResponse} (member : request ∈ memo.asked)
      (own : request.party = party) (query : request.query = { call, gas := gas.getD service.defaultGas })
      {bytes : List UInt8} (told : request.raw = .ok (some bytes)) :
      Answered service call gas party memo (.ok (ContractService.formatResponse bytes))
  | cached {answer : String} {stored : Nat} (before : stored ≤ memo.now)
      (time : memo.now ≤ stored + service.ETH_CALL_CACHE_TTL) (executed : Executed memo.asked call stored answer) :
      Answered service call gas party memo (.ok answer)

namespace ContractService

variable {service : ContractService} {callOf : Party → Option (ContractCallRequest × Option Nat)}
  {Other : Party → Prop} {party : Party} {call : ContractCallRequest} {gas : Option Nat} {memo : CallMemo Party}

/-- The outcome of the `try` block as the answer that is returned. -/
def returned : Except ConsensusError (Except JsonRpcError String) → Except JsonRpcError String
  | .ok answer => answer
  | .error e => .error (handleConsensusNodeError e)

/-- The answer of the nodes stands under the key of the call. -/
theorem stands_executed (noCollision : NoCollision service callOf) (own : callOf party = some (call, gas))
    (checked : validateAddresses call = .ok ()) {query : ContractCallQuery} (same : query.call = call)
    {bytes : List UInt8} {request : Asked Party ContractCallQuery ConsensusResponse} (member : request ∈ memo.asked)
    (asked : request.query = query) (time : request.time ≤ memo.now) (told : request.raw = .ok (some bytes)) :
    (callMeaning service callOf).Stands memo.asked (service.cacheKey call)
      { value := formatResponse bytes, start := memo.now, ttl := service.ETH_CALL_CACHE_TTL } := by
  intro other otherCall otherGas others otherChecked sameKey
  have calls : SameCall call otherCall :=
    sameCall_of_cacheKey checked otherChecked (noCollision party other _ _ own others) sameKey
  refine ⟨rfl, request, member, ?_, time, bytes, told, rfl⟩
  rw [asked, same]
  exact calls

private theorem reaches_executeConsensusNodeCall (noCollision : NoCollision service callOf)
    (own : callOf party = some (call, gas)) (checked : validateAddresses call = .ok ()) :
    (Memo.protocol (callMeaning service callOf) Other).Reaches party
      (fun outcome reached => Answered service call gas party reached (returned outcome))
      (service.executeConsensusNodeCall call (gas.getD service.defaultGas)).run memo := by
  have asks : (Memo.protocol (callMeaning service callOf) Other).Reaches party
      (fun raw reached => ∃ request ∈ reached.asked, request.party = party ∧
        request.query = { call, gas := gas.getD service.defaultGas } ∧ request.time ≤ reached.now ∧ request.raw = raw)
      (Prog.op (MemoOp.ask { call, gas := gas.getD service.defaultGas } : CallOp)) memo := by
    apply Memo.reaches_ask
    intro later _
    exact ⟨_, List.mem_append_right _ (List.mem_singleton_self _), rfl, rfl, Nat.le_refl _, rfl⟩
  rw [executeConsensusNodeCall, ExceptT.run_bind]
  apply Protocol.Reaches.bind asks
  rintro raw reached ⟨request, member, mine, query, time, told⟩
  cases raw with
  | error error => exact Protocol.reaches_done (.failed member mine query told)
  | ok response =>
    cases response with
    | none => exact Protocol.reaches_done (.absent member mine query told)
    | some bytes =>
      have writes : (Memo.protocol (callMeaning service callOf) Other).Reaches party
          (fun _ later => request ∈ later.asked)
          (Prog.op (MemoOp.write (service.cacheKey call) (formatResponse bytes) service.ETH_CALL_CACHE_TTL : CallOp))
          reached := by
        apply Memo.reaches_write
        intro later before
        have kept := before.asked.subset member
        exact ⟨stands_executed noCollision own checked rfl kept query (Nat.le_trans time before.time) told, kept⟩
      dsimp only
      rw [ExceptT.run_bind_lift]
      apply Protocol.Reaches.bind writes
      intro _ later kept
      exact Protocol.reaches_done (.executed kept mine query told)

private theorem reaches_callConsensusNode (positive : 0 < service.ETH_CALL_CACHE_TTL)
    (noCollision : NoCollision service callOf) (own : callOf party = some (call, gas)) :
    (Memo.protocol (callMeaning service callOf) Other).Reaches party
      (fun answer reached => Answered service call gas party reached answer)
      (service.callConsensusNode call gas) memo := by
  have tries : (Memo.protocol (callMeaning service callOf) Other).Reaches party
      (fun outcome reached => Answered service call gas party reached (returned outcome))
      (service.tryConsensusNode call gas).run memo := by
    unfold tryConsensusNode
    cases checked : validateAddresses call with
    | error error => exact Protocol.reaches_done (.refused checked)
    | ok _ =>
      have reads : (Memo.protocol (callMeaning service callOf) Other).Reaches party
          (fun found reached => ∀ answer, found = some answer → Answered service call gas party reached (.ok answer))
          (Prog.op (MemoOp.read (service.cacheKey call) : CallOp)) memo := by
        apply Memo.reaches_read
        intro later _ sound answer found
        obtain ⟨stored, ttl, before, time, stands⟩ := sound.read found
        obtain ⟨rfl, executed⟩ := stands party call gas own checked rfl
        exact .cached before (time.resolve_left (Nat.ne_of_gt positive)) executed
      apply Protocol.Reaches.bind reads
      intro found reached answered
      cases found with
      | some answer => exact Protocol.reaches_done (answered answer rfl)
      | none => exact reaches_executeConsensusNodeCall noCollision own checked
  apply Protocol.Reaches.bind tries
  intro outcome reached answered
  cases outcome with
  | ok answer => exact Protocol.reaches_done answered
  | error error => exact Protocol.reaches_done answered

/-- Whatever runs at the same time, a call at the consensus nodes is answered as they answered it,
or the same call of another request whose result was stored within the time to live. -/
theorem consensusCall_answered [DecidableEq Party] (positive : 0 < service.ETH_CALL_CACHE_TTL)
    (noCollision : NoCollision service callOf) (nodes : ContractCallQuery → ConsensusResponse)
    {config final : (Memo.protocol (callMeaning service callOf) fun party => callOf party = none).Config
      (Except JsonRpcError String)}
    {schedule : List Party} (start : config.shared = .initial nodes)
    (calls : ∀ party call gas, callOf party = some (call, gas) →
      config.programs party = service.callConsensusNode call gas)
    (permitted : (Memo.protocol (callMeaning service callOf) fun party => callOf party = none).Permitted config
      schedule)
    (reached : run (Memo.protocol (callMeaning service callOf) fun party => callOf party = none).step config schedule =
      some final)
    (own : callOf party = some (call, gas)) {answer : Except JsonRpcError String}
    (ended : final.programs party = .done answer) :
    ∃ memo, memo.Before final.shared ∧ Answered service call gas party memo answer := by
  have reaches : ∀ party, ¬ callOf party = none → ∀ memo : CallMemo Party,
      (Memo.protocol (callMeaning service callOf) fun party => callOf party = none).Reaches party
        (fun answer memo => ∀ call gas, callOf party = some (call, gas) →
          Answered service call gas party memo answer)
        (config.programs party) memo := by
    intro party present memo
    obtain ⟨⟨call, gas⟩, own⟩ := Option.ne_none_iff_exists'.mp present
    rw [calls party call gas own]
    apply (reaches_callConsensusNode positive noCollision own).weaken
    intro answer reached answered other otherGas same
    obtain ⟨rfl, rfl⟩ := Prod.mk.inj (Option.some.inj (own.symm.trans same))
    exact answered
  have present : ¬ callOf party = none := by simp [own]
  obtain ⟨memo, answered, before⟩ :=
    Memo.reaches_run nodes start reaches permitted reached party present answer ended
  exact ⟨memo, before, answered call gas own⟩

end ContractService

end Run

/-- A digest that keeps the data apart, and results that are kept for 200 milliseconds. -/
def exampleService : ContractService where
  sha1 data := "#" ++ data
  ETH_CALL_CACHE_TTL := 200
  defaultGas := 400000

def exampleCall : ContractCallRequest where
  sender := .undefined
  recipient := .given "0x00000000000000000000000000000000000004d2"
  data := .given "0x06fdde03"

/-- The same call twice, once with gas, and a clock. -/
def twoCalls : Option Bool → Option (ContractCallRequest × Option Nat)
  | some true => some (exampleCall, none)
  | some false => some (exampleCall, some 21000)
  | none => none

private theorem noCollision_twoCalls : NoCollision exampleService twoCalls := by
  have only : ∀ party request, twoCalls party = some request → request.1 = exampleCall := by
    intro party request own
    match party with
    | some true => exact congrArg Prod.fst (Option.some.inj own).symm
    | some false => exact congrArg Prod.fst (Option.some.inj own).symm
    | none => cases own
  intro party other first second own others _
  rw [only party first own, only other second others]

def twoCallsConfig : (Memo.protocol (callMeaning exampleService twoCalls) fun party => twoCalls party = none).Config
    (Except JsonRpcError String) where
  shared := .initial fun _ => .ok (some [1, 255])
  programs
    | some true => exampleService.callConsensusNode exampleCall none
    | some false => exampleService.callConsensusNode exampleCall (some 21000)
    | none => .call (.advance 200) fun _ => .done (.ok "")

/-- The call with little gas is answered with the result of the one before. -/
theorem consensusCall_answered_twoCalls : ∃ final,
    run (Memo.protocol (callMeaning exampleService twoCalls) fun party => twoCalls party = none).step
      twoCallsConfig [some true, some true, some true, none, some false] = some final ∧
    final.programs (some false) = .done (.ok "0x01ff") ∧
    ∃ memo : CallMemo (Option Bool), memo.Before final.shared ∧
      Answered exampleService exampleCall (some 21000) (some false) memo (.ok "0x01ff") := by
  have ends : (run (Memo.protocol (callMeaning exampleService twoCalls) fun party => twoCalls party = none).step
      twoCallsConfig [some true, some true, some true, none, some false]).map
        (fun final => final.programs (some false)) = some (.done (.ok "0x01ff")) := by
    rfl
  obtain ⟨final, reached, ended⟩ := Option.map_eq_some_iff.mp ends
  have calls : ∀ party call gas, twoCalls party = some (call, gas) →
      twoCallsConfig.programs party = exampleService.callConsensusNode call gas := by
    intro party call gas own
    match party with
    | some true =>
      obtain ⟨rfl, rfl⟩ := Prod.mk.inj (Option.some.inj own)
      rfl
    | some false =>
      obtain ⟨rfl, rfl⟩ := Prod.mk.inj (Option.some.inj own)
      rfl
    | none => cases own
  have owned : ∀ party : Option Bool, party.isSome = true → ¬ twoCalls party = none := by
    intro party mine
    match party with
    | some true => nofun
    | some false => nofun
    | none => cases mine
  exact ⟨final, reached, ended, ContractService.consensusCall_answered (by decide) noCollision_twoCalls
    (fun _ => .ok (some [1, 255])) rfl calls (Memo.permitted_of_checks owned rfl) reached rfl ended⟩

end HieroRelay.Contracts
