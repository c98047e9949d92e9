import HieroRelay.Contracts.StateHistory
import HieroRelay.Filters.BlockRanges
import HieroRelay.Lib.Noted
import HieroRelay.Relay.BlockParams
import HieroRelay.Relay.Dispatcher

/-! `eth_getStorageAt` and `eth_getCode` among blocks that are added: what is read for a block is what
was there at its end, whenever it is read. -/

namespace HieroRelay.Contracts

open HieroRelay.Filters (timestampToNumber)
open HieroRelay.Js (hexDigits hexValue roundToDouble)
open HieroRelay.Lib
open HieroRelay.Relay (HandlerError JsonRpcError)

/-- An entity with its type. -/
inductive ResolvedEntity where
  | contract (entity : ContractEntity)
  | token (entity : TokenEntity)
  | account (createdTimestamp : Option Nat)
  deriving Repr, DecidableEq

/-- `entity?.created_timestamp` -/
def ResolvedEntity.createdTimestamp : ResolvedEntity → Option Nat
  | .contract entity => some entity.createdTimestamp
  | .token entity => some entity.createdTimestamp
  | .account createdTimestamp => createdTimestamp

/-- A number may be `NaN`, which is no number here. -/
inductive HashOrBlockNumber where
  | number (value : Option Nat)
  | hash (text : String)
  deriving Repr, DecidableEq

inductive ReadOp where
  | getLatestBlock
  | getBlock (hashOrBlockNumber : HashOrBlockNumber)
  | getContractStateByAddressAndSlot (address slot : String) (blockEndTimestamp : Option Nat)
  | resolveEntityType (entityIdentifier : String)
  deriving Repr, DecidableEq

/-- What is missing is answered by nothing; of the state only the values are read. -/
abbrev ReadOp.Value : ReadOp → Type
  | .getLatestBlock => Option (List StateBlock)
  | .getBlock _ => Option StateBlock
  | .getContractStateByAddressAndSlot _ _ _ => Option (List String)
  | .resolveEntityType _ => Option ResolvedEntity

abbrev ReadOp.Answer (op : ReadOp) : Type := Except HandlerError op.Value

abbrev Reading (Result : Type) := ExceptT HandlerError (Prog ReadOp ReadOp.Answer) Result

def query (op : ReadOp) : Reading op.Value := ExceptT.mk (Prog.op op)

namespace CommonService

def blockTagIsLatestOrPending : Option String → Bool
  | none => true
  | some tag => tag == "latest" || tag == "pending" || tag == "safe" || tag == "finalized"

/-- `Number(text)` of a parameter that was validated, with nothing for `NaN`. -/
def toNumber (text : String) : Option Nat :=
  match hexDigits text with
  | some digits => if digits = [] then none else some (roundToDouble (hexValue digits))
  | none => none

/-- The error of a property that is read of what is missing. -/
def cannotRead (value property : String) : HandlerError :=
  .other s!"Cannot read properties of {value} (reading '{property}')" []

/-- `latestBlockResponse.blocks` -/
def latestBlocks : Reading (List StateBlock) := do
  match ← query .getLatestBlock with
  | some blocks => return blocks
  | none => throw (cannotRead "null" "blocks")

def hashOrBlockNumber (text : String) : HashOrBlockNumber :=
  if text = "earliest" then .number (some 0)
  else if text.length < 32 then .number (toNumber text)
  else .hash text

/-- A short number must not be far beyond the head. -/
def numberedBlock (maxBlockRange : Nat) (text : String) (blockNumber : Nat) : Reading (Option StateBlock) := do
  match ← latestBlocks with
  | [] => throw (cannotRead "undefined" "number")
  | latestBlock :: _ =>
      if blockNumber > latestBlock.number + maxBlockRange then return none
      else query (.getBlock (hashOrBlockNumber text))

def getHistoricalBlockResponse (maxBlockRange : Nat) (blockNumberOrTagOrHash : Option String) (returnLatest : Bool) :
    Reading (Option StateBlock) := do
  if !returnLatest && blockTagIsLatestOrPending blockNumberOrTagOrHash then return none
  else
    match blockNumberOrTagOrHash with
    | none => return (← latestBlocks).head?
    | some text =>
        if text = EMPTY_HEX then return none
        else if blockTagIsLatestOrPending (some text) then return (← latestBlocks).head?
        else
          match if text.length < 32 then toNumber text else none with
          | some blockNumber => numberedBlock maxBlockRange text blockNumber
          | none => query (.getBlock (hashOrBlockNumber text))

def redirectBytecodeAddressReplace (address : String) : String :=
  "0x6080604052348015600f57600080fd5b506000610167905077618dc65e" ++ String.ofList (address.toList.drop 2) ++
    "600052366000602037600080366018016008845af43d806000803e8160008114605857816000f35b816000fdfea264697066735822" ++
    "1220d8378feed472ba49a0005514ef7087017f707b45fb9bf56bb81bb93ff19a238b64736f6c634300080b0033"

def genericErrorHandler : HandlerError → HandlerError
  | .other message _ => .jsonRpc (Relay.predefined.INTERNAL_ERROR message)
  | error => error

end CommonService

def HTS_ADDRESS : String := "0x0000000000000000000000000000000000000167"

def INVALID_EVM_INSTRUCTION : String := "0xfe"

namespace StateReads

def RESOURCE_NOT_FOUND (message : String) : JsonRpcError :=
  { code := -32001, message := s!"Requested resource not found. {message}" }

def UNKNOWN_BLOCK (message : String) : JsonRpcError := { code := -39012, message }

/-- The text that stands for a parameter in a message. -/
def paramText (block : Option String) : String := block.getD "null"

def getStorageAt (maxBlockRange : Nat) (address slot : String) (blockNumberOrTagOrHash : Option String) :
    Reading String := do
  let blockResponse ← CommonService.getHistoricalBlockResponse maxBlockRange blockNumberOrTagOrHash false
  if !CommonService.blockTagIsLatestOrPending blockNumberOrTagOrHash && blockResponse.isNone then
    throw (.jsonRpc (RESOURCE_NOT_FOUND s!"block '{paramText blockNumberOrTagOrHash}'."))
  else
    let response ← ExceptT.adapt CommonService.genericErrorHandler
      (query (.getContractStateByAddressAndSlot address slot (blockResponse.map StateBlock.timestampTo)))
    return ((response.getD []).head?).getD ZERO_HEX_32_BYTE

/-- `parseFloat(created) > parseFloat(to)`; a timestamp that is missing is not later. -/
def createdAfter (createdTimestamp : Option Nat) (timestampTo : Nat) : Bool :=
  createdTimestamp.any fun created => timestampToNumber timestampTo < timestampToNumber created

def codeOf (address : String) : ResolvedEntity → Option String
  | .token _ => some (CommonService.redirectBytecodeAddressReplace address)
  | .contract entity => entity.runtimeBytecode
  | .account _ => some EMPTY_HEX

/-- The part of `getCode` after the entity is found. -/
def entityCode (maxBlockRange : Nat) (address : String) (blockNumber : Option String) (result : ResolvedEntity) :
    Reading (Option String) := do
  match ← CommonService.getHistoricalBlockResponse maxBlockRange blockNumber true with
  | none => return some EMPTY_HEX
  | some blockInfo =>
      if createdAfter result.createdTimestamp blockInfo.timestampTo then return some EMPTY_HEX
      else return codeOf address result

def getCode (maxBlockRange : Nat) (address : String) (blockNumber : Option String) : Reading (Option String) := do
  if !Relay.CommonService.isBlockParamValid blockNumber then
    throw (.jsonRpc (UNKNOWN_BLOCK
      s!"The value passed is not a valid blockHash/blockNumber/blockTag value: {paramText blockNumber}"))
  else if address = HTS_ADDRESS then return some INVALID_EVM_INSTRUCTION
  else
    match ← query (.resolveEntityType address) with
    | none => return some EMPTY_HEX
    | some result => entityCode maxBlockRange address blockNumber result

end StateReads

/-- The block is the one of a number or a hash. -/
def HashOrBlockNumber.Names (block : StateBlock) : HashOrBlockNumber → Prop
  | .number value => value = some block.number
  | .hash text => block.hash = text

def StateHistory.blockOf (history : StateHistory) : HashOrBlockNumber → Option StateBlock
  | .number value => value.bind fun number => history.blocks[number]?
  | .hash text => history.blocks.find? fun block => block.hash = text

/-- A query with its answer, and the history at its time. -/
abbrev ReadStep := Noted ReadOp ReadOp.Answer StateHistory

namespace ReadStep

/-- What is answered is what the mirror node knows; an entity that it has may be reported as missing. -/
def Lawful : ReadStep → Prop
  | (⟨.getLatestBlock, answer⟩, history) =>
      ∀ blocks, answer = .ok blocks → blocks = some history.blocks.getLast?.toList
  | (⟨.getBlock hashOrBlockNumber, answer⟩, history) =>
      ∀ block, answer = .ok block → block = history.blockOf hashOrBlockNumber
  | (⟨.getContractStateByAddressAndSlot address slot timestamp, answer⟩, history) =>
      ∀ state, answer = .ok state → (state.getD []).head? = history.valueOf address slot timestamp
  | (⟨.resolveEntityType address, answer⟩, history) =>
      (∀ entity, answer = .ok (some (.contract entity)) → history.contracts address = some entity) ∧
        ∀ entity, answer = .ok (some (.token entity)) → history.tokens address = some entity

end ReadStep

/-- The histories of a run. -/
def seen (steps : List ReadStep) : List StateHistory := steps.map Prod.snd

/-- The parameter stands for the block; a tag of the head for one that was the head when it was asked for. -/
def Names (steps : List ReadStep) (param : Option String) (block : StateBlock) : Prop :=
  if CommonService.blockTagIsLatestOrPending param then ∃ history ∈ seen steps, history.blocks.getLast? = some block
  else ∃ text, param = some text ∧ (CommonService.hashOrBlockNumber text).Names block

/-- At some time there was no such block. -/
def Missing (steps : List ReadStep) (param : Option String) : Prop :=
  ∃ text, param = some text ∧ ((∀ block, ¬ (CommonService.hashOrBlockNumber text).Names block) ∨
    ∃ history ∈ seen steps, ∀ block ∈ history.blocks, ¬ (CommonService.hashOrBlockNumber text).Names block)

/-- A query failed. -/
def Failed (steps : List ReadStep) (error : HandlerError) : Prop :=
  ∃ op history, (⟨op, .error error⟩, history) ∈ steps

section Runs
variable {steps : List ReadStep} {param : Option String} {block : StateBlock} {error : HandlerError}
  {maxBlockRange : Nat}

theorem ranNoted_query {op : ReadOp} {outcome : Except HandlerError op.Value}
    (ran : RanNoted (query op).run steps outcome) : ∃ history, steps = [(⟨op, outcome⟩, history)] := by
  obtain ⟨answer, history, others, rfl, ended⟩ := ranNoted_call_iff.mp ran
  obtain ⟨rfl, rfl⟩ := ranNoted_done_iff.mp ended
  exact ⟨history, rfl⟩

section More
variable {more : List ReadStep} (subset : steps ⊆ more)
include subset

theorem Failed.mono (failed : Failed steps error) : Failed more error := by
  obtain ⟨op, history, member⟩ := failed
  exact ⟨op, history, subset member⟩

theorem Missing.mono (missing : Missing steps param) : Missing more param := by
  obtain ⟨text, same, never | ⟨history, member, none⟩⟩ := missing
  · exact ⟨text, same, .inl never⟩
  · exact ⟨text, same, .inr ⟨history, List.map_subset Prod.snd subset member, none⟩⟩

theorem Names.mono (named : Names steps param block) : Names more param block := by
  rw [Names] at named ⊢
  split at named
  next isHead =>
    obtain ⟨history, member, last⟩ := named
    rw [if_pos isHead]
    exact ⟨history, List.map_subset Prod.snd subset member, last⟩
  next noTag =>
    rw [if_neg noTag]
    exact named

end More

theorem ran_latestBlocks {outcome : Except HandlerError (List StateBlock)}
    (ran : RanNoted CommonService.latestBlocks.run steps outcome) (lawful : ∀ step ∈ steps, step.Lawful) :
    (∃ history ∈ seen steps, ∃ head, history.blocks.getLast? = some head ∧ outcome = .ok [head]) ∨
      ∃ error, Failed steps error ∧ outcome = .error error := by
  rcases ranNoted_bindExcept_iff.mp ran with ⟨asked, rest, blocks, rfl, asking, following⟩ | ⟨error, rfl, asking⟩
  · obtain ⟨history, rfl⟩ := ranNoted_query asking
    obtain rfl := lawful _ (List.mem_append_left _ List.mem_cons_self) blocks rfl
    obtain ⟨rfl, rfl⟩ := ranNoted_done_iff.mp following
    cases last : history.blocks.getLast? with
    | none => exact absurd (List.getLast?_eq_none_iff.mp last) history.started
    | some head => exact .inl ⟨history, List.mem_cons_self, head, last, rfl⟩
  · obtain ⟨history, rfl⟩ := ranNoted_query asking
    exact .inr ⟨error, ⟨_, history, List.mem_cons_self⟩, rfl⟩

private theorem blockOf_eq_some {history : StateHistory} {hashOrBlockNumber : HashOrBlockNumber}
    (found : history.blockOf hashOrBlockNumber = some block) :
    block ∈ history.blocks ∧ hashOrBlockNumber.Names block := by
  cases hashOrBlockNumber with
  | number value =>
    obtain ⟨number, rfl, present⟩ := Option.bind_eq_some_iff.mp found
    exact ⟨List.mem_of_getElem? present, congrArg some (history.numbered number block present).symm⟩
  | hash text =>
    have same := List.find?_some found
    exact ⟨List.mem_of_find?_eq_some found, by simpa [HashOrBlockNumber.Names] using same⟩

private theorem blockOf_eq_none {history : StateHistory} {hashOrBlockNumber : HashOrBlockNumber}
    (missing : history.blockOf hashOrBlockNumber = none) :
    ∀ block ∈ history.blocks, ¬ hashOrBlockNumber.Names block := by
  intro block present named
  cases hashOrBlockNumber with
  | number value =>
    obtain ⟨position, found⟩ := List.mem_iff_getElem?.mp present
    rw [HashOrBlockNumber.Names] at named
    rw [StateHistory.blockOf, named, Option.bind_some, history.numbered position block found, found] at missing
    cases missing
  | hash text =>
    have other := List.find?_eq_none.mp missing block present
    rw [HashOrBlockNumber.Names] at named
    exact other (decide_eq_true named)

/-- The number of a block is at most the one of the head. -/
theorem number_le_head {history : StateHistory} {head : StateBlock} (last : history.blocks.getLast? = some head)
    (present : block ∈ history.blocks) : block.number ≤ head.number := by
  obtain ⟨position, found⟩ := List.mem_iff_getElem?.mp present
  obtain ⟨inside, -⟩ := List.getElem?_eq_some_iff.mp found
  rw [List.getLast?_eq_getElem?] at last
  rw [history.numbered position block found, history.numbered _ head last]
  omega

/-- What comes of the lookup of a block. -/
inductive LookedUp (steps : List ReadStep) (param : Option String) :
    Except HandlerError (Option StateBlock) → Prop where
  | found {history : StateHistory} {block : StateBlock} (member : history ∈ seen steps)
      (inside : block ∈ history.blocks) (named : Names steps param block) : LookedUp steps param (.ok (some block))
  | missing (missing : Missing steps param) : LookedUp steps param (.ok none)
  | failed {error : HandlerError} (failed : Failed steps error) : LookedUp steps param (.error error)

theorem lookedUp_head {outcome : Except HandlerError (Option StateBlock)}
    (isHead : CommonService.blockTagIsLatestOrPending param = true)
    (ran : RanNoted (CommonService.latestBlocks >>= fun blocks => pure blocks.head? : Reading (Option StateBlock)).run
      steps outcome) (lawful : ∀ step ∈ steps, step.Lawful) : LookedUp steps param outcome := by
  rcases ranNoted_bindExcept_iff.mp ran with ⟨asked, rest, blocks, rfl, asking, following⟩ | ⟨error, rfl, asking⟩
  · obtain ⟨rfl, rfl⟩ := ranNoted_done_iff.mp following
    rw [List.append_nil] at lawful ⊢
    rcases ran_latestBlocks asking lawful with ⟨history, member, head, last, same⟩ | ⟨error, _, same⟩
    · cases same
      refine .found member (List.mem_of_getLast? last) ?_
      rw [Names, if_pos isHead]
      exact ⟨history, member, last⟩
    · cases same
  · rcases ran_latestBlocks asking lawful with ⟨history, _, head, _, same⟩ | ⟨error, failed, same⟩
    · cases same
    · cases same
      exact .failed failed

theorem lookedUp_getBlock {text : String} {outcome : Except HandlerError (Option StateBlock)}
    (noTag : CommonService.blockTagIsLatestOrPending (some text) = false)
    (ran : RanNoted (query (.getBlock (CommonService.hashOrBlockNumber text))).run steps outcome)
    (lawful : ∀ step ∈ steps, step.Lawful) : LookedUp steps (some text) outcome := by
  obtain ⟨history, rfl⟩ := ranNoted_query ran
  cases outcome with
  | error error => exact .failed ⟨_, history, List.mem_cons_self⟩
  | ok block =>
    have same : block = history.blockOf (CommonService.hashOrBlockNumber text) :=
      lawful _ List.mem_cons_self block rfl
    cases found : block with
    | none =>
      rw [found] at same
      exact .missing ⟨text, rfl, .inr ⟨history, List.mem_cons_self, blockOf_eq_none same.symm⟩⟩
    | some block =>
      rw [found] at same
      obtain ⟨inside, named⟩ := blockOf_eq_some same.symm
      refine .found List.mem_cons_self inside ?_
      rw [Names, noTag, if_neg Bool.false_ne_true]
      exact ⟨text, rfl, named⟩

theorem LookedUp.mono {more : List ReadStep} (subset : steps ⊆ more)
    {outcome : Except HandlerError (Option StateBlock)} (lookedUp : LookedUp steps param outcome) :
    LookedUp more param outcome := by
  cases lookedUp with
  | found member inside named => exact .found (List.map_subset Prod.snd subset member) inside (named.mono subset)
  | missing missing => exact .missing (missing.mono subset)
  | failed failed => exact .failed (failed.mono subset)

private theorem lookedUp_numberedBlock {text : String} {blockNumber : Nat}
    {outcome : Except HandlerError (Option StateBlock)}
    (noTag : CommonService.blockTagIsLatestOrPending (some text) = false)
    (numbered : CommonService.hashOrBlockNumber text = .number (some blockNumber))
    (ran : RanNoted (CommonService.numberedBlock maxBlockRange text blockNumber).run steps outcome)
    (lawful : ∀ step ∈ steps, step.Lawful) : LookedUp steps (some text) outcome := by
  rcases ranNoted_bindExcept_iff.mp ran with ⟨asked, rest, blocks, rfl, asking, following⟩ | ⟨error, rfl, asking⟩
  · obtain ⟨lawfulAsked, lawfulRest⟩ := List.forall_mem_append.mp lawful
    rcases ran_latestBlocks asking lawfulAsked with ⟨history, member, head, last, same⟩ | ⟨error, _, same⟩
    · cases same
      dsimp only at following
      split at following
      next far =>
        obtain ⟨rfl, rfl⟩ := ranNoted_done_iff.mp following
        refine .missing ⟨text, rfl, .inr ⟨history, ?_, ?_⟩⟩
        · rw [List.append_nil]
          exact member
        · intro block present named
          rw [numbered, HashOrBlockNumber.Names] at named
          have le := number_le_head last present
          have own := Option.some.inj named
          omega
      next near => exact (lookedUp_getBlock noTag following lawfulRest).mono (List.subset_append_right _ _)
    · cases same
  · rcases ran_latestBlocks asking lawful with ⟨history, _, head, _, same⟩ | ⟨error, failed, same⟩
    · cases same
    · cases same
      exact .failed failed

private theorem toNumber_tag {tag : String} (tagged : tag = "earliest") : CommonService.toNumber tag = none := by
  rw [tagged]
  decide +kernel

theorem hashOrBlockNumber_of_short {text : String} {blockNumber : Nat}
    (short : (if text.length < 32 then CommonService.toNumber text else none) = some blockNumber) :
    CommonService.hashOrBlockNumber text = .number (some blockNumber) := by
  split at short
  next below =>
    rw [CommonService.hashOrBlockNumber, if_neg, if_pos below, short]
    intro tagged
    rw [toNumber_tag tagged] at short
    cases short
  next => cases short

/-- The empty number is none. -/
theorem not_named_emptyHex (block : StateBlock) : ¬ (CommonService.hashOrBlockNumber EMPTY_HEX).Names block := by
  have none : CommonService.hashOrBlockNumber EMPTY_HEX = .number none := by decide +kernel
  rw [none]
  intro named
  cases named

theorem lookedUp_ran {returnLatest : Bool} {outcome : Except HandlerError (Option StateBlock)}
    (wanted : (!returnLatest && CommonService.blockTagIsLatestOrPending param) = false)
    (ran : RanNoted (CommonService.getHistoricalBlockResponse maxBlockRange param returnLatest).run steps outcome)
    (lawful : ∀ step ∈ steps, step.Lawful) : LookedUp steps param outcome := by
  unfold CommonService.getHistoricalBlockResponse at ran
  rw [wanted, if_neg Bool.false_ne_true] at ran
  cases param with
  | none => exact lookedUp_head rfl ran lawful
  | some text =>
    dsimp only at ran
    split at ran
    next empty =>
      obtain ⟨rfl, rfl⟩ := ranNoted_done_iff.mp ran
      refine .missing ⟨text, rfl, .inl ?_⟩
      rw [empty]
      exact not_named_emptyHex
    next =>
      split at ran
      next isHead => exact lookedUp_head isHead ran lawful
      next notHead =>
        have noTag := Bool.eq_false_iff.mpr notHead
        split at ran
        next blockNumber short =>
          exact lookedUp_numberedBlock noTag (hashOrBlockNumber_of_short short) ran lawful
        next => exact lookedUp_getBlock noTag ran lawful

end Runs

/-- A request for the state at a block. -/
inductive StateRequest where
  | storageAt (address slot : String) (block : Option String)
  | code (address : String) (block : Option String)
  deriving Repr, DecidableEq

def StateRequest.serve (maxBlockRange : Nat) : StateRequest → Reading (Option String)
  | .storageAt address slot block => do return some (← StateReads.getStorageAt maxBlockRange address slot block)
  | .code address block => StateReads.getCode maxBlockRange address block

/-- The answer is what the history has for the end of the block, except that a contract which was
created so shortly after it that the timestamps are one double is there already. -/
inductive ReadsHistory (steps : List ReadStep) (final : StateHistory) : StateRequest → Option String → Prop where
  | storage {address slot : String} {param : Option String} {block : StateBlock} (named : Names steps param block)
      (inside : block ∈ final.blocks) :
      ReadsHistory steps final (.storageAt address slot param) (some (final.storageAfter block address slot))
  | precompile {param : Option String} :
      ReadsHistory steps final (.code HTS_ADDRESS param) (some INVALID_EVM_INSTRUCTION)
  | contract {address : String} {param code : Option String} {block : StateBlock} {entity : ContractEntity}
      (named : Names steps param block) (inside : block ∈ final.blocks)
      (known : final.contracts address = some entity)
      (read : code = final.codeAfter block address ∨ block.timestampTo < entity.createdTimestamp ∧
        timestampToNumber entity.createdTimestamp = timestampToNumber block.timestampTo ∧
        code = entity.runtimeBytecode) : ReadsHistory steps final (.code address param) code
  | token {address : String} {param code : Option String} {block : StateBlock} {entity : TokenEntity}
      (named : Names steps param block) (inside : block ∈ final.blocks) (known : final.tokens address = some entity)
      (read : code = some (if timestampToNumber block.timestampTo < timestampToNumber entity.createdTimestamp
        then EMPTY_HEX else CommonService.redirectBytecodeAddressReplace address)) :
      ReadsHistory steps final (.code address param) code
  | unresolved {address : String} {param : Option String} {history : StateHistory}
      (absent : ((⟨.resolveEntityType address, .ok none⟩, history) : ReadStep) ∈ steps) :
      ReadsHistory steps final (.code address param) (some EMPTY_HEX)
  | account {address : String} {param : Option String} {history : StateHistory} {createdTimestamp : Option Nat}
      (other : ((⟨.resolveEntityType address, .ok (some (.account createdTimestamp))⟩, history) : ReadStep) ∈ steps) :
      ReadsHistory steps final (.code address param) (some EMPTY_HEX)
  | missing {address : String} {param : Option String} (missing : Missing steps param) :
      ReadsHistory steps final (.code address param) (some EMPTY_HEX)

/-- Why a request fails. -/
inductive FailsOn (steps : List ReadStep) : StateRequest → HandlerError → Prop where
  | invalid {address : String} {param : Option String}
      (invalid : Relay.CommonService.isBlockParamValid param = false) :
      FailsOn steps (.code address param) (.jsonRpc (StateReads.UNKNOWN_BLOCK
        s!"The value passed is not a valid blockHash/blockNumber/blockTag value: {StateReads.paramText param}"))
  | missing {address slot : String} {param : Option String} (missing : Missing steps param) :
      FailsOn steps (.storageAt address slot param)
        (.jsonRpc (StateReads.RESOURCE_NOT_FOUND s!"block '{StateReads.paramText param}'."))
  | failed {request : StateRequest} {error : HandlerError} (failed : Failed steps error) : FailsOn steps request error
  | handled {address slot : String} {param : Option String} {error : HandlerError} (failed : Failed steps error) :
      FailsOn steps (.storageAt address slot param) (CommonService.genericErrorHandler error)

/-- A request is answered from the history, or fails for a reason. -/
def Settles (steps : List ReadStep) (final : StateHistory) (request : StateRequest) :
    Except HandlerError (Option String) → Prop
  | .ok answer => ReadsHistory steps final request answer
  | .error error => FailsOn steps request error

section Requests
variable {steps : List ReadStep} {param : Option String} {final : StateHistory} {maxBlockRange : Nat}
  {address slot : String}

theorem StateHistory.Grows.mem {earlier later : StateHistory} (grows : earlier.Grows later) {block : StateBlock}
    (inside : block ∈ earlier.blocks) : block ∈ later.blocks :=
  grows.blocks.subset inside

theorem ranNoted_adapt_query {op : ReadOp} {handler : HandlerError → HandlerError}
    {outcome : Except HandlerError op.Value}
    (ran : RanNoted (ExceptT.adapt handler (query op)).run steps outcome) :
    ∃ answer history, steps = [(⟨op, answer⟩, history)] ∧ outcome = answer.mapError handler := by
  obtain ⟨answer, history, others, rfl, ended⟩ := ranNoted_call_iff.mp ran
  obtain ⟨rfl, rfl⟩ := ranNoted_done_iff.mp ended
  exact ⟨answer, history, rfl, rfl⟩

/-- The value that is answered, from the history at the time of the query. -/
theorem ran_stateQuery (timestamp : Option Nat) {outcome : Except HandlerError String}
    (ran : RanNoted (ExceptT.adapt CommonService.genericErrorHandler
      (query (.getContractStateByAddressAndSlot address slot timestamp)) >>= fun response =>
        pure (((response.getD []).head?).getD ZERO_HEX_32_BYTE) : Reading String).run steps outcome)
    (lawful : ∀ step ∈ steps, step.Lawful) :
    (∃ history, seen steps = [history] ∧
      outcome = .ok ((history.valueOf address slot timestamp).getD ZERO_HEX_32_BYTE)) ∨
    ∃ error, Failed steps error ∧ outcome = .error (CommonService.genericErrorHandler error) := by
  rcases ranNoted_bindExcept_iff.mp ran with ⟨asked, rest, response, rfl, asking, following⟩ | ⟨error, rfl, asking⟩
  · obtain ⟨rfl, rfl⟩ := ranNoted_done_iff.mp following
    obtain ⟨answer, history, rfl, same⟩ := ranNoted_adapt_query asking
    cases answer with
    | error error => cases same
    | ok state =>
      cases same
      refine .inl ⟨history, rfl, ?_⟩
      have read : (response.getD []).head? = history.valueOf address slot timestamp :=
        lawful _ List.mem_cons_self response rfl
      rw [← read]
  · obtain ⟨answer, history, rfl, same⟩ := ranNoted_adapt_query asking
    cases answer with
    | error error =>
      cases same
      exact .inr ⟨error, ⟨_, history, List.mem_cons_self⟩, rfl⟩
    | ok state => cases same

/-- Without a block the storage is read as it is now, which is how it is at the end of the head. -/
theorem settles_now {outcome : Except HandlerError String}
    (isHead : CommonService.blockTagIsLatestOrPending param = true)
    (ran : RanNoted (StateReads.getStorageAt maxBlockRange address slot param).run steps outcome)
    (lawful : ∀ step ∈ steps, step.Lawful) (upTo : ∀ history ∈ seen steps, history.Grows final) :
    Settles steps final (.storageAt address slot param) (outcome.map some) := by
  have skipped : CommonService.getHistoricalBlockResponse maxBlockRange param false = pure none := by
    unfold CommonService.getHistoricalBlockResponse
    rw [isHead]
    rfl
  rw [StateReads.getStorageAt, skipped, pure_bind, isHead] at ran
  rcases ran_stateQuery none ran lawful with ⟨history, only, rfl⟩ | ⟨error, failed, rfl⟩
  · have member : history ∈ seen steps := only ▸ List.mem_cons_self
    have grows := upTo history member
    cases last : history.blocks.getLast? with
    | none => exact absurd (List.getLast?_eq_none_iff.mp last) history.started
    | some head =>
      have inside := List.mem_of_getLast? last
      have named : Names steps param head := by
        rw [Names, if_pos isHead]
        exact ⟨history, member, last⟩
      have read : ReadsHistory steps final (.storageAt address slot param) _ := .storage named (grows.mem inside)
      rw [grows.storageAfter inside, StateHistory.storageAfter_head last] at read
      exact read
  · exact .handled failed

/-- The storage is read for the block that the parameter stands for. -/
theorem settles_getStorageAt {outcome : Except HandlerError String}
    (ran : RanNoted (StateReads.getStorageAt maxBlockRange address slot param).run steps outcome)
    (lawful : ∀ step ∈ steps, step.Lawful) (growing : (seen steps).Pairwise StateHistory.Grows)
    (upTo : ∀ history ∈ seen steps, history.Grows final) :
    Settles steps final (.storageAt address slot param) (outcome.map some) := by
  cases isHead : CommonService.blockTagIsLatestOrPending param with
  | true => exact settles_now isHead ran lawful upTo
  | false =>
    have wanted : (!false && CommonService.blockTagIsLatestOrPending param) = false := isHead
    rw [StateReads.getStorageAt, isHead] at ran
    rcases ranNoted_bindExcept_iff.mp ran with
      ⟨looked, rest, blockResponse, rfl, looking, following⟩ | ⟨error, rfl, looking⟩
    · obtain ⟨lawfulLooked, lawfulRest⟩ := List.forall_mem_append.mp lawful
      have lookedUp := lookedUp_ran wanted looking lawfulLooked
      cases lookedUp with
      | missing missing =>
        obtain ⟨rfl, rfl⟩ := ranNoted_done_iff.mp following
        exact .missing (missing.mono (List.subset_append_left _ _))
      | @found history block member inside named =>
        rcases ran_stateQuery (some block.timestampTo) following lawfulRest with
          ⟨later, only, rfl⟩ | ⟨error, failed, rfl⟩
        · rw [seen, List.map_append] at growing upTo
          have laterMember : later ∈ seen rest := only ▸ List.mem_cons_self
          have grows : history.Grows later := (List.pairwise_append.mp growing).2.2 history member later laterMember
          have toFinal := upTo later (List.mem_append_right _ laterMember)
          have present := grows.mem inside
          have read : ReadsHistory (looked ++ rest) final (.storageAt address slot param) _ :=
            .storage (named.mono (List.subset_append_left looked rest)) (toFinal.mem present)
          rw [toFinal.storageAfter present] at read
          exact read
        · exact .handled (failed.mono (List.subset_append_right _ _))
    · cases lookedUp_ran wanted looking lawful with
      | failed failed => exact .failed failed

theorem timestampToNumber_mono {timestamp other : Nat} (le : timestamp ≤ other) :
    timestampToNumber timestamp ≤ timestampToNumber other :=
  nearestDouble_mono (Nat.mul_le_mul_right _ le)

/-- The code of a contract is the one at the end of the block, up to the rounding of its timestamps. -/
theorem code_eq_codeAfter {block : StateBlock} {entity : ContractEntity}
    (known : final.contracts address = some entity) {code : Option String}
    (read : code = if StateReads.createdAfter (some entity.createdTimestamp) block.timestampTo then some EMPTY_HEX
      else entity.runtimeBytecode) :
    code = final.codeAfter block address ∨ block.timestampTo < entity.createdTimestamp ∧
      timestampToNumber entity.createdTimestamp = timestampToNumber block.timestampTo ∧
      code = entity.runtimeBytecode := by
  rw [StateHistory.codeAfter, known]
  rw [StateReads.createdAfter, Option.any_some] at read
  by_cases created : entity.createdTimestamp ≤ block.timestampTo
  · have le := timestampToNumber_mono created
    rw [if_neg (by simpa using le)] at read
    exact .inl (by simp [created, read])
  · by_cases rounded : timestampToNumber block.timestampTo < timestampToNumber entity.createdTimestamp
    · rw [if_pos (by simpa using rounded)] at read
      exact .inl (by simp [created, read])
    · rw [if_neg (by simpa using rounded)] at read
      have below := Nat.lt_of_not_le created
      exact .inr ⟨below, Nat.le_antisymm (Nat.le_of_not_lt rounded) (timestampToNumber_mono below.le), read⟩

private theorem code_of_created {created timestampTo : Nat} (code : String) :
    (if StateReads.createdAfter (some created) timestampTo then some EMPTY_HEX else some code) =
      some (if timestampToNumber timestampTo < timestampToNumber created then EMPTY_HEX else code) := by
  rw [StateReads.createdAfter, Option.any_some]
  by_cases later : timestampToNumber timestampTo < timestampToNumber created
  · rw [if_pos later, if_pos (decide_eq_true later)]
  · rw [if_neg later, if_neg fun isLater => later (of_decide_eq_true isLater)]

/-- The rest of `getCode` once the entity is known. -/
theorem settles_entityCode {entity : ResolvedEntity} {history : StateHistory}
    {outcome : Except HandlerError (Option String)}
    (resolved : ReadStep.Lawful (⟨.resolveEntityType address, .ok (some entity)⟩, history))
    (ran : RanNoted (StateReads.entityCode maxBlockRange address param entity).run steps outcome)
    (lawful : ∀ step ∈ steps, step.Lawful)
    (upTo : ∀ later ∈ seen ((⟨.resolveEntityType address, .ok (some entity)⟩, history) :: steps), later.Grows final) :
    Settles ((⟨.resolveEntityType address, .ok (some entity)⟩, history) :: steps) final (.code address param)
      outcome := by
  have toFinal := upTo history List.mem_cons_self
  rcases ranNoted_bindExcept_iff.mp ran with
    ⟨looked, rest, blockResponse, rfl, looking, following⟩ | ⟨error, rfl, looking⟩
  · obtain ⟨lawfulLooked, -⟩ := List.forall_mem_append.mp lawful
    have subset : looked ⊆ (⟨.resolveEntityType address, .ok (some entity)⟩, history) :: (looked ++ rest) :=
      List.Subset.trans (List.subset_append_left looked rest) (List.subset_cons_self _ _)
    cases lookedUp_ran rfl looking lawfulLooked with
    | missing missing =>
      obtain ⟨rfl, rfl⟩ := ranNoted_done_iff.mp following
      exact .missing (missing.mono subset)
    | @found seenThen block member inside named =>
      have present : block ∈ final.blocks :=
        (upTo seenThen (List.map_subset Prod.snd subset member)).mem inside
      have ended : outcome = .ok (if StateReads.createdAfter entity.createdTimestamp block.timestampTo
          then some EMPTY_HEX else StateReads.codeOf address entity) := by
        dsimp only at following
        split at following
        next later =>
          rw [if_pos later]
          exact (ranNoted_done_iff.mp following).2.symm
        next inTime =>
          rw [if_neg inTime]
          exact (ranNoted_done_iff.mp following).2.symm
      rw [ended]
      cases entity with
      | contract entity =>
        have known := toFinal.contracts address entity (resolved.1 entity rfl)
        exact .contract (named.mono subset) present known (code_eq_codeAfter known rfl)
      | token entity =>
        have known := toFinal.tokens address entity (resolved.2 entity rfl)
        exact .token (named.mono subset) present known (code_of_created _)
      | account createdTimestamp =>
        rw [StateReads.codeOf, ite_self]
        exact .account List.mem_cons_self
  · cases lookedUp_ran rfl looking lawful with
    | failed failed => exact .failed (failed.mono (List.subset_cons_self _ _))

private theorem settles_getCode {outcome : Except HandlerError (Option String)}
    (ran : RanNoted (StateReads.getCode maxBlockRange address param).run steps outcome)
    (lawful : ∀ step ∈ steps, step.Lawful) (upTo : ∀ history ∈ seen steps, history.Grows final) :
    Settles steps final (.code address param) outcome := by
  rw [StateReads.getCode] at ran
  cases valid : Relay.CommonService.isBlockParamValid param with
  | false =>
    rw [valid] at ran
    obtain ⟨rfl, rfl⟩ := ranNoted_done_iff.mp ran
    exact .invalid valid
  | true =>
    rw [valid, Bool.not_true, if_neg Bool.false_ne_true] at ran
    split at ran
    next precompile =>
      obtain ⟨rfl, rfl⟩ := ranNoted_done_iff.mp ran
      rw [precompile]
      exact .precompile
    next =>
      rcases ranNoted_bindExcept_iff.mp ran with
        ⟨asked, rest, result, rfl, asking, following⟩ | ⟨error, rfl, asking⟩
      · obtain ⟨history, rfl⟩ := ranNoted_query asking
        obtain ⟨lawfulAsked, lawfulRest⟩ := List.forall_mem_append.mp lawful
        have resolved := lawfulAsked _ List.mem_cons_self
        cases result with
        | none =>
          obtain ⟨rfl, rfl⟩ := ranNoted_done_iff.mp following
          exact .unresolved List.mem_cons_self
        | some entity =>
          exact settles_entityCode resolved following lawfulRest upTo
      · obtain ⟨history, rfl⟩ := ranNoted_query asking
        exact .failed ⟨_, history, List.mem_cons_self⟩

theorem reads_numbered {text answer : String} {number : Option Nat}
    (noTag : CommonService.blockTagIsLatestOrPending (some text) = false)
    (numbered : CommonService.hashOrBlockNumber text = .number number)
    (read : ReadsHistory steps final (.storageAt address slot (some text)) (some answer)) :
    ∃ block ∈ final.blocks, number = some block.number ∧ answer = final.storageAfter block address slot := by
  cases read with
  | storage named inside =>
    rw [Names, noTag, if_neg Bool.false_ne_true] at named
    obtain ⟨own, same, isBlock⟩ := named
    cases same
    rw [numbered] at isBlock
    exact ⟨_, inside, isBlock, rfl⟩

/-- A slot at a block with a number is read the same at all times. -/
theorem getStorageAt_stable {others : List ReadStep} {text answer other : String} {number : Option Nat}
    (noTag : CommonService.blockTagIsLatestOrPending (some text) = false)
    (numbered : CommonService.hashOrBlockNumber text = .number number)
    (ran : RanNoted (StateReads.getStorageAt maxBlockRange address slot (some text)).run steps (.ok answer))
    (lawful : ∀ step ∈ steps, step.Lawful) (growing : (seen steps).Pairwise StateHistory.Grows)
    (upTo : ∀ history ∈ seen steps, history.Grows final)
    (otherRan : RanNoted (StateReads.getStorageAt maxBlockRange address slot (some text)).run others (.ok other))
    (otherLawful : ∀ step ∈ others, step.Lawful) (otherGrowing : (seen others).Pairwise StateHistory.Grows)
    (otherUpTo : ∀ history ∈ seen others, history.Grows final) : answer = other := by
  have read : ReadsHistory steps final (.storageAt address slot (some text)) (some answer) :=
    settles_getStorageAt ran lawful growing upTo
  have otherRead : ReadsHistory others final (.storageAt address slot (some text)) (some other) :=
    settles_getStorageAt otherRan otherLawful otherGrowing otherUpTo
  obtain ⟨block, inside, rfl, rfl⟩ := reads_numbered noTag numbered read
  obtain ⟨otherBlock, otherInside, same, rfl⟩ := reads_numbered noTag numbered otherRead
  rw [StateHistory.block_of_number inside otherInside (Option.some.inj same)]

/-- Whatever is added meanwhile, a request is answered from the history that there is in the end. -/
theorem request_settles (maxBlockRange : Nat) (request : StateRequest) {outcome : Except HandlerError (Option String)}
    (ran : RanNoted (request.serve maxBlockRange).run steps outcome)
    (lawful : ∀ step ∈ steps, step.Lawful) (growing : (seen steps).Pairwise StateHistory.Grows)
    (upTo : ∀ history ∈ seen steps, history.Grows final) : Settles steps final request outcome := by
  cases request with
  | storageAt address slot block =>
    rcases ranNoted_bindExcept_iff.mp ran with ⟨read, rest, value, rfl, reading, ended⟩ | ⟨error, rfl, reading⟩
    · obtain ⟨rfl, rfl⟩ := ranNoted_done_iff.mp ended
      rw [List.append_nil] at lawful growing upTo ⊢
      exact settles_getStorageAt reading lawful growing upTo
    · exact settles_getStorageAt reading lawful growing upTo
  | code address block => exact settles_getCode ran lawful upTo

end Requests

section Instance

def firstBlock : StateBlock :=
  { number := 0, hash := "0xa0", timestampFrom := 0, timestampTo := 9, spans := by decide }

def nextBlock : StateBlock :=
  { number := 1, hash := "0xa1", timestampFrom := 10, timestampTo := 19, spans := by decide }

/-- One block, in which the slot is set. -/
def youngHistory : StateHistory where
  blocks := [firstBlock]
  started := List.cons_ne_nil _ _
  numbered number block found := by
    rw [List.getElem?_singleton] at found
    split at found
    next same =>
      cases found
      exact same.symm
    next => cases found
  ordered := List.pairwise_singleton _ _
  storage := [⟨5, ("0xc", "0x0"), "0x01"⟩]
  written write member := by
    rw [List.mem_singleton.mp member]
    exact ⟨firstBlock, List.mem_cons_self, by decide⟩
  contracts _ := none
  tokens _ := none

theorem firstBlock_before : ∀ earlier ∈ youngHistory.blocks, earlier.timestampTo < nextBlock.timestampFrom := by
  intro earlier present
  rw [List.mem_singleton.mp present]
  decide

/-- The slot is set again in the next block. -/
def grownHistory : StateHistory :=
  youngHistory.addBlock nextBlock [⟨15, ("0xc", "0x0"), "0x02"⟩] rfl firstBlock_before (by decide)

def readSteps : List ReadStep :=
  [(⟨.getLatestBlock, .ok (some [firstBlock])⟩, youngHistory),
   (⟨.getBlock (.number (some 0)), .ok (some firstBlock)⟩, youngHistory),
   (⟨.getContractStateByAddressAndSlot "0xc" "0x0" (some 9), .ok (some ["0x01"])⟩, grownHistory)]

private theorem readSteps_ran :
    RanNoted (StateRequest.serve 5 (.storageAt "0xc" "0x0" (some "0x0"))).run readSteps (.ok (some "0x01")) := by
  have short : (if "0x0".length < 32 then CommonService.toNumber "0x0" else none) = some 0 := by decide +kernel
  have asked : CommonService.hashOrBlockNumber "0x0" = .number (some 0) := hashOrBlockNumber_of_short short
  have looking : RanNoted (CommonService.numberedBlock 5 "0x0" 0).run (readSteps.take 2) (.ok (some firstBlock)) := by
    rw [CommonService.numberedBlock, asked]
    exact .call (.call .done)
  have lookup : CommonService.getHistoricalBlockResponse 5 (some "0x0") false =
      CommonService.numberedBlock 5 "0x0" 0 := by
    have noTag : CommonService.blockTagIsLatestOrPending (some "0x0") = false := by decide
    unfold CommonService.getHistoricalBlockResponse
    rw [noTag]
    dsimp only
    rw [short]
    rfl
  have reading : RanNoted (StateReads.getStorageAt 5 "0xc" "0x0" (some "0x0")).run readSteps (.ok "0x01") := by
    rw [StateReads.getStorageAt, lookup]
    exact ranNoted_bindExcept_iff.mpr (.inl ⟨_, readSteps.drop 2, some firstBlock, rfl, looking, .call .done⟩)
  exact ranNoted_bindExcept_iff.mpr (.inl ⟨_, [], "0x01", (List.append_nil _).symm, reading, .done⟩)

private theorem lawful_readSteps : ∀ step ∈ readSteps, step.Lawful := by
  intro step member
  simp only [readSteps, List.mem_cons, List.not_mem_nil, or_false] at member
  rcases member with rfl | rfl | rfl
  · intro blocks same
    cases same
    rfl
  · intro block same
    cases same
    rfl
  · intro state same
    cases same
    rfl

theorem youngHistory_grows : youngHistory.Grows grownHistory :=
  StateHistory.grows_addBlock rfl firstBlock_before (by decide)

private theorem growing_readSteps : (seen readSteps).Pairwise StateHistory.Grows := by
  have stays : youngHistory.Grows youngHistory := .refl _
  have grows := youngHistory_grows
  simp [seen, readSteps, stays, grows]

private theorem readSteps_before : ∀ history ∈ seen readSteps, history.Grows grownHistory := by
  have stays : grownHistory.Grows grownHistory := .refl _
  have grows := youngHistory_grows
  simp [seen, readSteps, stays, grows]

/-- The slot is set again before it is read, and its value in the first block is answered. -/
theorem request_settles_grown :
    grownHistory.valueOf "0xc" "0x0" none = some "0x02" ∧
      Settles readSteps grownHistory (.storageAt "0xc" "0x0" (some "0x0")) (.ok (some "0x01")) :=
  ⟨by decide, request_settles 5 _ readSteps_ran lawful_readSteps growing_readSteps readSteps_before⟩

end Instance

end HieroRelay.Contracts
