import HieroRelay.Accounts.BalanceService
import HieroRelay.Blocks.Answers
import HieroRelay.Contracts.StateReads
import HieroRelay.Lib.Alike

/-! The common service is modelled with the queries of its callers: the filters, the blocks, the
balances and the state of contracts each have their own. Its lookups of blocks are the same in all
of them, which is shown against those of the block service. -/

namespace HieroRelay.Relay.BlockLookups

open HieroRelay.Blocks (BlockHashOrNumber MirrorOp RelayError respond)
open HieroRelay.Filters (BlockParam FilterError FilterOp)
open HieroRelay.Lib

/-- What the callers read of a block. -/
structure BlockFields where
  number : Nat
  hash : String
  timestampFrom : Nat
  timestampTo : Nat

def mirrorFields (block : Blocks.MirrorNodeBlock) : BlockFields :=
  ⟨block.number, block.hash, block.timestampFrom, block.timestampTo⟩

/-- A block of another service is the one of the block service. -/
def SameBlock {Block : Type} (fields : Block → BlockFields) (block : Block) (other : Blocks.MirrorNodeBlock) : Prop :=
  fields block = mirrorFields other

/-! ### The filters -/

section Filters

def filterFields (block : Filters.MirrorNodeBlock) : BlockFields :=
  ⟨block.number, block.hash, block.timestampFrom, block.timestampTo⟩

inductive SameError : FilterError → RelayError → Prop where
  | latest : SameError .COULD_NOT_RETRIEVE_LATEST_BLOCK .COULD_NOT_RETRIEVE_LATEST_BLOCK
  | missing : SameError .MISSING_FROM_BLOCK_PARAM .MISSING_FROM_BLOCK_PARAM
  | invalid : SameError .INVALID_BLOCK_RANGE .INVALID_BLOCK_RANGE
  | timestamps : SameError .TIMESTAMP_RANGE_TOO_LARGE .TIMESTAMP_RANGE_TOO_LARGE
  | blocks : SameError .RANGE_TOO_LARGE .RANGE_TOO_LARGE
  | noHead : SameError .typeError (.INTERNAL_ERROR .missingBlock)
  | failed : SameError .mirrorNode .mirrorNode

def filterQueries : Matching FilterOp.Answer MirrorOp.Answer where
  operations
    | .getLatestBlock, .getLatestBlock => True
    | .getBlock number, .getBlockByNumber other => number = other
    | _, _ => False
  answers
    | .getLatestBlock, .getLatestBlock => Option.Rel (List.Forall₂ (SameBlock filterFields))
    | .getBlock _, .getBlockByNumber _ => Option.Rel (Option.Rel (SameBlock filterFields))
    | _, _ => fun _ _ => False

variable {Value OtherValue : Type} {values : Value → OtherValue → Prop}

theorem alike_answered {answer : Option Value} {other : Option OtherValue} (same : Option.Rel values answer other) :
    Alike filterQueries (Outcomes SameError values) (Filters.answered answer).run (Blocks.answered other).run := by
  cases same with
  | some same => exact .done (.ok same)
  | none => exact .done (.error .failed)

theorem alike_getLatestBlock :
    Alike filterQueries (Outcomes SameError (List.Forall₂ (SameBlock filterFields)))
      Filters.MirrorNodeClient.getLatestBlock.run Blocks.MirrorNodeClient.getLatestBlock.run :=
  .call trivial fun _ _ same => alike_answered same

theorem alike_getBlock (number : Nat) :
    Alike filterQueries (Outcomes SameError (Option.Rel (SameBlock filterFields)))
      (Filters.MirrorNodeClient.getBlock number).run (Blocks.MirrorNodeClient.getBlockByNumber number).run :=
  .call rfl fun _ _ same => alike_answered same

private theorem alike_getLatestBlockNumber :
    Alike filterQueries (Outcomes SameError Eq) Filters.CommonService.getLatestBlockNumber.run
      Blocks.CommonService.getLatestBlockNumber.run := by
  apply Alike.bindExcept alike_getLatestBlock
  rintro _ _ (_ | ⟨same, _⟩)
  · exact .done (.error .latest)
  · exact .done (.ok (congrArg Filters.numberTo0x (congrArg BlockFields.number same)))

variable {service : Filters.CommonService} {relay : Blocks.Relay}

theorem alike_getHistoricalBlockResponse (range : service.maxBlockRange = relay.maxBlockRange) (block : BlockParam) :
    Alike filterQueries (Outcomes SameError (Option.Rel (SameBlock filterFields)))
      (service.getHistoricalBlockResponse block).run
      (Blocks.CommonService.getHistoricalBlockResponse relay (.block block)).run := by
  cases block with
  | hex number =>
    apply Alike.bindExcept alike_getLatestBlock
    rintro _ _ (_ | @⟨head, otherHead, _, _, same, _⟩)
    · exact .done (.error .noHead)
    · have sameNumber : head.number = otherHead.number := congrArg BlockFields.number same
      dsimp only
      rw [sameNumber, range]
      split
      · exact .done (.ok .none)
      · exact alike_getBlock number.value
  | number value => exact alike_getBlock value
  | earliest => exact alike_getBlock 0
  | latest | pending | safe | finalized =>
    apply Alike.bindExcept alike_getLatestBlock
    rintro _ _ (_ | ⟨same, _⟩)
    · exact .done (.ok .none)
    · exact .done (.ok (.some same))

private theorem alike_checkMissingFromBlock (fromBlock toBlock : BlockParam) :
    Alike filterQueries (Outcomes SameError Eq) (Filters.CommonService.checkMissingFromBlock fromBlock toBlock).run
      (Blocks.CommonService.checkMissingFromBlock fromBlock toBlock).run := by
  unfold Filters.CommonService.checkMissingFromBlock Blocks.CommonService.checkMissingFromBlock
  split
  · apply Alike.bindExcept alike_getLatestBlockNumber
    rintro latestBlockNumber _ rfl
    split
    · exact .done (.error .missing)
    · exact .done (.ok rfl)
  · exact .done (.ok rfl)

/-- The ranges of the filters and of `eth_getLogs` are checked alike. -/
theorem alike_validateBlockRange (range : service.maxBlockRange = relay.maxBlockRange)
    (limit : service.blockRangeLimit = relay.blockRangeLimit)
    (timestamps : service.exceedsTimestampRange = relay.exceedsTimestampRange) (fromBlock toBlock : BlockParam)
    (address : Filters.AddressParam) :
    Alike filterQueries (Outcomes SameError Eq)
      (service.validateBlockRangeAndAddTimestampToParams fromBlock toBlock address).run
      (Blocks.CommonService.validateBlockRangeAndAddTimestampToParams relay fromBlock toBlock address).run := by
  apply Alike.bindExcept (alike_checkMissingFromBlock fromBlock toBlock)
  rintro _ _ -
  apply Alike.bindExcept (alike_getHistoricalBlockResponse range fromBlock.orLatest)
  rintro _ _ (⟨sameFrom⟩ | _)
  · rename_i fromFound otherFrom
    have fromNumber : fromFound.number = otherFrom.number := congrArg BlockFields.number sameFrom
    have start : fromFound.timestampFrom = otherFrom.timestampFrom := congrArg BlockFields.timestampFrom sameFrom
    have fromEnd : fromFound.timestampTo = otherFrom.timestampTo := congrArg BlockFields.timestampTo sameFrom
    dsimp only
    split
    · rw [start, fromEnd]
      exact .done (.ok rfl)
    · apply Alike.bindExcept (alike_getHistoricalBlockResponse range toBlock.orLatest)
      rintro _ _ (⟨sameTo⟩ | _)
      · rename_i toFound otherTo
        have toNumber : toFound.number = otherTo.number := congrArg BlockFields.number sameTo
        have toEnd : toFound.timestampTo = otherTo.timestampTo := congrArg BlockFields.timestampTo sameTo
        dsimp only
        rw [start, toEnd, fromNumber, toNumber, limit, timestamps]
        split_ifs
        · exact .done (.error .timestamps)
        · exact .done (.error .invalid)
        · exact .done (.error .blocks)
        · exact .done (.ok rfl)
      · exact .done (.ok rfl)
  · exact .done (.ok rfl)

/-- Over a chain and a mirror node that know the same blocks the checks have the same outcome. -/
theorem outcomes_validateBlockRange (range : service.maxBlockRange = relay.maxBlockRange)
    (limit : service.blockRangeLimit = relay.blockRangeLimit)
    (timestamps : service.exceedsTimestampRange = relay.exceedsTimestampRange) {chain : Filters.Chain}
    {logs : Filters.MirrorNode} {node : Blocks.MirrorNode}
    (agree : ∀ op other, filterQueries.operations op other →
      filterQueries.answers op other (chain.snapshot.answer logs op) (node other))
    (fromBlock toBlock : BlockParam) (address : Filters.AddressParam) :
    Outcomes SameError Eq
      (chain.outcome logs (service.validateBlockRangeAndAddTimestampToParams fromBlock toBlock address))
      (respond node
        (Blocks.CommonService.validateBlockRangeAndAddTimestampToParams relay fromBlock toBlock address)) :=
  (alike_validateBlockRange range limit timestamps fromBlock toBlock address).answeredBy agree

end Filters

/-! ### The services whose queries have errors of their own -/

/-- A query that fails has an error on one side, and no answer on the other one. -/
inductive Answered {Error Value Other : Type} (values : Value → Other → Prop) :
    Except Error Value → Option Other → Prop where
  | ok {value : Value} {other : Other} (same : values value other) : Answered values (.ok value) (some other)
  | error (error : Error) : Answered values (.error error) none

/-- The blocks are there. -/
def Listed {Block : Type} (fields : Block → BlockFields) (found : Option (List Block))
    (others : List Blocks.MirrorNodeBlock) : Prop :=
  ∃ blocks, found = some blocks ∧ List.Forall₂ (SameBlock fields) blocks others

section Balances

open Accounts.Balances

def balanceFields (block : MirrorBlock) : BlockFields :=
  ⟨block.number, block.hash, block.timestampFrom.nanos, block.timestampTo.nanos⟩

inductive SameBalanceError : BalanceError → RelayError → Prop where
  | failed (error : Mirror.MirrorError) : SameBalanceError (.ofMirror error) .mirrorNode
  | internal (error : Blocks.InternalError) : SameBalanceError (.other error.message) (.INTERNAL_ERROR error)

def balanceQueries : Matching BalanceOp.Answer MirrorOp.Answer where
  operations
    | .getLatestBlock, .getLatestBlock => True
    | .getBlock number, .getBlockByNumber other => number = other
    | .getBlockByHash hash, .getBlockByHash other => hash = other
    | _, _ => False
  answers
    | .getLatestBlock, .getLatestBlock => Answered (Listed balanceFields)
    | .getBlock _, .getBlockByNumber _ => Answered (Option.Rel (SameBlock balanceFields))
    | .getBlockByHash _, .getBlockByHash _ => Answered (Option.Rel (SameBlock balanceFields))
    | _, _ => fun _ _ => False

/-- The parameter of `eth_getBalance` as the one of the block methods. -/
def hashOrNumber : Accounts.Balances.BlockParam → BlockHashOrNumber
  | .absent | .latest => .block .latest
  | .pending => .block .pending
  | .safe => .block .safe
  | .finalized => .block .finalized
  | .earliest => .block .earliest
  | .number number => .block (.hex number)
  | .hash hash => .hash hash

variable {Value OtherValue : Type} {values : Value → OtherValue → Prop}

theorem alike_balance_answered {answer : Except Mirror.MirrorError Value} {other : Option OtherValue}
    (same : Answered values answer other) :
    Alike balanceQueries (Outcomes SameBalanceError values) (Accounts.Balances.answered answer).run
      (Blocks.answered other).run := by
  cases same with
  | ok same => exact .done (.ok same)
  | error error => exact .done (.error (.failed error))

theorem alike_balance_getLatestBlock :
    Alike balanceQueries (Outcomes SameBalanceError (Listed balanceFields))
      (Accounts.Balances.await .getLatestBlock >>= Accounts.Balances.answered).run
      Blocks.MirrorNodeClient.getLatestBlock.run :=
  .call trivial fun _ _ same => alike_balance_answered same

/-- The balances look their block up as the block service does; a hash has more than two characters. -/
theorem alike_balance_getHistoricalBlockResponse (relay : Blocks.Relay) (block : Accounts.Balances.BlockParam)
    (notEmpty : block ≠ .hash "0x") :
    Alike balanceQueries (Outcomes SameBalanceError (Option.Rel (SameBlock balanceFields)))
      (Accounts.Balances.CommonService.getHistoricalBlockResponse relay.maxBlockRange block).run
      (Blocks.CommonService.getHistoricalBlockResponse relay (hashOrNumber block)).run := by
  cases block with
  | number number =>
    apply Alike.bindExcept alike_balance_getLatestBlock
    rintro _ _ ⟨_, rfl, _ | @⟨head, otherHead, _, _, same, _⟩⟩
    · exact .done (.error (.internal .missingBlock))
    · have sameNumber : head.number = otherHead.number := congrArg BlockFields.number same
      dsimp only [hashOrNumber, Blocks.CommonService.getHistoricalBlockResponse, CommonService.firstBlock]
      rw [pure_bind, sameNumber]
      split
      · exact .done (.ok .none)
      · exact .call rfl fun _ _ same => alike_balance_answered same
  | hash hash =>
    have short : hash ≠ "0x" := fun same => notEmpty (congrArg _ same)
    rw [hashOrNumber, Blocks.CommonService.getHistoricalBlockResponse]
    · exact .call rfl fun _ _ same => alike_balance_answered same
    · exact short
  | earliest => exact .call rfl fun _ _ same => alike_balance_answered same
  | absent | latest | pending | safe | finalized =>
    apply Alike.bindExcept alike_balance_getLatestBlock
    rintro _ _ ⟨_, rfl, _ | ⟨same, _⟩⟩
    · exact .done (.ok .none)
    · exact .done (.ok (.some same))

end Balances

/-! ### The state of contracts -/

section States

open Contracts

def stateFields (block : StateBlock) : BlockFields :=
  ⟨block.number, block.hash, block.timestampFrom, block.timestampTo⟩

inductive SameReadError : HandlerError → RelayError → Prop where
  | failed (error : HandlerError) : SameReadError error .mirrorNode
  | internal (error : Blocks.InternalError) : SameReadError (.other error.message []) (.INTERNAL_ERROR error)

def stateQueries : Matching ReadOp.Answer MirrorOp.Answer where
  operations
    | .getLatestBlock, .getLatestBlock => True
    | .getBlock (.number number), .getBlockByNumber other => number = some other
    | .getBlock (.hash hash), .getBlockByHash other => hash = other
    | _, _ => False
  answers
    | .getLatestBlock, .getLatestBlock => Answered (Listed stateFields)
    | .getBlock (.number _), .getBlockByNumber _ => Answered (Option.Rel (SameBlock stateFields))
    | .getBlock (.hash _), .getBlockByHash _ => Answered (Option.Rel (SameBlock stateFields))
    | _, _ => fun _ _ => False

/-- What a parameter stands for, as the other services read it: a text that is shorter than a hash is a
tag or a number. -/
inductive StandsFor : Option String → BlockHashOrNumber → Prop where
  | absent : StandsFor none (.block .latest)
  | latest : StandsFor (some "latest") (.block .latest)
  | pending : StandsFor (some "pending") (.block .pending)
  | safe : StandsFor (some "safe") (.block .safe)
  | finalized : StandsFor (some "finalized") (.block .finalized)
  | earliest : StandsFor (some "earliest") (.block .earliest)
  | empty : StandsFor (some "0x") (.hash "0x")
  | number {text : String} {value : Nat} (short : text.length < 32)
      (reads : CommonService.toNumber text = some value) : StandsFor (some text) (.block (.hex { value }))
  | hash {text : String} (long : 32 ≤ text.length) : StandsFor (some text) (.hash text)

theorem alike_state_answered {Value OtherValue : Type} {values : Value → OtherValue → Prop}
    {answer : Except HandlerError Value} {other : Option OtherValue} (same : Answered values answer other) :
    Alike stateQueries (Outcomes SameReadError values) (.done answer) (Blocks.answered other).run := by
  cases same with
  | ok same => exact .done (.ok same)
  | error error => exact .done (.error (.failed error))

theorem alike_latestBlocks :
    Alike stateQueries (Outcomes SameReadError (List.Forall₂ (SameBlock stateFields))) CommonService.latestBlocks.run
      Blocks.MirrorNodeClient.getLatestBlock.run := by
  refine .call trivial ?_
  rintro _ _ (⟨⟨blocks, rfl, same⟩⟩ | error)
  · exact .done (.ok same)
  · exact .done (.error (.failed error))

private theorem alike_query_number {asked : HashOrBlockNumber} {value : Nat} (isNumber : asked = .number (some value)) :
    Alike stateQueries (Outcomes SameReadError (Option.Rel (SameBlock stateFields))) (query (.getBlock asked)).run
      (Blocks.MirrorNodeClient.getBlockByNumber value).run := by
  subst isNumber
  exact .call rfl fun _ _ same => alike_state_answered same

private theorem alike_query_hash {asked : HashOrBlockNumber} {text : String} (isHash : asked = .hash text) :
    Alike stateQueries (Outcomes SameReadError (Option.Rel (SameBlock stateFields))) (query (.getBlock asked)).run
      (Blocks.MirrorNodeClient.getBlockByHash text).run := by
  subst isHash
  exact .call rfl fun _ _ same => alike_state_answered same

/-- A text that is none of the tags, and not empty. -/
def NoTag (text : String) : Prop :=
  text ≠ EMPTY_HEX ∧ CommonService.blockTagIsLatestOrPending (some text) = false ∧ text ≠ "earliest"

theorem noTag_of_apart {text : String} (apart : ∀ tag ∈ ["0x", "latest", "pending", "safe", "finalized", "earliest"],
    text ≠ tag) : NoTag text := by
  simp only [List.forall_mem_cons] at apart
  obtain ⟨empty, latest, pending, safe, finalized, earliest, -⟩ := apart
  refine ⟨empty, ?_, earliest⟩
  simp [CommonService.blockTagIsLatestOrPending, latest, pending, safe, finalized]

private theorem noTag_of_long {text : String} (long : 32 ≤ text.length) : NoTag text := by
  apply noTag_of_apart
  rintro tag tagged rfl
  have short : ∀ tag ∈ ["0x", "latest", "pending", "safe", "finalized", "earliest"], tag.length < 32 := by decide
  exact absurd (short text tagged) (Nat.not_lt.mpr long)

private theorem noTag_of_number {text : String} {value : Nat} (reads : CommonService.toNumber text = some value) :
    NoTag text := by
  apply noTag_of_apart
  rintro tag tagged rfl
  have unread : ∀ tag ∈ ["0x", "latest", "pending", "safe", "finalized", "earliest"],
    CommonService.toNumber tag = none := by decide
  rw [unread text tagged] at reads
  cases reads

/-- `eth_getStorageAt` and `eth_getCode` look their block up as the block service does. -/
theorem alike_state_getHistoricalBlockResponse (relay : Blocks.Relay) {param : Option String}
    {block : BlockHashOrNumber} (stands : StandsFor param block) :
    Alike stateQueries (Outcomes SameReadError (Option.Rel (SameBlock stateFields)))
      (CommonService.getHistoricalBlockResponse relay.maxBlockRange param true).run
      (Blocks.CommonService.getHistoricalBlockResponse relay block).run := by
  cases stands with
  | empty => exact .done (.ok .none)
  | @number text value short reads =>
    obtain ⟨notEmpty, notHead, notFirst⟩ := noTag_of_number reads
    have asked : CommonService.hashOrBlockNumber text = .number (some value) := by
      rw [CommonService.hashOrBlockNumber, if_neg notFirst, if_pos short, reads]
    simp only [CommonService.getHistoricalBlockResponse, Bool.not_true, Bool.false_and, Bool.false_eq_true, if_false,
      if_neg notEmpty, notHead, if_pos short, reads, CommonService.numberedBlock]
    apply Alike.bindExcept alike_latestBlocks
    rintro _ _ (_ | @⟨head, otherHead, _, _, same, _⟩)
    · exact .done (.error (.internal .missingBlock))
    · have sameNumber : head.number = otherHead.number := congrArg BlockFields.number same
      dsimp only
      rw [sameNumber]
      split
      · exact .done (.ok .none)
      · exact alike_query_number asked
  | @hash text long =>
    obtain ⟨notEmpty, notHead, notFirst⟩ := noTag_of_long long
    have asked : CommonService.hashOrBlockNumber text = .hash text := by
      rw [CommonService.hashOrBlockNumber, if_neg notFirst, if_neg (Nat.not_lt.mpr long)]
    simp only [CommonService.getHistoricalBlockResponse, Bool.not_true, Bool.false_and, Bool.false_eq_true, if_false,
      if_neg notEmpty, notHead, if_neg (Nat.not_lt.mpr long)]
    rw [Blocks.CommonService.getHistoricalBlockResponse]
    · exact alike_query_hash asked
    · exact notEmpty
  | earliest => exact .call rfl fun _ _ same => alike_state_answered same
  | absent | latest | pending | safe | finalized =>
    apply Alike.bindExcept alike_latestBlocks
    rintro _ _ (_ | ⟨same, _⟩)
    · exact .done (.ok .none)
    · exact .done (.ok (.some same))

end States

end HieroRelay.Relay.BlockLookups
