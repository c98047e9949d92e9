import HieroRelay.Filters.Polling
import HieroRelay.Lib.Doubles

/-! The two checks of a range of blocks, whose ends may be left out, against the blocks
that the ends stand for. A timestamp is subtracted as the double that its text stands for. -/

namespace HieroRelay.Filters

open HieroRelay.Lib
open CommonService (isSingleAddress)

/-- Nanoseconds in a second. -/
def NANOS : Nat := 1000000000

/-- Seven days, in seconds. -/
def maxTimestampParamRange : Nat := 604800

/-- In a second are so many units, which are fine enough for the bits of all timestamps. -/
def doubleUnits : Nat := 2 ^ 82

/-- `Number(timestamp)` -/
def timestampToNumber (timestamp : Nat) : Nat := nearestDouble (timestamp * doubleUnits) NANOS

/-- `timestampTo - timestampFrom`, where a negative difference is zero. -/
def timestampDiff (timestampFrom timestampTo : Nat) : Nat :=
  nearestDouble (timestampToNumber timestampTo - timestampToNumber timestampFrom) 1

def exceedsMaxTimestampParamRange (timestampFrom timestampTo : Nat) : Bool :=
  maxTimestampParamRange * doubleUnits < timestampDiff timestampFrom timestampTo

/-- The seconds, and nine digits for the nanoseconds. -/
def timestampText (timestamp : Nat) : String :=
  let digits := Nat.toDigits 10 (timestamp % NANOS)
  toString (timestamp / NANOS) ++ "." ++ String.ofList (List.replicate (9 - digits.length) '0' ++ digits)

/-- The service, with the configured limits. -/
def CommonService.new (maxBlockRange blockRangeLimit : Nat) : CommonService where
  maxBlockRange
  blockRangeLimit
  exceedsTimestampRange := exceedsMaxTimestampParamRange

/-- An end that is left out is the head. -/
def BlockParam.orHead (block : Option BlockParam) : BlockParam := (block.getD .latest).orLatest

namespace BlockRanges

variable (service : CommonService)

/-- Both checks begin with this one. -/
def checkMissingFromBlock (fromBlock toBlock : Option BlockParam) : Throwing Unit := do
  if !(toBlock.getD .latest).blockTagIsLatestOrPending then
    let latestBlockNumber ← CommonService.getLatestBlockNumber
    if toBlock.bind BlockParam.toNumber != some latestBlockNumber.value && !fromBlock.any BlockParam.truthy then
      throw .MISSING_FROM_BLOCK_PARAM

def validateBlockRange (fromBlock toBlock : Option BlockParam) : Throwing Bool := do
  checkMissingFromBlock fromBlock toBlock
  let (fromBlockNumber, toBlockNumber) ← service.blockRangeNumbers (fromBlock.getD .latest) (toBlock.getD .latest)
  if CommonService.exceeds fromBlockNumber toBlockNumber then throw .INVALID_BLOCK_RANGE
  return true

def gte (block : MirrorNodeBlock) : String := "gte:" ++ timestampText block.timestampFrom

def lte (block : MirrorNodeBlock) : String := "lte:" ++ timestampText block.timestampTo

/-- The verdict, with `params.timestamp`. -/
def validateBlockRangeAndAddTimestampToParams (fromBlock toBlock : Option BlockParam) (address : AddressParam) :
    Throwing (Bool × List String) := do
  checkMissingFromBlock fromBlock toBlock
  match ← service.getHistoricalBlockResponse (BlockParam.orHead fromBlock) with
  | none => return (false, [])
  | some fromBlockResponse =>
      if BlockParam.orHead fromBlock = BlockParam.orHead toBlock then
        return (true, [gte fromBlockResponse, lte fromBlockResponse])
      else
        match ← service.getHistoricalBlockResponse (BlockParam.orHead toBlock) with
        | none => return (false, [gte fromBlockResponse])
        | some toBlockResponse =>
            if service.exceedsTimestampRange fromBlockResponse.timestampFrom toBlockResponse.timestampTo then
              throw .TIMESTAMP_RANGE_TOO_LARGE
            else if fromBlockResponse.number > toBlockResponse.number then throw .INVALID_BLOCK_RANGE
            else if !isSingleAddress address &&
                toBlockResponse.number - fromBlockResponse.number > service.blockRangeLimit then
              throw .RANGE_TOO_LARGE
            else return (true, [gte fromBlockResponse, lte toBlockResponse])

/-- Where both ends are given, the checks are those of the common service. -/
theorem validateBlockRange_given (fromBlock toBlock : BlockParam) :
    validateBlockRange service (some fromBlock) (some toBlock) = service.validateBlockRange fromBlock toBlock := rfl

/-- The timestamps of a range that is accepted. -/
def acceptedTimestamps (verdict : Bool × List String) : Option (List String) :=
  if verdict.1 then some verdict.2 else none

def timestampTexts (range : Nat × Nat) : List String :=
  ["gte:" ++ timestampText range.1, "lte:" ++ timestampText range.2]

theorem validateBlockRangeAndAddTimestampToParams_given (fromBlock toBlock : BlockParam) (address : AddressParam) :
    acceptedTimestamps <$> validateBlockRangeAndAddTimestampToParams service (some fromBlock) (some toBlock) address =
      Option.map timestampTexts <$> service.validateBlockRangeAndAddTimestampToParams fromBlock toBlock address := by
  unfold validateBlockRangeAndAddTimestampToParams CommonService.validateBlockRangeAndAddTimestampToParams
  simp only [map_bind]
  refine congrArg _ (funext fun _ => congrArg _ (funext fun fromFound => ?_))
  cases fromFound with
  | none => rfl
  | some fromFound =>
    dsimp only
    by_cases same : fromBlock.orLatest = toBlock.orLatest
    · rw [if_pos (show BlockParam.orHead fromBlock = BlockParam.orHead toBlock from same), if_pos same]
      rfl
    · rw [if_neg (show BlockParam.orHead fromBlock ≠ BlockParam.orHead toBlock from same), if_neg same, map_bind,
        map_bind]
      refine congrArg _ (funext fun toFound => ?_)
      cases toFound with
      | none => rfl
      | some toFound =>
        dsimp only
        split_ifs <;> rfl

end BlockRanges

/-- The block that an argument stands for. -/
def Chain.blockOf (chain : Chain) : Option BlockParam → Option MirrorNodeBlock
  | some .earliest => chain.blocks[0]?
  | some (.hex number) => chain.blocks[number.value]?
  | some (.number value) => chain.blocks[value]?
  | _ => chain.blocks.getLast?

/-- The chain while nothing changes. -/
def Chain.snapshot (chain : Chain) : FilterState where
  chain
  available := true
  filter := none
  start := 0
  queried := none

/-- The outcome of a call over a chain that does not change. -/
def Chain.outcome {Result : Type} (chain : Chain) (mirrorNode : MirrorNode) (call : Throwing Result) :
    Except FilterError Result :=
  call.run.answeredBy (chain.snapshot.answer mirrorNode)

section Snapshot
variable {service : CommonService} {mirrorNode : MirrorNode} {chain : Chain} {block : Option BlockParam}
  {found : MirrorNodeBlock}

theorem Chain.outcome_bind {First Second : Type} {call : Throwing First} {next : First → Throwing Second}
    {value : First} (returned : chain.outcome mirrorNode call = .ok value) :
    chain.outcome mirrorNode (call >>= next) = chain.outcome mirrorNode (next value) :=
  Prog.answeredBy_bind_ok _ returned

/-- The number of a block is its position, below that of the head. -/
theorem Chain.number_of_getElem {number : Nat} (present : chain.blocks[number]? = some found) :
    found.number = number ∧ ∃ head, chain.blocks.getLast? = some head ∧ number ≤ head.number := by
  refine ⟨chain.numbered number found present, ?_⟩
  obtain ⟨inside, -⟩ := List.getElem?_eq_some_iff.mp present
  have last : chain.blocks.getLast? = chain.blocks[chain.blocks.length - 1]? := List.getLast?_eq_getElem?
  have isHead : chain.blocks[chain.blocks.length - 1]? = some chain.blocks[chain.blocks.length - 1] :=
    List.getElem?_eq_getElem (by omega)
  refine ⟨_, last.trans isHead, ?_⟩
  rw [chain.numbered _ _ isHead]
  omega

theorem outcome_latest (last : chain.blocks.getLast? = some found) :
    chain.outcome mirrorNode (service.getHistoricalBlockResponse .latest) = .ok (some found) := by
  have head : chain.outcome mirrorNode (service.getHistoricalBlockResponse .latest) =
      .ok chain.blocks.getLast?.toList.head? := rfl
  rw [head, last]
  rfl

theorem outcome_getBlock (number : Nat) :
    chain.outcome mirrorNode (MirrorNodeClient.getBlock number) = .ok chain.blocks[number]? := rfl

/-- An end that stands for a block is answered with it. -/
theorem outcome_getHistoricalBlockResponse (resolved : chain.blockOf block = some found) :
    chain.outcome mirrorNode (service.getHistoricalBlockResponse (BlockParam.orHead block)) = .ok (some found) := by
  cases block with
  | none => exact outcome_latest resolved
  | some block =>
    cases block with
    | latest | pending | safe | finalized => exact outcome_latest resolved
    | earliest => exact (outcome_getBlock 0).trans (congrArg Except.ok resolved)
    | number value => exact (outcome_getBlock value).trans (congrArg Except.ok resolved)
    | hex number =>
      obtain ⟨-, head, last, within⟩ := Chain.number_of_getElem resolved
      have heads : chain.outcome mirrorNode MirrorNodeClient.getLatestBlock = .ok [head] := by
        have listed : chain.outcome mirrorNode MirrorNodeClient.getLatestBlock = .ok chain.blocks.getLast?.toList := rfl
        rw [listed, last]
        rfl
      have near : ¬ number.value > head.number + service.maxBlockRange := by omega
      change chain.outcome mirrorNode (service.getHistoricalBlockResponse (.hex number)) = _
      rw [CommonService.getHistoricalBlockResponse, Chain.outcome_bind heads]
      simp only [near, if_false]
      exact (outcome_getBlock number.value).trans (congrArg Except.ok resolved)

/-- A number that is given is the number of the block. -/
theorem number_of_toNumber {given : BlockParam} {number : Nat} (resolved : chain.blockOf (some given) = some found)
    (named : given.toNumber = some number) : found.number = number := by
  cases given with
  | hex text =>
    obtain rfl := Option.some.inj named
    exact (Chain.number_of_getElem resolved).1
  | number value =>
    obtain rfl := Option.some.inj named
    exact (Chain.number_of_getElem resolved).1
  | latest | pending | safe | finalized | earliest => cases named

/-- The number of an end before any block is asked for; the head counts as zero. -/
def BlockParam.knownNumber (block : BlockParam) : Option Nat :=
  if block.blockTagIsLatestOrPending then some 0 else block.toNumber

theorem knownNumber_eq (resolved : chain.blockOf block = some found)
    (known : CommonService.unknown (block.getD .latest).knownNumber = false) :
    (block.getD .latest).knownNumber = some found.number := by
  cases block with
  | none => cases known
  | some given =>
    rw [Option.getD_some, BlockParam.knownNumber] at known ⊢
    cases isHead : given.blockTagIsLatestOrPending with
    | true =>
      rw [isHead] at known
      cases known
    | false =>
      simp only [isHead, Bool.false_eq_true, if_false] at known ⊢
      cases named : given.toNumber with
      | none =>
        rw [named] at known
        cases known
      | some number => rw [number_of_toNumber resolved named]

private theorem outcome_blockRangeNumbers {fromBlock toBlock : Option BlockParam} {fromFound toFound : MirrorNodeBlock}
    (fromResolved : chain.blockOf fromBlock = some fromFound) (toResolved : chain.blockOf toBlock = some toFound) :
    chain.outcome mirrorNode (service.blockRangeNumbers (fromBlock.getD .latest) (toBlock.getD .latest)) =
      .ok (some fromFound.number, some toFound.number) := by
  rw [CommonService.blockRangeNumbers, ← BlockParam.knownNumber, ← BlockParam.knownNumber]
  cases asked : CommonService.unknown (fromBlock.getD .latest).knownNumber ||
      CommonService.unknown (toBlock.getD .latest).knownNumber with
  | true =>
    have fromAnswer : chain.outcome mirrorNode
        (service.getHistoricalBlockResponse (fromBlock.getD .latest).orLatest) = .ok (some fromFound) :=
      outcome_getHistoricalBlockResponse fromResolved
    have toAnswer : chain.outcome mirrorNode
        (service.getHistoricalBlockResponse (toBlock.getD .latest).orLatest) = .ok (some toFound) :=
      outcome_getHistoricalBlockResponse toResolved
    rw [if_pos rfl, Chain.outcome_bind fromAnswer, Chain.outcome_bind toAnswer]
    rfl
  | false =>
    obtain ⟨fromKnown, toKnown⟩ := Bool.or_eq_false_iff.mp asked
    rw [if_neg Bool.false_ne_true, knownNumber_eq fromResolved fromKnown, knownNumber_eq toResolved toKnown]
    rfl

private theorem not_exceeds_of_le {timestampFrom timestampTo : Nat} (order : timestampTo ≤ timestampFrom) :
    exceedsMaxTimestampParamRange timestampFrom timestampTo = false := by
  have before : timestampToNumber timestampTo ≤ timestampToNumber timestampFrom :=
    nearestDouble_mono (Nat.mul_le_mul_right _ order)
  rw [exceedsMaxTimestampParamRange, timestampDiff, Nat.sub_eq_zero_of_le before]
  decide

theorem Chain.getElem_of_blockOf (resolved : chain.blockOf block = some found) :
    chain.blocks[found.number]? = some found := by
  cases block with
  | none => exact (chain.getLast_number resolved).1
  | some given =>
    cases given with
    | latest | pending | safe | finalized => exact (chain.getLast_number resolved).1
    | earliest | hex number | number value => rwa [(Chain.number_of_getElem resolved).1]

end Snapshot

namespace BlockRanges

variable {mirrorNode : MirrorNode} {chain : Chain} {fromBlock toBlock : Option BlockParam}
  {fromFound toFound : MirrorNodeBlock} {maxBlockRange blockRangeLimit : Nat}

private theorem outcome_validateBlockRange
    (allowed : chain.outcome mirrorNode (checkMissingFromBlock fromBlock toBlock) = .ok ())
    (fromResolved : chain.blockOf fromBlock = some fromFound) (toResolved : chain.blockOf toBlock = some toFound)
    (service : CommonService) :
    chain.outcome mirrorNode (validateBlockRange service fromBlock toBlock) =
      if toFound.number < fromFound.number then .error .INVALID_BLOCK_RANGE else .ok true := by
  rw [validateBlockRange, Chain.outcome_bind allowed,
    Chain.outcome_bind (outcome_blockRangeNumbers fromResolved toResolved)]
  by_cases order : toFound.number < fromFound.number
  · simp [CommonService.exceeds, order]
    rfl
  · simp [CommonService.exceeds, order]
    rfl

/-- The same arguments for an end, or a range that passes all checks. -/
def Passes (service : CommonService) (fromBlock toBlock : Option BlockParam) (address : AddressParam)
    (fromFound toFound : MirrorNodeBlock) : Prop :=
  BlockParam.orHead fromBlock = BlockParam.orHead toBlock ∨
    service.exceedsTimestampRange fromFound.timestampFrom toFound.timestampTo = false ∧
      fromFound.number ≤ toFound.number ∧
      (isSingleAddress address = true ∨ toFound.number - fromFound.number ≤ service.blockRangeLimit)

theorem blockOf_orHead (chain : Chain) (block : Option BlockParam) :
    chain.blockOf (some (BlockParam.orHead block)) = chain.blockOf block := by
  cases block with
  | none => rfl
  | some given => cases given <;> rfl

/-- Arguments that stand for the same end stand for the same block. -/
theorem found_eq_of_orHead_eq (fromResolved : chain.blockOf fromBlock = some fromFound)
    (toResolved : chain.blockOf toBlock = some toFound)
    (same : BlockParam.orHead fromBlock = BlockParam.orHead toBlock) : fromFound = toFound := by
  rw [← blockOf_orHead, same, blockOf_orHead, toResolved] at fromResolved
  exact (Option.some.inj fromResolved).symm

theorem outcome_validateTimestamps
    (allowed : chain.outcome mirrorNode (checkMissingFromBlock fromBlock toBlock) = .ok ())
    (fromResolved : chain.blockOf fromBlock = some fromFound) (toResolved : chain.blockOf toBlock = some toFound)
    (service : CommonService) (address : AddressParam) :
    chain.outcome mirrorNode (validateBlockRangeAndAddTimestampToParams service fromBlock toBlock address) =
      if BlockParam.orHead fromBlock = BlockParam.orHead toBlock then .ok (true, [gte fromFound, lte toFound])
      else if service.exceedsTimestampRange fromFound.timestampFrom toFound.timestampTo then
        .error .TIMESTAMP_RANGE_TOO_LARGE
      else if toFound.number < fromFound.number then .error .INVALID_BLOCK_RANGE
      else if !isSingleAddress address && toFound.number - fromFound.number > service.blockRangeLimit then
        .error .RANGE_TOO_LARGE
      else .ok (true, [gte fromFound, lte toFound]) := by
  rw [validateBlockRangeAndAddTimestampToParams, Chain.outcome_bind allowed,
    Chain.outcome_bind (outcome_getHistoricalBlockResponse fromResolved)]
  by_cases same : BlockParam.orHead fromBlock = BlockParam.orHead toBlock
  · rw [found_eq_of_orHead_eq fromResolved toResolved same]
    simp only [same, if_true]
    rfl
  · simp only [same, if_false]
    rw [Chain.outcome_bind (outcome_getHistoricalBlockResponse toResolved)]
    dsimp only
    split_ifs <;> rfl

/-- What is asked of the two checks for a range with these blocks at its ends. -/
structure Checked (service : CommonService) (chain : Chain) (mirrorNode : MirrorNode)
    (fromBlock toBlock : Option BlockParam)
    (address : AddressParam) (fromFound toFound : MirrorNodeBlock) : Prop where
  invalid : chain.outcome mirrorNode (validateBlockRange service fromBlock toBlock) = .error .INVALID_BLOCK_RANGE ↔
    toFound.number < fromFound.number
  invalidToo : chain.outcome mirrorNode (validateBlockRangeAndAddTimestampToParams service fromBlock toBlock address) =
    .error .INVALID_BLOCK_RANGE ↔ toFound.number < fromFound.number
  accepted : ∀ timestamp,
    chain.outcome mirrorNode (validateBlockRangeAndAddTimestampToParams service fromBlock toBlock address) =
      .ok (true, timestamp) →
    timestamp = [gte fromFound, lte toFound] ∧
      (fromBlock ≠ toBlock → toFound.timestampTo - fromFound.timestampFrom ≤ maxTimestampParamRange * NANOS) ∧
      (isSingleAddress address = false → toFound.number - fromFound.number ≤ service.blockRangeLimit)

/-- A range that is longer than seven days passes: the difference of the doubles is not, or
two words for the head stand for a block that is. -/
def Overlong (service : CommonService) (fromBlock toBlock : Option BlockParam) (address : AddressParam)
    (fromFound toFound : MirrorNodeBlock) : Prop :=
  fromBlock ≠ toBlock ∧ maxTimestampParamRange * NANOS < toFound.timestampTo - fromFound.timestampFrom ∧
    Passes service fromBlock toBlock address fromFound toFound

/-- A range is accepted exactly if it passes, and then with both timestamps. -/
theorem accepted_iff (allowed : chain.outcome mirrorNode (checkMissingFromBlock fromBlock toBlock) = .ok ())
    (fromResolved : chain.blockOf fromBlock = some fromFound) (toResolved : chain.blockOf toBlock = some toFound)
    (service : CommonService) (address : AddressParam) {timestamp : List String} :
    chain.outcome mirrorNode (validateBlockRangeAndAddTimestampToParams service fromBlock toBlock address) =
        .ok (true, timestamp) ↔
      Passes service fromBlock toBlock address fromFound toFound ∧ timestamp = [gte fromFound, lte toFound] := by
  rw [outcome_validateTimestamps allowed fromResolved toResolved, Passes]
  by_cases same : BlockParam.orHead fromBlock = BlockParam.orHead toBlock
  · rw [if_pos same]
    constructor
    · rintro ⟨⟩
      exact ⟨.inl same, rfl⟩
    · rintro ⟨-, rfl⟩
      rfl
  · rw [if_neg same]
    constructor
    · intro returned
      split_ifs at returned with long order wide
      obtain ⟨⟩ := returned
      simp only [Bool.and_eq_true, Bool.not_eq_true', decide_eq_true_eq, not_and] at wide
      refine ⟨.inr ⟨by simpa using long, Nat.le_of_not_lt order, ?_⟩, rfl⟩
      cases single : isSingleAddress address with
      | true => exact .inl rfl
      | false => exact .inr (Nat.le_of_not_lt (wide single))
    · rintro ⟨equal | ⟨short, order, limited⟩, rfl⟩
      · exact absurd equal same
      · have narrow : ¬ (!isSingleAddress address &&
            decide (toFound.number - fromFound.number > service.blockRangeLimit)) = true := by
          rcases limited with single | within
          · simp [single]
          · simp [Nat.not_lt.mpr within]
        rw [short, if_neg Bool.false_ne_true, if_neg (Nat.not_lt_of_le order), if_neg narrow]

/-- A range that is turned round is not found to be too long, so that it is invalid. -/
theorem invalid_iff (allowed : chain.outcome mirrorNode (checkMissingFromBlock fromBlock toBlock) = .ok ())
    (fromResolved : chain.blockOf fromBlock = some fromFound) (toResolved : chain.blockOf toBlock = some toFound)
    (address : AddressParam) :
    chain.outcome mirrorNode (validateBlockRangeAndAddTimestampToParams (.new maxBlockRange blockRangeLimit) fromBlock
      toBlock address) = .error .INVALID_BLOCK_RANGE ↔ toFound.number < fromFound.number := by
  rw [outcome_validateTimestamps allowed fromResolved toResolved]
  by_cases order : toFound.number < fromFound.number
  · have apart : BlockParam.orHead fromBlock ≠ BlockParam.orHead toBlock := by
      intro same
      rw [found_eq_of_orHead_eq fromResolved toResolved same] at order
      exact Nat.lt_irrefl _ order
    have reversed := chain.timestampTo_lt (chain.getElem_of_blockOf toResolved) (chain.getElem_of_blockOf fromResolved) order
    have short : (CommonService.new maxBlockRange blockRangeLimit).exceedsTimestampRange fromFound.timestampFrom
        toFound.timestampTo = false := not_exceeds_of_le reversed.le
    rw [if_neg apart, short, if_neg Bool.false_ne_true, if_pos order]
    exact iff_of_true rfl order
  · refine iff_of_false ?_ order
    split_ifs <;> rintro ⟨⟩

/-- The checks do what is asked of them but for ranges that are longer than seven days. -/
theorem checked_iff_not_overlong
    (allowed : chain.outcome mirrorNode (checkMissingFromBlock fromBlock toBlock) = .ok ())
    (fromResolved : chain.blockOf fromBlock = some fromFound) (toResolved : chain.blockOf toBlock = some toFound)
    (address : AddressParam) :
    Checked (.new maxBlockRange blockRangeLimit) chain mirrorNode fromBlock toBlock address fromFound toFound ↔
      ¬ Overlong (.new maxBlockRange blockRangeLimit) fromBlock toBlock address fromFound toFound := by
  constructor
  · rintro checked ⟨apart, long, passes⟩
    have accepted := (accepted_iff allowed fromResolved toResolved (.new maxBlockRange blockRangeLimit) address).mpr
      ⟨passes, rfl⟩
    exact absurd ((checked.accepted _ accepted).2.1 apart) (Nat.not_le_of_lt long)
  · intro short
    refine ⟨?_, invalid_iff allowed fromResolved toResolved address, ?_⟩
    · rw [outcome_validateBlockRange allowed fromResolved toResolved]
      split
      · rename_i order
        exact iff_of_true rfl order
      · rename_i order
        exact iff_of_false (fun raised => by cases raised) order
    · intro timestamp accepted
      obtain ⟨passes, rfl⟩ := (accepted_iff allowed fromResolved toResolved _ address).mp accepted
      refine ⟨rfl, ?_, ?_⟩
      · intro apart
        exact Nat.le_of_not_lt fun long => short ⟨apart, long, passes⟩
      · intro several
        rcases passes with same | ⟨-, -, single | within⟩
        · rw [found_eq_of_orHead_eq fromResolved toResolved same, Nat.sub_self]
          exact Nat.zero_le _
        · rw [several] at single
          cases single
        · exact within

section Examples

/-- A block of one second, at so many seconds. -/
def firstBlock : MirrorNodeBlock where
  number := 0
  hash := "0xa"
  timestampFrom := 1700000000000000000
  timestampTo := 1700000001000000000
  logs := []
  spans := by decide
  ordered := .nil
  inside := List.forall_mem_nil _

/-- The next block, which ends at a time. -/
def lastBlock (stop : Nat) (spans : 1700000002000000000 ≤ stop) : MirrorNodeBlock where
  number := 1
  hash := "0xb"
  timestampFrom := 1700000002000000000
  timestampTo := stop
  logs := []
  spans
  ordered := .nil
  inside := List.forall_mem_nil _

def chainTo (stop : Nat) (spans : 1700000002000000000 ≤ stop) : Chain where
  blocks := [firstBlock, lastBlock stop spans]
  started := by simp
  numbered := by
    intro number block present
    rcases number with _ | _ | number
    · cases present
      rfl
    · cases present
      rfl
    · cases present
  ordered := by simp [firstBlock, lastBlock]

def silentNode : MirrorNode where
  isLogOf _ _ := false
  zeroAddress_silent _ := rfl

/-- All of a week, to its last nanosecond. -/
theorem checked_week :
    Checked (.new 5 1000) (chainTo 1700604800000000000 (by decide)) silentNode (some .earliest) none (.one "0x1f")
      firstBlock (lastBlock 1700604800000000000 (by decide)) := by
  refine (checked_iff_not_overlong rfl rfl rfl _).mpr ?_
  rintro ⟨-, long, -⟩
  exact absurd long (by decide)

/-- One nanosecond more is lost in the subtraction. -/
theorem not_checked_weekAndNanosecond :
    ¬ Checked (.new 5 1000) (chainTo 1700604800000000001 (by decide)) silentNode (some .earliest) none (.one "0x1f")
      firstBlock (lastBlock 1700604800000000001 (by decide)) := by
  intro checked
  have passes : Passes (.new 5 1000) (some .earliest) none (.one "0x1f") firstBlock
      (lastBlock 1700604800000000001 (by decide)) := .inr ⟨by decide, by decide, .inl rfl⟩
  have accepted : (chainTo 1700604800000000001 (by decide)).outcome silentNode
      (validateBlockRangeAndAddTimestampToParams (.new 5 1000) (some .earliest) none (.one "0x1f")) =
        .ok (true, [gte firstBlock, lte (lastBlock 1700604800000000001 (by decide))]) :=
    (accepted_iff rfl rfl rfl _ _).mpr ⟨passes, rfl⟩
  exact absurd ((checked.accepted _ accepted).2.1 (by decide)) (by decide)

end Examples

end BlockRanges

end HieroRelay.Filters
