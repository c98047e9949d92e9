import HieroRelay.Blocks.BlockAnswers
import HieroRelay.Lib.Transcript
import HieroRelay.Relay.Types

/-! The fee history of a range of blocks, with one fee for all of them or with the fee of each:
when the answer covers the blocks up to the newest one. -/

namespace HieroRelay.Fees

open HieroRelay.Lib
open HieroRelay.Blocks (CommonService.getGasPriceInWeibars CommonService.gasPrice MirrorOp RelayError Throwing ZERO_HEX
  CommonService.translateBlockTag)
open HieroRelay.Filters (BlockParam HexNumber numberTo0x)
open HieroRelay.Relay (JsonRpcError)

def DEFAULT_FEE_HISTORY_MAX_RESULTS : Int := 10
def FEE_HISTORY_REWARD_PERCENTILES_MAX_SIZE : Nat := 100
def DEFAULT_GAS_USED_RATIO : Rat := 1 / 2

/-- `gasUsedRatio` may be null, and the other lists may be left out. -/
structure FeeHistory where
  baseFeePerGas : Option (List HexNumber)
  gasUsedRatio : Option (List Rat)
  oldestBlock : HexNumber
  reward : Option (List (List HexNumber))
  deriving Repr, DecidableEq

def feeHistoryZeroBlockCountResponse : FeeHistory where
  baseFeePerGas := none
  gasUsedRatio := none
  oldestBlock := ZERO_HEX
  reward := none

def feeHistoryEmptyResponse : FeeHistory where
  baseFeePerGas := some []
  gasUsedRatio := some []
  oldestBlock := ZERO_HEX
  reward := some []

inductive Answer where
  | error (error : JsonRpcError)
  | history (history : FeeHistory)
  deriving Repr, DecidableEq

inductive Thrown where
  | RangeError
  | common (error : RelayError)
  deriving Repr, DecidableEq

abbrev Attempt (Result : Type) := ExceptT Thrown (Prog MirrorOp MirrorOp.Answer) Result

def ofCommon (call : Throwing Result) : Attempt Result := ExceptT.adapt Thrown.common call

/-- The configuration, with what the common service reads. -/
structure FeeService where
  common : Blocks.Relay
  test : Bool
  feeHistoryMaxResults : Int
  ethFeeHistoryFixed : Bool

/-- `Array(length).fill(value)` -/
def filledArray {Value : Type} (length : Int) (value : Value) : Attempt (List Value) :=
  if length < 4294967296 then return List.replicate length.toNat value else throw .RangeError

namespace FeeService

variable {Percentile : Type} (service : FeeService)

def maxResults : Int := if service.test then DEFAULT_FEE_HISTORY_MAX_RESULTS else service.feeHistoryMaxResults

/-- The number of the latest block and of the newest one. -/
def blockNumbers (newestBlock : BlockParam) : Attempt (Nat × Nat) := do
  let latestBlockNumber ← ofCommon (CommonService.translateBlockTag .latest)
  let newestBlockNumber ← (if newestBlock = .latest ∨ newestBlock = .pending then pure latestBlockNumber
    else ofCommon (CommonService.translateBlockTag newestBlock))
  return (latestBlockNumber, newestBlockNumber)

def shouldIncludeRewards (rewardPercentiles : Option (List Percentile)) : Bool :=
  rewardPercentiles.any fun percentiles => 0 < percentiles.length

/-- A row of zeros for each of a number of blocks. -/
def rewardOf (blockCount : Int) (rewardPercentiles : Option (List Percentile)) :
    Attempt (Option (List (List HexNumber))) :=
  match rewardPercentiles with
  | some percentiles =>
      if shouldIncludeRewards rewardPercentiles then
        some <$> filledArray blockCount (List.replicate percentiles.length ZERO_HEX)
      else pure none
  | none => pure none

def getRepeatedFeeHistory (blockCount oldestBlockNumber : Int) (rewardPercentiles : Option (List Percentile))
    (fee : HexNumber) : Attempt FeeHistory := do
  let fees ← filledArray blockCount fee
  let ratios ← filledArray blockCount DEFAULT_GAS_USED_RATIO
  return {
    baseFeePerGas := some (fees ++ [fee])
    gasUsedRatio := some ratios
    oldestBlock := numberTo0x oldestBlockNumber.toNat
    reward := ← rewardOf blockCount rewardPercentiles }

/-- A fee that cannot be read is zero. -/
def getFeeByBlockNumber (blockNumber : Nat) : Prog MirrorOp MirrorOp.Answer HexNumber := do
  let fee : Throwing Nat := do
    match ← Blocks.MirrorNodeClient.getBlockByNumber blockNumber with
    | some block => CommonService.getGasPriceInWeibars (some block.timestampTo)
    | none => throw (.INTERNAL_ERROR .missingBlock)
  match ← fee.run with
  | .ok fee => return numberTo0x fee
  | .error _ => return numberTo0x 0

/-- The fees from the oldest to the newest block, and the one after them. -/
def getFeeHistory (blockCount : Int) (newestBlockNumber latestBlockNumber : Nat)
    (rewardPercentiles : Option (List Percentile)) : Attempt FeeHistory := do
  let oldestBlockNumber := (max 0 (newestBlockNumber - blockCount + 1)).toNat
  let fees ← ExceptT.lift ((List.range' oldestBlockNumber (newestBlockNumber + 1 - oldestBlockNumber)).mapM getFeeByBlockNumber)
  let nextBaseFeePerGas ← (if latestBlockNumber > newestBlockNumber then
      some <$> ExceptT.lift (getFeeByBlockNumber (newestBlockNumber + 1))
    else pure fees.getLast? : Attempt (Option HexNumber))
  return {
    baseFeePerGas := some (fees ++ nextBaseFeePerGas.toList)
    gasUsedRatio := some (fees.map fun _ => DEFAULT_GAS_USED_RATIO)
    oldestBlock := numberTo0x oldestBlockNumber
    reward := ← rewardOf blockCount rewardPercentiles }

/-- The range that is clamped to block one. -/
def getFixedFeeHistory (blockCount : Int) (newestBlockNumber : Nat) (rewardPercentiles : Option (List Percentile)) :
    Attempt FeeHistory := do
  let oldestBlock := newestBlockNumber - blockCount + 1
  let range : Int × Int := if oldestBlock ≤ 0 then (1, 1) else (blockCount, oldestBlock)
  let gasPriceFee ← ofCommon (CommonService.gasPrice service.common)
  getRepeatedFeeHistory range.1 range.2 rewardPercentiles gasPriceFee

def clampedCount (blockCount : Int) : Int :=
  if blockCount > service.maxResults then service.maxResults else blockCount

/-- What is tried once the blocks are known. -/
def historyBetween (blockCount : Int) (latestBlockNumber newestBlockNumber : Nat)
    (rewardPercentiles : Option (List Percentile)) : Attempt Answer := do
  if newestBlockNumber > latestBlockNumber then
    return .error (Relay.predefined.REQUEST_BEYOND_HEAD_BLOCK newestBlockNumber latestBlockNumber)
  let blockCount := service.clampedCount blockCount
  if blockCount ≤ 0 then return .history feeHistoryZeroBlockCountResponse
  if service.ethFeeHistoryFixed then
    return .history (← service.getFixedFeeHistory blockCount newestBlockNumber rewardPercentiles)
  else return .history (← getFeeHistory blockCount newestBlockNumber latestBlockNumber rewardPercentiles)

/-- Whatever is thrown by the requests gives the empty response. -/
def feeHistory (blockCount : Int) (newestBlock : BlockParam) (rewardPercentiles : Option (List Percentile)) :
    ExceptT JsonRpcError (Prog MirrorOp MirrorOp.Answer) Answer := do
  let size := (rewardPercentiles.map List.length).getD 0
  if size > FEE_HISTORY_REWARD_PERCENTILES_MAX_SIZE then
    throw (Relay.predefined.INVALID_PARAMETER "2" s!"Reward percentiles size {size} is greater than the maximum allowed size {FEE_HISTORY_REWARD_PERCENTILES_MAX_SIZE}")
  let attempt : Attempt Answer := do
    let (latestBlockNumber, newestBlockNumber) ← blockNumbers newestBlock
    service.historyBetween blockCount latestBlockNumber newestBlockNumber rewardPercentiles
  match ← ExceptT.lift attempt.run with
  | .ok answer => return answer
  | .error _ => return .history feeHistoryEmptyResponse

end FeeService

/-! What an answer covers. -/

variable {Percentile : Type} {service : FeeService} {blockCount : Int} {newestBlock : BlockParam}
  {rewardPercentiles : Option (List Percentile)} {latestBlockNumber newestBlockNumber : Nat} {history : FeeHistory}
  {transcript asked rest : List (Exchange MirrorOp MirrorOp.Answer)}

/-- Consecutive blocks that end at the newest one, with one more fee and, where percentiles are
given, a row of rewards for each block. -/
def CoversUpTo (newestBlockNumber : Nat) (rewardPercentiles : Option (List Percentile)) (history : FeeHistory) : Prop :=
  ∃ fees ratios, history.baseFeePerGas = some fees ∧ history.gasUsedRatio = some ratios ∧
    (history.oldestBlock.value : Int) + ratios.length - 1 = newestBlockNumber ∧ fees.length = ratios.length + 1 ∧
    ∀ percentiles, rewardPercentiles = some percentiles → percentiles ≠ [] →
      ∃ rows, history.reward = some rows ∧ rows.length = ratios.length ∧
        ∀ row ∈ rows, row.length = percentiles.length

/-- The range does not reach back beyond block one on the fixed path, where block one alone is
asked for otherwise, nor beyond block zero on the other path where there are rewards. -/
def InRange (service : FeeService) (blockCount : Int) (newestBlockNumber : Nat)
    (rewardPercentiles : Option (List Percentile)) : Prop :=
  0 < service.clampedCount blockCount ∧
    if service.ethFeeHistoryFixed then service.clampedCount blockCount ≤ newestBlockNumber ∨ newestBlockNumber = 1
    else FeeService.shouldIncludeRewards rewardPercentiles = true →
      service.clampedCount blockCount ≤ newestBlockNumber + 1

instance : Decidable (InRange service blockCount newestBlockNumber rewardPercentiles) :=
  inferInstanceAs (Decidable (_ ∧ ite _ _ _))

theorem ran_filledArray {Value : Type} {length : Int} {value : Value} {values : List Value}
    (ran : Ran (filledArray length value).run transcript (.ok values)) :
    transcript = [] ∧ values = List.replicate length.toNat value := by
  unfold filledArray at ran
  split at ran
  · cases ran
    exact ⟨rfl, rfl⟩
  · cases ran

/-- The rows of the rewards. -/
def rewardRows (blockCount : Int) (rewardPercentiles : Option (List Percentile)) : Option (List (List HexNumber)) :=
  if FeeService.shouldIncludeRewards rewardPercentiles then
    some (List.replicate blockCount.toNat (List.replicate ((rewardPercentiles.map List.length).getD 0) ZERO_HEX))
  else none

theorem ran_rewardOf {reward : Option (List (List HexNumber))}
    (ran : Ran (FeeService.rewardOf blockCount rewardPercentiles).run transcript (.ok reward)) :
    reward = rewardRows blockCount rewardPercentiles := by
  unfold FeeService.rewardOf at ran
  unfold rewardRows
  cases rewardPercentiles with
  | none =>
    cases ran
    rfl
  | some percentiles =>
    dsimp only at ran
    split at ran
    · next given =>
        rw [map_eq_pure_bind] at ran
        obtain ⟨_, _, rows, -, filled, returned⟩ := ran_bind_ok_iff.mp ran
        obtain ⟨-, rfl⟩ := ran_filledArray filled
        cases returned
        rw [if_pos given]
        rfl
    · next absent =>
        cases ran
        rw [if_neg absent]

private theorem ran_getRepeatedFeeHistory {oldestBlockNumber : Int} {fee : HexNumber}
    (ran : Ran (FeeService.getRepeatedFeeHistory blockCount oldestBlockNumber rewardPercentiles fee).run transcript
      (.ok history)) :
    history = {
      baseFeePerGas := some (List.replicate blockCount.toNat fee ++ [fee])
      gasUsedRatio := some (List.replicate blockCount.toNat DEFAULT_GAS_USED_RATIO)
      oldestBlock := numberTo0x oldestBlockNumber.toNat
      reward := rewardRows blockCount rewardPercentiles } := by
  unfold FeeService.getRepeatedFeeHistory at ran
  obtain ⟨_, _, fees, -, filled, ran⟩ := ran_bind_ok_iff.mp ran
  obtain ⟨-, rfl⟩ := ran_filledArray filled
  obtain ⟨_, _, ratios, -, filled, ran⟩ := ran_bind_ok_iff.mp ran
  obtain ⟨-, rfl⟩ := ran_filledArray filled
  obtain ⟨_, _, reward, -, rows, returned⟩ := ran_bind_ok_iff.mp ran
  obtain rfl := ran_rewardOf rows
  cases returned
  rfl

/-- The oldest block of the other path. -/
def oldestOf (blockCount : Int) (newestBlockNumber : Nat) : Nat := (max 0 (newestBlockNumber - blockCount + 1)).toNat

private theorem ran_getFeeHistory (positive : 0 < blockCount)
    (ran : Ran (FeeService.getFeeHistory blockCount newestBlockNumber latestBlockNumber rewardPercentiles).run transcript
      (.ok history)) :
    ∃ fees next, fees.length = newestBlockNumber + 1 - oldestOf blockCount newestBlockNumber ∧
      history = {
        baseFeePerGas := some (fees ++ [next])
        gasUsedRatio := some (fees.map fun _ => DEFAULT_GAS_USED_RATIO)
        oldestBlock := numberTo0x (oldestOf blockCount newestBlockNumber)
        reward := rewardRows blockCount rewardPercentiles } := by
  unfold FeeService.getFeeHistory at ran
  dsimp only at ran
  obtain ⟨_, _, fees, -, asked, ran⟩ := ran_lift_bind_iff.mp ran
  have count := asked.length_mapM
  rw [List.length_range'] at count
  obtain ⟨_, _, next, -, last, ran⟩ := ran_bind_ok_iff.mp ran
  obtain ⟨_, _, reward, -, rows, returned⟩ := ran_bind_ok_iff.mp ran
  obtain rfl := ran_rewardOf rows
  have present : ∃ fee, next = some fee := by
    split at last
    · rw [map_eq_pure_bind] at last
      obtain ⟨_, _, fee, -, -, returned⟩ := ran_bind_ok_iff.mp last
      cases returned
      exact ⟨fee, rfl⟩
    · cases last
      have some : fees ≠ [] := by
        rw [← List.length_pos_iff, count]
        omega
      exact ⟨_, List.getLast?_eq_some_getLast some⟩
  obtain ⟨fee, rfl⟩ := present
  cases returned
  exact ⟨fees, fee, count, rfl⟩

private theorem rewardRows_iff {count : Nat} :
    (∀ percentiles, rewardPercentiles = some percentiles → percentiles ≠ [] →
      ∃ rows, rewardRows blockCount rewardPercentiles = some rows ∧ rows.length = count ∧
        ∀ row ∈ rows, row.length = percentiles.length) ↔
      (FeeService.shouldIncludeRewards rewardPercentiles = true → blockCount.toNat = count) := by
  cases rewardPercentiles with
  | none =>
    refine iff_of_true nofun ?_
    intro given
    cases given
  | some percentiles =>
    have given : FeeService.shouldIncludeRewards (some percentiles) = true ↔ percentiles ≠ [] := by
      rw [FeeService.shouldIncludeRewards, Option.any_some, decide_eq_true_eq, List.length_pos_iff]
    rw [given, rewardRows]
    constructor
    · intro covers present
      obtain ⟨rows, built, length, -⟩ := covers percentiles rfl present
      rw [if_pos (given.mpr present)] at built
      rw [← length, ← Option.some.inj built, List.length_replicate]
    · rintro same _ ⟨⟩ present
      refine ⟨_, if_pos (given.mpr present), ?_, ?_⟩
      · rw [List.length_replicate, same present]
      · intro row member
        rw [(List.mem_replicate.mp member).2, List.length_replicate]
        rfl

theorem coversUpTo_iff {fees : List HexNumber} {ratios : List Rat} {oldest : Nat} :
    CoversUpTo newestBlockNumber rewardPercentiles {
      baseFeePerGas := some fees
      gasUsedRatio := some ratios
      oldestBlock := numberTo0x oldest
      reward := rewardRows blockCount rewardPercentiles } ↔
        (oldest : Int) + ratios.length - 1 = newestBlockNumber ∧ fees.length = ratios.length + 1 ∧
          (FeeService.shouldIncludeRewards rewardPercentiles = true → blockCount.toNat = ratios.length) := by
  rw [← rewardRows_iff]
  constructor
  · intro covers
    obtain ⟨fees, ratios, given, used, rest⟩ := covers
    cases given
    cases used
    exact rest
  · intro rest
    exact ⟨fees, ratios, rfl, rfl, rest⟩

theorem fixed_coversUpTo_iff {oldest : Int} {fee : HexNumber} (positive : 0 < blockCount) (known : 0 < oldest)
    (ran : Ran (FeeService.getRepeatedFeeHistory blockCount oldest rewardPercentiles fee).run transcript (.ok history)) :
    CoversUpTo newestBlockNumber rewardPercentiles history ↔ oldest + blockCount - 1 = newestBlockNumber := by
  rw [ran_getRepeatedFeeHistory ran, coversUpTo_iff]
  simp only [List.length_append, List.length_replicate, List.length_singleton, implies_true, and_true]
  omega

private theorem ran_fixed_iff (positive : 0 < blockCount)
    (ran : Ran (service.getFixedFeeHistory blockCount newestBlockNumber rewardPercentiles).run transcript (.ok history)) :
    CoversUpTo newestBlockNumber rewardPercentiles history ↔ blockCount ≤ newestBlockNumber ∨ newestBlockNumber = 1 := by
  unfold FeeService.getFixedFeeHistory at ran
  dsimp only at ran
  obtain ⟨_, _, fee, -, -, ran⟩ := ran_bind_ok_iff.mp ran
  split at ran
  · next beyond =>
      rw [fixed_coversUpTo_iff (by decide) (by decide) ran]
      dsimp only
      omega
  · next within =>
      rw [fixed_coversUpTo_iff positive (by dsimp only; omega) ran]
      dsimp only
      omega

private theorem ran_each_iff (positive : 0 < blockCount)
    (ran : Ran (FeeService.getFeeHistory blockCount newestBlockNumber latestBlockNumber rewardPercentiles).run transcript
      (.ok history)) :
    CoversUpTo newestBlockNumber rewardPercentiles history ↔
      (FeeService.shouldIncludeRewards rewardPercentiles = true → blockCount ≤ newestBlockNumber + 1) := by
  obtain ⟨fees, next, count, rfl⟩ := ran_getFeeHistory positive ran
  rw [coversUpTo_iff, List.length_append, List.length_singleton, List.length_map, count, oldestOf]
  constructor
  · rintro ⟨-, -, rows⟩ given
    have same := rows given
    omega
  · intro within
    refine ⟨by omega, rfl, ?_⟩
    intro given
    have bound := within given
    omega

/-- The answer once the blocks are known. -/
theorem ran_historyBetween_iff (atMost : newestBlockNumber ≤ latestBlockNumber)
    (ran : Ran (service.historyBetween blockCount latestBlockNumber newestBlockNumber rewardPercentiles).run transcript
      (.ok (.history history))) :
    CoversUpTo newestBlockNumber rewardPercentiles history ↔
      InRange service blockCount newestBlockNumber rewardPercentiles := by
  unfold FeeService.historyBetween at ran
  rw [if_neg (Nat.not_lt.mpr atMost)] at ran
  unfold InRange
  change Ran (if service.clampedCount blockCount ≤ 0 then _ else _ : Attempt Answer).run transcript _ at ran
  split at ran
  · next empty =>
      cases ran
      refine iff_of_false ?_ fun condition => absurd condition.1 (Int.not_lt.mpr empty)
      rintro ⟨_, _, none, -⟩
      cases none
  · next positive =>
      have positive := Int.not_le.mp positive
      rw [and_iff_right positive]
      split at ran
      · next fixed =>
          obtain ⟨_, _, built, -, made, returned⟩ := ran_bind_ok_iff.mp ran
          cases returned
          rw [if_pos fixed, ran_fixed_iff positive made]
      · next each =>
          obtain ⟨_, _, built, -, made, returned⟩ := ran_bind_ok_iff.mp ran
          cases returned
          rw [if_neg each, ran_each_iff positive made]

/-- An answer that no failure gave covers the blocks up to the newest one exactly if the range is
not clamped in the wrong place. -/
theorem feeHistory_iff (atMost : newestBlockNumber ≤ latestBlockNumber)
    (numbers : Ran (FeeService.blockNumbers newestBlock).run asked (.ok (latestBlockNumber, newestBlockNumber)))
    (ran : Ran (service.feeHistory blockCount newestBlock rewardPercentiles).run (asked ++ rest) (.ok (.history history)))
    (successful : history ≠ feeHistoryEmptyResponse) :
    CoversUpTo newestBlockNumber rewardPercentiles history ↔
      InRange service blockCount newestBlockNumber rewardPercentiles := by
  unfold FeeService.feeHistory at ran
  dsimp only at ran
  split at ran
  · cases (ran_done_iff.mp ran).2
  · obtain ⟨first, second, outcome, split, tried, returned⟩ := ran_lift_bind_iff.mp ran
    cases outcome with
    | error thrown =>
      cases returned
      exact absurd rfl successful
    | ok answer =>
      cases returned
      rw [List.append_nil] at split
      rw [← split] at tried
      obtain ⟨asked', rest', numbers', same, resolved, ran⟩ := ran_bind_ok_iff.mp tried
      obtain ⟨rfl, blocks⟩ := numbers.unique resolved same
      cases blocks
      exact ran_historyBetween_iff atMost ran

/-! A chain of a few blocks. -/

def serviceWith (fixed : Bool) : FeeService where
  common := Blocks.exampleRelay
  test := false
  feeHistoryMaxResults := 10
  ethFeeHistoryFixed := fixed

def blockOf (number : Nat) : Blocks.MirrorNodeBlock := { Blocks.exampleBlock with number }

def headAsked (number : Nat) : Exchange MirrorOp MirrorOp.Answer := ⟨.getLatestBlock, some [blockOf number]⟩

def feeAsked (timestamp : Option Nat) : Exchange MirrorOp MirrorOp.Answer :=
  ⟨.getNetworkFees timestamp, some [{ gas := 71, transactionType := "EthereumTransaction" }]⟩

def fee : HexNumber := numberTo0x 710000000000

/-- The history of a number of blocks, with two rewards for each of a number of rows. -/
def historyOf (oldest blocks rows : Nat) : FeeHistory where
  baseFeePerGas := some (List.replicate (blocks + 1) fee)
  gasUsedRatio := some (List.replicate blocks DEFAULT_GAS_USED_RATIO)
  oldestBlock := numberTo0x oldest
  reward := some (List.replicate rows [ZERO_HEX, ZERO_HEX])

theorem ran_head (number : Nat) :
    Ran (FeeService.blockNumbers .latest).run [headAsked number] (.ok (number, number)) :=
  .call .done

/-- Two blocks up to the head. -/
theorem feeHistory_of_two : CoversUpTo 5 (some [25, 75]) (historyOf 4 2 2) := by
  have ran : Ran ((serviceWith true).feeHistory 2 .latest (some [25, 75])).run ([headAsked 5] ++ [feeAsked none])
      (.ok (.history (historyOf 4 2 2))) := .call (.call .done)
  exact (feeHistory_iff (Nat.le_refl 5) (ran_head 5) ran (by decide)).mpr (by decide)

/-- For every range that ends at or below the head. -/
def AlwaysCovers (service : FeeService) : Prop :=
  ∀ (blockCount : Int) (newestBlock : BlockParam) (rewardPercentiles : Option (List Nat))
    (latestBlockNumber newestBlockNumber : Nat) (history : FeeHistory)
    (asked rest : List (Exchange MirrorOp MirrorOp.Answer)),
    0 < blockCount → newestBlockNumber ≤ latestBlockNumber →
      Ran (FeeService.blockNumbers newestBlock).run asked (.ok (latestBlockNumber, newestBlockNumber)) →
      Ran (service.feeHistory blockCount newestBlock rewardPercentiles).run (asked ++ rest) (.ok (.history history)) →
      history ≠ feeHistoryEmptyResponse → CoversUpTo newestBlockNumber rewardPercentiles history

/-- Ten blocks up to block five are block one with a fixed fee, and two blocks up to block zero
have two rows of rewards otherwise. -/
theorem ranges_not_covered : ¬ AlwaysCovers (serviceWith true) ∧ ¬ AlwaysCovers (serviceWith false) := by
  constructor
  · intro covers
    have ran : Ran ((serviceWith true).feeHistory 10 .latest (some [25, 75])).run ([headAsked 5] ++ [feeAsked none])
        (.ok (.history (historyOf 1 1 1))) := .call (.call .done)
    obtain ⟨fees, ratios, -, used, ends, -⟩ :=
      covers 10 .latest _ 5 5 _ _ _ (by decide) (Nat.le_refl 5) (ran_head 5) ran (by decide)
    cases used
    exact absurd ends (by decide)
  · intro covers
    have ran : Ran ((serviceWith false).feeHistory 2 .latest (some [25, 75])).run
        ([headAsked 0] ++ [⟨.getBlockByNumber 0, some (some (blockOf 0))⟩, feeAsked (some 1700000001999999999)])
        (.ok (.history (historyOf 0 1 2))) := .call (.call (.call .done))
    obtain ⟨fees, ratios, -, used, -, -, rewards⟩ :=
      covers 2 .latest _ 0 0 _ _ _ (by decide) (Nat.le_refl 0) (ran_head 0) ran (by decide)
    cases used
    obtain ⟨rows, given, length, -⟩ := rewards [25, 75] rfl (List.cons_ne_nil _ _)
    cases given
    exact absurd length (by decide)

end HieroRelay.Fees
