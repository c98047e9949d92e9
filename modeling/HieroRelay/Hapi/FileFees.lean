import HieroRelay.Hapi.FileUploads
import Mathlib.Algebra.Order.Ring.Int
import Mathlib.Data.Rat.Floor
import Mathlib.Tactic.Linarith
import Mathlib.Tactic.Ring

/-! The estimate of what the transactions of a file cost, against the chunks that are sent: it
counts the base fee of a last append also where no part of a chunk is left. -/

namespace HieroRelay.Hapi

variable {chunkSize : Nat} {contents : List Char}

/-- The contents that are appended, in one transaction for each chunk. -/
def chunks (chunkSize : Nat) : (fuel : Nat) → List Char → List (List Char)
  | 0, _ => []
  | fuel + 1, contents =>
      if contents = [] then [] else contents.take chunkSize :: chunks chunkSize fuel (contents.drop chunkSize)

def FileAppendTransaction.chunks (fileAppendTx : FileAppendTransaction) : List (List Char) :=
  Hapi.chunks fileAppendTx.chunkSize fileAppendTx.contents.length fileAppendTx.contents.toList

/-- In cents: a full chunk has the price of one, a part of a chunk its price by the character. -/
def chunkPrice (chunkSize : Nat) (chunk : List Char) : Rat :=
  if chunk.length = chunkSize then FILE_APPEND_PER_5_KB
  else FILE_APPEND_BASE_FEE + chunk.length * FILE_APPEND_RATE_PER_BYTE

def Upload.price : Upload → Rat
  | .created _ => FILE_CREATE_PER_5_KB
  | .appended fileAppendTx => (fileAppendTx.chunks.map (chunkPrice fileAppendTx.chunkSize)).sum
  | .received _ => 0
  | .submitted _ _ => 0

/-- The price of the file that takes these digits, in cents. -/
def filePrice (hexedCallData : List Char) (chunkSize : Nat) : Rat :=
  FILE_CREATE_PER_5_KB + ((chunks chunkSize (hexedCallData.drop chunkSize).length
    (hexedCallData.drop chunkSize)).map (chunkPrice chunkSize)).sum

/-- The price is the one of what `createFile` sends. -/
theorem price_fileUploads (client : SDKClient) (callData : List UInt8) (fileId : FileId) :
    ((fileUploads client callData fileId).map Upload.price).sum =
      filePrice (toHexText callData) client.fileAppendChunkSize := by
  have appended : ∀ contents : List Char, FileAppendTransaction.chunks {
        fileId, contents := String.ofList contents, chunkSize := client.fileAppendChunkSize, maxChunks := client.maxChunks } =
      chunks client.fileAppendChunkSize contents.length contents := by
    intro contents
    rw [FileAppendTransaction.chunks, String.length_ofList, String.toList_ofList]
  simp only [fileUploads, List.map_cons, List.map_nil, List.sum_cons, List.sum_nil, Upload.price, appended, filePrice]
  ring

/-- The full chunks, and what is left after them. -/
theorem sum_chunks {fuel : Nat} (positive : 0 < chunkSize) (enough : contents.length ≤ fuel) :
    ((chunks chunkSize fuel contents).map (chunkPrice chunkSize)).sum =
      (contents.length / chunkSize : Nat) * FILE_APPEND_PER_5_KB +
        if contents.length % chunkSize = 0 then 0
        else FILE_APPEND_BASE_FEE + (contents.length % chunkSize : Nat) * FILE_APPEND_RATE_PER_BYTE := by
  induction fuel generalizing contents with
  | zero =>
    obtain rfl := List.length_eq_zero_iff.mp (Nat.le_zero.mp enough)
    simp [chunks]
  | succ fuel ih =>
    by_cases empty : contents = []
    · subst empty
      simp [chunks]
    · have some : 0 < contents.length := List.length_pos_iff.mpr empty
      have shorter : (contents.drop chunkSize).length ≤ fuel := by
        rw [List.length_drop]
        omega
      rw [chunks, if_neg empty, List.map_cons, List.sum_cons, ih shorter, List.length_drop, chunkPrice, List.length_take]
      rcases Nat.lt_or_ge contents.length chunkSize with part | full
      · have differ : contents.length ≠ chunkSize := Nat.ne_of_lt part
        rw [Nat.min_eq_right (Nat.le_of_lt part), if_neg differ, Nat.sub_eq_zero_of_le (Nat.le_of_lt part),
          Nat.div_eq_of_lt part, Nat.mod_eq_of_lt part, if_neg (Nat.ne_of_gt some)]
        simp
      · rw [Nat.min_eq_left full, if_pos rfl, Nat.div_eq_sub_div positive full, Nat.mod_eq_sub_mod full]
        push_cast
        ring

/-- Adding to a number leaves its whole part as it is, where the rest has room for it. -/
theorem floor_add_eq_iff {value more : Rat} (positive : 0 ≤ more) :
    (value + more).floor = value.floor ↔ Int.fract value + more < 1 := by
  have whole : Int.fract value + (value.floor : Rat) = value := Int.fract_add_floor value
  have least : 0 ≤ Int.fract value := Int.fract_nonneg value
  change ⌊value + more⌋ = value.floor ↔ _
  rw [Int.floor_eq_iff]
  constructor
  · rintro ⟨-, below⟩
    linarith
  · intro below
    constructor <;> linarith

/-- `Math.round` of what is left in cents, in tinybars. -/
def inTinybars (cents rate : Rat) : Int := mathRound (cents / rate * HBAR_TO_TINYBAR_COEF)

/-- The price of a file whose chunks are all full. -/
def fullChunksPrice (size chunkSize : Nat) : Rat :=
  FILE_CREATE_PER_5_KB + FILE_APPEND_PER_5_KB * ((size / chunkSize : Nat) - 1)

theorem filePrice_eq (positive : 0 < chunkSize) (long : chunkSize < contents.length) :
    filePrice contents chunkSize = fullChunksPrice contents.length chunkSize +
      if contents.length % chunkSize = 0 then 0
      else FILE_APPEND_BASE_FEE + (contents.length % chunkSize : Nat) * FILE_APPEND_RATE_PER_BYTE := by
  rw [filePrice, sum_chunks positive (Nat.le_refl _), List.length_drop, fullChunksPrice,
    Nat.div_eq_sub_div positive (Nat.le_of_lt long), Nat.mod_eq_sub_mod (Nat.le_of_lt long)]
  push_cast
  ring

/-- The base fee is there whether or not a part of a chunk is left. -/
theorem estimateFileTransactionsFee_eq (size chunkSize : Nat) (rate : Rat) :
    estimateFileTransactionsFee size chunkSize rate =
      inTinybars (fullChunksPrice size chunkSize +
        (FILE_APPEND_BASE_FEE + (size % chunkSize : Nat) * FILE_APPEND_RATE_PER_BYTE)) rate := rfl

/-- The estimate is the price of what is sent, unless a whole number of chunks is sent and the base
fee of one more append shows in the rounded number. -/
theorem estimateFileTransactionsFee_eq_iff (hexedCallData : List Char) (chunkSize : Nat) (rate : Rat)
    (positive : 0 < chunkSize) (long : chunkSize < hexedCallData.length) (ratePositive : 0 < rate) :
    estimateFileTransactionsFee hexedCallData.length chunkSize rate = inTinybars (filePrice hexedCallData chunkSize) rate ↔
      ¬ chunkSize ∣ hexedCallData.length ∨
        Int.fract (fullChunksPrice hexedCallData.length chunkSize / rate * HBAR_TO_TINYBAR_COEF + 1 / 2) +
          FILE_APPEND_BASE_FEE / rate * HBAR_TO_TINYBAR_COEF < 1 := by
  rw [estimateFileTransactionsFee_eq, filePrice_eq positive long, Nat.dvd_iff_mod_eq_zero]
  by_cases whole : hexedCallData.length % chunkSize = 0
  · rw [if_pos whole, whole, or_iff_right (not_not.mpr rfl)]
    have added : (fullChunksPrice hexedCallData.length chunkSize + (FILE_APPEND_BASE_FEE +
          (0 : Nat) * FILE_APPEND_RATE_PER_BYTE)) / rate * HBAR_TO_TINYBAR_COEF + 1 / 2 =
        (fullChunksPrice hexedCallData.length chunkSize / rate * HBAR_TO_TINYBAR_COEF + 1 / 2) +
          FILE_APPEND_BASE_FEE / rate * HBAR_TO_TINYBAR_COEF := by
      push_cast
      ring
    have nonneg : 0 ≤ FILE_APPEND_BASE_FEE / rate * HBAR_TO_TINYBAR_COEF := by
      unfold FILE_APPEND_BASE_FEE HBAR_TO_TINYBAR_COEF
      positivity
    rw [← floor_add_eq_iff nonneg, ← added, add_zero]
    rfl
  · rw [if_neg whole]
    exact iff_of_true rfl (.inl whole)

/-- At twelve cents, three digits that go into a file in chunks of two are priced as they are sent. -/
theorem estimateFileTransactionsFee_three :
    estimateFileTransactionsFee 3 2 12 = inTinybars (filePrice ['0', '1', '0'] 2) 12 :=
  (estimateFileTransactionsFee_eq_iff ['0', '1', '0'] 2 12 (by decide) (by decide) (by norm_num)).mpr
    (.inl (by decide))

/-- 7680 bytes fill three chunks, two of which are appended. -/
theorem estimateFileTransactionsFee_fullChunks_fails :
    ¬ ∀ (hexedCallData : List Char) (chunkSize : Nat) (rate : Rat), 0 < chunkSize →
      chunkSize < hexedCallData.length → 0 < rate →
      estimateFileTransactionsFee hexedCallData.length chunkSize rate =
        inTinybars (filePrice hexedCallData chunkSize) rate := by
  intro matches_
  have long : 5120 < (List.replicate 15360 '0').length := by
    rw [List.length_replicate]
    decide
  have same := matches_ (List.replicate 15360 '0') 5120 12 (by decide) long (by norm_num)
  rw [filePrice_eq (by decide) long, List.length_replicate] at same
  exact absurd same (by decide +kernel)

end HieroRelay.Hapi
