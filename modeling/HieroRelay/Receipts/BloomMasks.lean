import HieroRelay.Receipts.ReceiptRecords
import Mathlib.Algebra.Group.Nat.Defs
import Mathlib.Data.List.Induction

/-! A bloom as the number of 2048 bits that Ethereum reads: the masks of its items, one above the
other. -/

namespace HieroRelay.Receipts

open HieroRelay.Blocks
open LogsBloomUtils

section BigEndian

/-- The first byte is the highest. -/
def bloomNumber (bytes : List (BitVec 8)) : Nat := bytes.foldl (fun number byte => number * 256 + byte.toNat) 0

variable {bytes : List (BitVec 8)} {loc : Nat}

private theorem bloomNumber_concat (bytes : List (BitVec 8)) (byte : BitVec 8) :
    bloomNumber (bytes ++ [byte]) = 2 ^ 8 * bloomNumber bytes + byte.toNat := by
  rw [bloomNumber, List.foldl_append, List.foldl_cons, List.foldl_nil, Nat.mul_comm]
  rfl

private theorem testBit_bloomNumber (bytes : List (BitVec 8)) (loc : Nat) :
    (bloomNumber bytes).testBit loc = (bytes.reverse[loc / 8]?.map fun byte => byte.getLsbD (loc % 8)).getD false := by
  induction bytes using List.reverseRecOn generalizing loc with
  | nil => simp [bloomNumber]
  | append_singleton bytes byte ih =>
    rw [bloomNumber_concat, Nat.testBit_two_pow_mul_add _ byte.isLt, List.reverse_concat]
    split
    · next low =>
      have first : loc / 8 = 0 := by omega
      have bit : loc % 8 = loc := by omega
      rw [first, bit]
      rfl
    · next high =>
      obtain ⟨lower, rfl⟩ : ∃ lower, loc = lower + 8 := ⟨loc - 8, by omega⟩
      have later : (lower + 8) / 8 = lower / 8 + 1 := by omega
      have bit : (lower + 8) % 8 = lower % 8 := by omega
      rw [Nat.add_sub_cancel, ih, later, bit]
      rfl

/-- The bits of the bytes are those of the number. -/
theorem hasBit_iff_testBit (size : bytes.length = BYTE_SIZE) (small : loc < 2048) :
    HasBit bytes loc ↔ (bloomNumber bytes).testBit loc = true := by
  have place : bytes.reverse[loc / 8]? = bytes[BYTE_SIZE - loc / 8 - 1]? := by
    rw [List.getElem?_reverse (by rw [size, BYTE_SIZE]; omega), size]
    congr 1
    omega
  rw [testBit_bloomNumber, place, HasBit]
  cases bytes[BYTE_SIZE - loc / 8 - 1]? <;> simp

end BigEndian

section Masks

variable (keccak256 : String → Digest) {address : String} {topics : List String} {item : String} {loc : Nat}

private theorem high_lt (i : Fin 3) : 2 * i.val < 32 := by omega

private theorem low_lt (i : Fin 3) : 2 * i.val + 1 < 32 := by omega

/-- One of the first three words of a hash. -/
def word (digest : Digest) (i : Fin 3) : BitVec 16 :=
  digest.get ⟨2 * i.val, high_lt i⟩ ++ digest.get ⟨2 * i.val + 1, low_lt i⟩

/-- The low eleven bits of a word. -/
def bitOf (digest : Digest) (i : Fin 3) : Nat := (word digest i).toNat % 2048

/-- The three bits of an item. -/
def mask (item : String) : BitVec 2048 :=
  BitVec.twoPow 2048 (bitOf (keccak256 item) 0) ||| BitVec.twoPow 2048 (bitOf (keccak256 item) 1) |||
    BitVec.twoPow 2048 (bitOf (keccak256 item) 2)

def masks (items : List String) : BitVec 2048 := items.foldr (fun item bits => mask keccak256 item ||| bits) 0

/-- The number that a bloom is the text of. -/
def bloomBits (bloom : String) : BitVec 2048 := BitVec.ofNat 2048 (bloomNumber (bloomBytes bloom))

private theorem location_eq (digest : Digest) (i : Fin 3) : location digest i = bitOf digest i := by
  have whole : (word digest i).toNat = digest[2 * i.val].toNat * 256 + digest[2 * i.val + 1].toNat := by
    have low : digest[2 * i.val + 1].toNat < 2 ^ 8 := digest[2 * i.val + 1].isLt
    calc (word digest i).toNat
      _ = digest[2 * i.val].toNat * 2 ^ 8 ||| digest[2 * i.val + 1].toNat := by
        rw [word, BitVec.toNat_append, Nat.shiftLeft_eq]
        rfl
      _ = 2 ^ 8 * digest[2 * i.val].toNat + digest[2 * i.val + 1].toNat := by
        rw [Nat.mul_comm, Nat.two_pow_add_eq_or_of_lt low]
      _ = digest[2 * i.val].toNat * 256 + digest[2 * i.val + 1].toNat := by omega
  rw [location, bitOf, whole, MASK, Nat.and_comm]
  exact Nat.and_two_pow_sub_one_eq_mod _ 11

private theorem mem_locations_iff : loc ∈ locations keccak256 item ↔ ∃ i, loc = bitOf (keccak256 item) i := by
  simp only [locations, List.mem_map, List.mem_finRange, true_and, location_eq, eq_comm]

private theorem bitOf_lt (digest : Digest) (i : Fin 3) : bitOf digest i < 2048 := Nat.mod_lt _ (by decide)

theorem getLsbD_mask : (mask keccak256 item).getLsbD loc = true ↔ ∃ i, loc = bitOf (keccak256 item) i := by
  have bound := bitOf_lt (keccak256 item)
  have first := bound 0
  have second := bound 1
  have third := bound 2
  simp only [mask, BitVec.getLsbD_or, BitVec.getLsbD_twoPow, Bool.or_eq_true, Bool.and_eq_true, decide_eq_true_eq]
  constructor
  · rintro ((⟨-, same⟩ | ⟨-, same⟩) | ⟨-, same⟩)
    · exact ⟨0, same.symm⟩
    · exact ⟨1, same.symm⟩
    · exact ⟨2, same.symm⟩
  · rintro ⟨i, rfl⟩
    match i with
    | 0 => exact .inl (.inl ⟨first, rfl⟩)
    | 1 => exact .inl (.inr ⟨second, rfl⟩)
    | 2 => exact .inr ⟨third, rfl⟩

theorem getLsbD_masks (items : List String) :
    (masks keccak256 items).getLsbD loc = true ↔ ∃ item ∈ items, ∃ i, loc = bitOf (keccak256 item) i := by
  induction items with
  | nil => simp [masks]
  | cons item rest ih =>
    change (mask keccak256 item ||| masks keccak256 rest).getLsbD loc = true ↔ _
    rw [BitVec.getLsbD_or, Bool.or_eq_true, ih, getLsbD_mask, List.exists_mem_cons_iff]

/-- The bloom is the union of the masks. -/
theorem bloomBits_buildLogsBloom (named : address ≠ "") (topical : topics ≠ []) :
    bloomBits (buildLogsBloom keccak256 address topics) = masks keccak256 (address :: topics) := by
  have shown : shownItems address topics = address :: topics := by
    have someAddress : address.length ≠ 0 := fun none => named (String.length_eq_zero_iff.mp none)
    have someTopic : topics.length ≠ 0 := fun none => topical (List.length_eq_zero_iff.mp none)
    exact if_neg (not_or.mpr ⟨someAddress, someTopic⟩)
  refine BitVec.eq_of_getLsbD_eq fun loc small => Bool.eq_iff_iff.mpr ?_
  rw [bloomBits, BitVec.getLsbD_ofNat, decide_eq_true small, Bool.true_and, bloomBytes_buildLogsBloom, shown,
    ← hasBit_iff_testBit (length_bloomOf _) small, hasBit_bloomOf_iff small, getLsbD_masks, List.mem_flatMap]
  simp only [mem_locations_iff]

/-- The bits of a bloom are exactly those of its items, so that every item is found in it, and neither
the order of the topics nor their repetition counts. -/
theorem buildLogsBloom_bits (named : address ≠ "") (topical : topics ≠ []) :
    (bloomBytes (buildLogsBloom keccak256 address topics)).length = 256 ∧
      (∀ loc, (bloomBits (buildLogsBloom keccak256 address topics)).getLsbD loc = true ↔
        ∃ item ∈ address :: topics, ∃ i : Fin 3, loc = (word (keccak256 item) i).toNat % 2048) ∧
      bloomBits (buildLogsBloom keccak256 address topics) =
        (address :: topics).foldr (fun item bits => mask keccak256 item ||| bits) 0 ∧
      (∀ item ∈ address :: topics,
        bloomBits (buildLogsBloom keccak256 address topics) &&& mask keccak256 item = mask keccak256 item) ∧
      ∀ others : List String, (∀ topic, topic ∈ others ↔ topic ∈ topics) →
        buildLogsBloom keccak256 address others = buildLogsBloom keccak256 address topics := by
  have bits := @bloomBits_buildLogsBloom keccak256 address topics named topical
  refine ⟨?_, ?_, bits, ?_, ?_⟩
  · rw [bloomBytes_buildLogsBloom]
    exact length_bloomOf _
  · intro loc
    rw [bits]
    exact getLsbD_masks keccak256 _
  · intro item listed
    refine BitVec.eq_of_getLsbD_eq fun loc _ => Bool.eq_iff_iff.mpr ?_
    rw [bits, BitVec.getLsbD_and, Bool.and_eq_true, getLsbD_masks, getLsbD_mask]
    exact and_iff_right_of_imp fun own => ⟨item, listed, own⟩
  · intro others same
    have items : ∀ item, item ∈ shownItems address others ↔ item ∈ shownItems address topics := by
      have empty : others = [] ↔ topics = [] := by
        simp only [List.eq_nil_iff_forall_not_mem, same]
      simp only [shownItems, List.length_eq_zero_iff, empty]
      split <;> simp [same]
    have bytes : bloomOf keccak256 (shownItems address others) = bloomOf keccak256 (shownItems address topics) := by
      refine eq_of_hasBit (length_bloomOf _) (length_bloomOf _) fun loc small => ?_
      rw [hasBit_bloomOf_iff small, hasBit_bloomOf_iff small]
      simp only [List.mem_flatMap, items]
    rw [buildLogsBloom_eq, buildLogsBloom_eq, bytes]

theorem buildLogsBloom_bits_transfer :
    (bloomBits (buildLogsBloom (fun _ => Vector.replicate 32 1) "0xa" ["0xb"])).getLsbD 257 = true :=
  ((buildLogsBloom_bits (fun _ => Vector.replicate 32 1) (by decide) (by decide)).2.1 257).mpr
    ⟨"0xa", List.mem_cons_self, 0, by decide⟩

end Masks

end HieroRelay.Receipts
