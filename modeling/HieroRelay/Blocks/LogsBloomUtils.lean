import HieroRelay.Blocks.Formatters
import Mathlib.Data.List.Basic

/-! The bloom of a synthetic transaction, and what a reader of the bloom finds in it. -/

namespace HieroRelay.Blocks

/-- The 32 bytes of a hash. -/
abbrev Digest := Vector (BitVec 8) 32

/-- `Buffer.from(bytes).toString('hex')` -/
def bytesToHex (bytes : List (BitVec 8)) : List Char :=
  bytes.flatMap fun byte => [Nat.digitChar (byte.toNat / 16), Nat.digitChar (byte.toNat % 16)]

def hexToBytes : List Char → List (BitVec 8)
  | first :: second :: rest =>
      BitVec.ofNat 8 ((hexDigit? first).getD 0 * 16 + (hexDigit? second).getD 0) :: hexToBytes rest
  | _ => []

theorem hexDigit?_digitChar (digit : Fin 16) : hexDigit? (Nat.digitChar digit) = some digit.val := by
  revert digit
  decide

theorem hexToBytes_bytesToHex (bytes : List (BitVec 8)) : hexToBytes (bytesToHex bytes) = bytes := by
  induction bytes with
  | nil => rfl
  | cons byte rest ih =>
      have high : hexDigit? (Nat.digitChar (byte.toNat / 16)) = some (byte.toNat / 16) :=
        hexDigit?_digitChar ⟨byte.toNat / 16, by have := byte.isLt; omega⟩
      have low : hexDigit? (Nat.digitChar (byte.toNat % 16)) = some (byte.toNat % 16) :=
        hexDigit?_digitChar ⟨byte.toNat % 16, by omega⟩
      change BitVec.ofNat 8 _ :: hexToBytes (bytesToHex rest) = byte :: rest
      rw [high, low, ih]
      congr 1
      apply BitVec.eq_of_toNat_eq
      simp only [Option.getD_some, BitVec.toNat_ofNat]
      have := byte.isLt
      omega

namespace LogsBloomUtils

def BYTE_SIZE : Nat := 256

def MASK : Nat := 0x7ff

def EMPTY_BLOOM : String := "0x" ++ String.ofList (List.replicate 512 '0')

/-- The location that two bytes of the hash give. -/
def location (digest : Digest) (i : Fin 3) : Nat :=
  MASK &&& (digest[2 * i.val].toNat * 256 + digest[2 * i.val + 1].toNat)

def setLocation (bitvector : List (BitVec 8)) (loc : Nat) : List (BitVec 8) :=
  bitvector.modify (BYTE_SIZE - loc / 8 - 1) (· ||| BitVec.twoPow 8 (loc % 8))

variable (keccak256 : String → Digest)

def locations (item : String) : List Nat := (List.finRange 3).map (location (keccak256 item))

def buildLogsBloom (address : String) (topics : List String) : String :=
  if address.length = 0 then EMPTY_BLOOM
  else if topics.length = 0 then EMPTY_BLOOM
  else
    let bitvector := ((address :: topics).flatMap (locations keccak256)).foldl setLocation (List.replicate BYTE_SIZE 0)
    prepend0x (String.ofList (bytesToHex bitvector))

/-- The test of a bloom: all three bits of the item are set. -/
def HasBit (bytes : List (BitVec 8)) (loc : Nat) : Prop :=
  ∃ byte, bytes[BYTE_SIZE - loc / 8 - 1]? = some byte ∧ byte.getLsbD (loc % 8) = true

def Contains (bloom item : String) : Prop :=
  ∀ loc ∈ locations keccak256 item, HasBit (hexToBytes (strip0x bloom).toList) loc

instance (bytes : List (BitVec 8)) (loc : Nat) : Decidable (HasBit bytes loc) :=
  match present : bytes[BYTE_SIZE - loc / 8 - 1]? with
  | none => isFalse fun ⟨_, found, _⟩ => by rw [present] at found; cases found
  | some byte =>
      decidable_of_iff (byte.getLsbD (loc % 8) = true)
        ⟨fun set => ⟨byte, present, set⟩, fun ⟨_, found, set⟩ => by rw [present] at found; cases found; exact set⟩

theorem length_setLocation (bitvector : List (BitVec 8)) (loc : Nat) :
    (setLocation bitvector loc).length = bitvector.length := List.length_modify ..

theorem HasBit.setLocation {bitvector : List (BitVec 8)} {loc : Nat} (other : Nat) (set : HasBit bitvector loc) :
    HasBit (setLocation bitvector other) loc := by
  obtain ⟨byte, present, bit⟩ := set
  by_cases same : BYTE_SIZE - other / 8 - 1 = BYTE_SIZE - loc / 8 - 1
  · refine ⟨byte ||| BitVec.twoPow 8 (other % 8), ?_, ?_⟩
    · simp [LogsBloomUtils.setLocation, same, present]
    · simp [bit]
  · refine ⟨byte, ?_, bit⟩
    simp [LogsBloomUtils.setLocation, same, present]

theorem hasBit_setLocation (bitvector : List (BitVec 8)) (loc : Nat) (size : bitvector.length = BYTE_SIZE) :
    HasBit (setLocation bitvector loc) loc := by
  have inside : BYTE_SIZE - loc / 8 - 1 < bitvector.length := by
    rw [size]
    simp only [BYTE_SIZE]
    omega
  refine ⟨bitvector[BYTE_SIZE - loc / 8 - 1] ||| BitVec.twoPow 8 (loc % 8), ?_, ?_⟩
  · simp [setLocation, List.getElem?_eq_getElem inside]
  · have bit : loc % 8 < 8 := Nat.mod_lt _ (by decide)
    simp [bit]

/-- Every location that the loop visits is set in the end. -/
theorem hasBit_foldl (locs : List Nat) (bitvector : List (BitVec 8)) (size : bitvector.length = BYTE_SIZE)
    (loc : Nat) (visited : loc ∈ locs ∨ HasBit bitvector loc) :
    HasBit (locs.foldl setLocation bitvector) loc := by
  induction locs generalizing bitvector with
  | nil => simpa using visited
  | cons head rest ih =>
      apply ih (setLocation bitvector head) ((length_setLocation ..).trans size)
      rcases visited with inside | set
      · rcases List.mem_cons.mp inside with rfl | later
        · exact .inr (hasBit_setLocation bitvector loc size)
        · exact .inl later
      · exact .inr (set.setLocation head)

theorem not_startsWith_bytesToHex (bytes : List (BitVec 8)) :
    startsWith (String.ofList (bytesToHex bytes)) "0x" = false := by
  cases bytes with
  | nil => rfl
  | cons byte rest =>
      have digit : ∀ digit : Fin 16, Nat.digitChar digit ≠ 'x' := by decide
      have plain : Nat.digitChar (byte.toNat % 16) ≠ 'x' := digit ⟨byte.toNat % 16, by omega⟩
      simp [startsWith, bytesToHex, List.isPrefixOf, plain.symm]

theorem strip0x_prepend0x_bytesToHex (bytes : List (BitVec 8)) :
    strip0x (prepend0x (String.ofList (bytesToHex bytes))) = String.ofList (bytesToHex bytes) := by
  rw [prepend0x, not_startsWith_bytesToHex]
  exact strip0x_append _

/-- The address and every topic are found, where there is an address and a topic. -/
theorem contains_buildLogsBloom (address : String) (topics : List String) (named : address ≠ "")
    (topical : topics ≠ []) (item : String) (listed : item ∈ address :: topics) :
    Contains keccak256 (buildLogsBloom keccak256 address topics) item := by
  intro loc visited
  have someAddress : address.length ≠ 0 := fun none => named (String.length_eq_zero_iff.mp none)
  have someTopic : topics.length ≠ 0 := fun none => topical (List.length_eq_zero_iff.mp none)
  rw [buildLogsBloom, if_neg someAddress, if_neg someTopic, strip0x_prepend0x_bytesToHex, String.toList_ofList,
    hexToBytes_bytesToHex]
  apply hasBit_foldl _ _ List.length_replicate
  exact .inl (List.mem_flatMap.mpr ⟨item, listed, visited⟩)

private theorem hexToBytes_replicate (size : Nat) :
    hexToBytes (List.replicate (2 * size) '0') = List.replicate size (0 : BitVec 8) := by
  induction size with
  | zero => rfl
  | succ size ih =>
      rw [Nat.mul_succ, List.replicate_succ, List.replicate_succ, hexToBytes, ih]
      rfl

/-- Nothing is found in the empty bloom. -/
theorem not_contains_emptyBloom (item : String) : ¬ Contains keccak256 EMPTY_BLOOM item := by
  intro found
  have visited : location (keccak256 item) 0 ∈ locations keccak256 item :=
    List.mem_map.mpr ⟨0, List.mem_finRange 0, rfl⟩
  obtain ⟨byte, present, bit⟩ := found _ visited
  have zeros : hexToBytes (strip0x EMPTY_BLOOM).toList = List.replicate 256 0 := by
    rw [← hexToBytes_replicate, EMPTY_BLOOM, strip0x_append, String.toList_ofList]
  rw [zeros, List.getElem?_replicate] at present
  split at present
  · obtain rfl := Option.some.inj present
    simp at bit
  · cases present

end LogsBloomUtils

end HieroRelay.Blocks
