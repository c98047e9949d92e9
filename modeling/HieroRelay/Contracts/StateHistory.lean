import HieroRelay.Lib.Timeline
import Mathlib.Data.Nat.Basic
import Mathlib.Order.Basic

/-! What the mirror node knows of the state of contracts, while blocks are added to it. -/

namespace HieroRelay.Contracts

open HieroRelay.Lib

structure StateBlock where
  number : Nat
  hash : String
  timestampFrom : Nat
  timestampTo : Nat
  spans : timestampFrom ≤ timestampTo

/-- A contract as its entity is shown; the bytecode may be null. -/
structure ContractEntity where
  createdTimestamp : Nat
  runtimeBytecode : Option String
  deriving Repr, DecidableEq

structure TokenEntity where
  createdTimestamp : Nat
  deriving Repr, DecidableEq

/-- The blocks from block 0 on, which is always there, and the writes to the storage of all contracts,
each of which is in a block. -/
structure StateHistory where
  blocks : List StateBlock
  started : blocks ≠ []
  numbered : ∀ (number : Nat) (block : StateBlock), blocks[number]? = some block → block.number = number
  ordered : blocks.Pairwise fun (earlier later : StateBlock) => earlier.timestampTo < later.timestampFrom
  storage : Timeline Nat (String × String) String
  written : ∀ write ∈ storage, ∃ block ∈ blocks, write.time ≤ block.timestampTo
  contracts : String → Option ContractEntity
  tokens : String → Option TokenEntity

def ZERO_HEX_32_BYTE : String := "0x0000000000000000000000000000000000000000000000000000000000000000"

def EMPTY_HEX : String := "0x"

namespace StateHistory

/-- Blocks are only added, with what was written in them. -/
structure Grows (earlier later : StateHistory) : Prop where
  blocks : earlier.blocks <+: later.blocks
  storage : ∃ more, later.storage = earlier.storage ++ more ∧
    ∀ write ∈ more, ∀ block ∈ earlier.blocks, block.timestampTo < write.time
  contracts : ∀ address contract, earlier.contracts address = some contract → later.contracts address = some contract
  tokens : ∀ address token, earlier.tokens address = some token → later.tokens address = some token

variable (history : StateHistory)

/-- The value of a slot at a time, or now. -/
def valueOf (address slot : String) : Option Nat → Option String
  | some timestamp => history.storage.valueAt timestamp (address, slot)
  | none => history.storage.current (address, slot)

/-- The value of a slot at the end of a block. -/
def storageAfter (block : StateBlock) (address slot : String) : String :=
  (history.storage.valueAt block.timestampTo (address, slot)).getD ZERO_HEX_32_BYTE

/-- The code of a contract at the end of a block. -/
def codeAfter (block : StateBlock) (address : String) : Option String :=
  match history.contracts address with
  | some contract => if contract.createdTimestamp ≤ block.timestampTo then contract.runtimeBytecode else some EMPTY_HEX
  | none => some EMPTY_HEX

variable {history} {earlier later : StateHistory} {block : StateBlock}

theorem Grows.refl (history : StateHistory) : history.Grows history where
  blocks := List.prefix_refl _
  storage := ⟨[], (List.append_nil _).symm, fun _ member => absurd member List.not_mem_nil⟩
  contracts _ _ known := known
  tokens _ _ known := known

/-- The next block, with the writes in it. -/
def addBlock (history : StateHistory) (block : StateBlock) (writes : Timeline Nat (String × String) String)
    (next : block.number = history.blocks.length)
    (later : ∀ earlier ∈ history.blocks, earlier.timestampTo < block.timestampFrom)
    (within : ∀ write ∈ writes, block.timestampFrom ≤ write.time ∧ write.time ≤ block.timestampTo) : StateHistory where
  blocks := history.blocks ++ [block]
  started := List.append_ne_nil_of_left_ne_nil history.started _
  numbered number other found := by
    rw [List.getElem?_append] at found
    split at found
    next => exact history.numbered number other found
    next outside =>
      rw [List.getElem?_singleton] at found
      split at found
      next same =>
        cases found
        omega
      next => cases found
  ordered := by
    refine List.pairwise_append.mpr ⟨history.ordered, List.pairwise_singleton _ _, ?_⟩
    intro earlier present added member
    rw [List.mem_singleton.mp member]
    exact later earlier present
  storage := history.storage ++ writes
  written write member := by
    rcases List.mem_append.mp member with old | new
    · obtain ⟨earlier, present, le⟩ := history.written write old
      exact ⟨earlier, List.mem_append_left _ present, le⟩
    · exact ⟨block, List.mem_append_right _ List.mem_cons_self, (within write new).2⟩
  contracts := history.contracts
  tokens := history.tokens

theorem grows_addBlock {writes : Timeline Nat (String × String) String} (next : block.number = history.blocks.length)
    (later : ∀ earlier ∈ history.blocks, earlier.timestampTo < block.timestampFrom)
    (within : ∀ write ∈ writes, block.timestampFrom ≤ write.time ∧ write.time ≤ block.timestampTo) :
    history.Grows (history.addBlock block writes next later within) where
  blocks := List.prefix_append _ _
  storage := ⟨writes, rfl, fun write member earlier present =>
    (later earlier present).trans_le (within write member).1⟩
  contracts _ _ known := known
  tokens _ _ known := known

/-- The value at the end of a block stays. -/
theorem Grows.storageAfter (grows : earlier.Grows later) (present : block ∈ earlier.blocks) (address slot : String) :
    later.storageAfter block address slot = earlier.storageAfter block address slot := by
  obtain ⟨more, same, after⟩ := grows.storage
  have past : later.storage.valueAt block.timestampTo (address, slot) =
      earlier.storage.valueAt block.timestampTo (address, slot) := by
    rw [same]
    exact Timeline.valueAt_append fun write member => after write member block present
  rw [StateHistory.storageAfter, past]
  rfl

theorem block_of_number {other : StateBlock} (present : block ∈ history.blocks) (otherPresent : other ∈ history.blocks)
    (same : block.number = other.number) : block = other := by
  obtain ⟨position, found⟩ := List.mem_iff_getElem?.mp present
  obtain ⟨otherPosition, otherFound⟩ := List.mem_iff_getElem?.mp otherPresent
  rw [history.numbered position block found, history.numbered otherPosition other otherFound] at same
  rw [same, otherFound] at found
  exact (Option.some.inj found).symm

/-- No block ends after the head. -/
theorem timestampTo_le_head {head : StateBlock} (last : history.blocks.getLast? = some head)
    (present : block ∈ history.blocks) : block.timestampTo ≤ head.timestampTo := by
  obtain ⟨before, split⟩ := List.getLast?_eq_some_iff.mp last
  have ordered := history.ordered
  rw [split] at ordered present
  rcases List.mem_append.mp present with earlier | isHead
  · have apart := (List.pairwise_append.mp ordered).2.2 block earlier head List.mem_cons_self
    exact (apart.trans_le head.spans).le
  · rw [List.mem_singleton.mp isHead]

/-- At the end of the head the storage is as it is now. -/
theorem storageAfter_head {head : StateBlock} (last : history.blocks.getLast? = some head) (address slot : String) :
    history.storageAfter head address slot = (history.storage.current (address, slot)).getD ZERO_HEX_32_BYTE := by
  rw [storageAfter, Timeline.valueAt_eq_current]
  intro write member
  obtain ⟨block, present, le⟩ := history.written write member
  exact le.trans (timestampTo_le_head last present)

end StateHistory

end HieroRelay.Contracts
