import HieroRelay.Blocks.BlockAnswers
import Mathlib.Algebra.Group.Nat.Defs

/-! The records that the root of the receipts is computed from: when the record of a transaction
depends on its own contract results and logs alone. -/

namespace HieroRelay.Receipts

open HieroRelay.Blocks
open HieroRelay.Blocks.LogsBloomUtils
open HieroRelay.Blocks.ReceiptsRootUtils
open HieroRelay.Filters (Log)

/-! The bits of a bloom. -/

variable {bitvector other : List (BitVec 8)} {loc loc' : Nat} {locs : List Nat} {keccak256 : String → Digest}

private theorem location_lt (digest : Digest) (i : Fin 3) : location digest i < 2048 :=
  Nat.lt_of_le_of_lt Nat.and_le_left (by decide)

private theorem locations_lt {item : String} (member : loc ∈ locations keccak256 item) : loc < 2048 := by
  obtain ⟨i, -, rfl⟩ := List.mem_map.mp member
  exact location_lt _ _

private theorem hasBit_setLocation_iff (small : loc < 2048) (small' : loc' < 2048)
    (size : bitvector.length = BYTE_SIZE) :
    HasBit (setLocation bitvector loc') loc ↔ loc = loc' ∨ HasBit bitvector loc := by
  constructor
  · rintro ⟨byte, present, bit⟩
    by_cases place : BYTE_SIZE - loc' / 8 - 1 = BYTE_SIZE - loc / 8 - 1
    · rw [setLocation, place, List.getElem?_modify_eq] at present
      obtain ⟨before, found, rfl⟩ := Option.map_eq_some_iff.mp present
      rw [BitVec.getLsbD_or, Bool.or_eq_true] at bit
      rcases bit with set | set
      · exact .inr ⟨before, found, set⟩
      · rw [BitVec.getLsbD_twoPow, Bool.and_eq_true, decide_eq_true_eq, decide_eq_true_eq] at set
        obtain ⟨-, sameBit⟩ := set
        simp only [BYTE_SIZE] at place
        exact .inl (by omega)
    · rw [setLocation, List.getElem?_modify_ne _ _ place] at present
      exact .inr ⟨byte, present, bit⟩
  · rintro (rfl | set)
    · exact hasBit_setLocation bitvector loc size
    · exact set.setLocation loc'

/-- The loop sets the locations that it visits, and no other. -/
theorem hasBit_foldl_iff (small : loc < 2048) (smalls : ∀ loc' ∈ locs, loc' < 2048)
    (size : bitvector.length = BYTE_SIZE) :
    HasBit (locs.foldl setLocation bitvector) loc ↔ loc ∈ locs ∨ HasBit bitvector loc := by
  induction locs generalizing bitvector with
  | nil => simp
  | cons head rest ih =>
    rw [List.forall_mem_cons] at smalls
    rw [List.foldl_cons, ih smalls.2 ((length_setLocation ..).trans size),
      hasBit_setLocation_iff small smalls.1 size, List.mem_cons]
    tauto

private theorem not_hasBit_zeros : ¬ HasBit (List.replicate BYTE_SIZE 0) loc := by
  rintro ⟨byte, present, bit⟩
  rw [List.getElem?_replicate] at present
  split at present
  · obtain rfl := Option.some.inj present
    simp at bit
  · cases present

/-- The bits determine the bytes. -/
theorem eq_of_hasBit (size : bitvector.length = BYTE_SIZE) (size' : other.length = BYTE_SIZE)
    (same : ∀ loc < 2048, HasBit bitvector loc ↔ HasBit other loc) : bitvector = other := by
  apply List.ext_getElem (size.trans size'.symm)
  intro i inside inside'
  apply BitVec.eq_of_getLsbD_eq
  intro j few
  rw [size] at inside
  simp only [BYTE_SIZE] at inside
  have place : BYTE_SIZE - ((255 - i) * 8 + j) / 8 - 1 = i := by
    simp only [BYTE_SIZE]
    omega
  have bit : ((255 - i) * 8 + j) % 8 = j := by omega
  have read : ∀ bytes : List (BitVec 8), (bound : i < bytes.length) →
      (HasBit bytes ((255 - i) * 8 + j) ↔ bytes[i].getLsbD j = true) := by
    intro bytes bound
    unfold HasBit
    rw [place, bit, List.getElem?_eq_getElem bound]
    simp
  rw [Bool.eq_iff_iff, ← read, ← read]
  exact same _ (by omega)

/-! The bloom of an address and topics. -/

def bloomBytes (bloom : String) : List (BitVec 8) := hexToBytes (strip0x bloom).toList

/-- The bloom has the bits of the items, and no other. -/
def Covers (keccak256 : String → Digest) (bloom : String) (items : List String) : Prop :=
  ∀ loc < 2048, HasBit (bloomBytes bloom) loc ↔ loc ∈ items.flatMap (locations keccak256)

/-- Nothing is shown without an address or without topics. -/
def shownItems (address : String) (topics : List String) : List String :=
  if address.length = 0 ∨ topics.length = 0 then [] else address :: topics

def bloomOf (keccak256 : String → Digest) (items : List String) : List (BitVec 8) :=
  (items.flatMap (locations keccak256)).foldl setLocation (List.replicate BYTE_SIZE 0)

private theorem bytesToHex_replicate (size : Nat) : bytesToHex (List.replicate size 0) = List.replicate
    (2 * size) '0' := by
  induction size with
  | zero => rfl
  | succ size ih =>
    rw [Nat.mul_succ, List.replicate_succ, List.replicate_succ, List.replicate_succ, ← ih]
    rfl

theorem buildLogsBloom_eq (address : String) (topics : List String) :
    buildLogsBloom keccak256 address topics =
      prepend0x (String.ofList (bytesToHex (bloomOf keccak256 (shownItems address topics)))) := by
  have zeros : EMPTY_BLOOM = prepend0x (String.ofList (bytesToHex (bloomOf keccak256 []))) := by
    rw [prepend0x, not_startsWith_bytesToHex, if_neg Bool.false_ne_true, bloomOf, List.flatMap_nil, List.foldl_nil,
      bytesToHex_replicate]
    rfl
  rw [buildLogsBloom, shownItems]
  by_cases unnamed : address.length = 0
  · rw [if_pos unnamed, if_pos (.inl unnamed)]
    exact zeros
  · by_cases untopical : topics.length = 0
    · rw [if_neg unnamed, if_pos untopical, if_pos (.inr untopical)]
      exact zeros
    · rw [if_neg unnamed, if_neg untopical, if_neg (not_or.mpr ⟨unnamed, untopical⟩)]
      rfl

theorem length_bloomOf (items : List String) : (bloomOf keccak256 items).length = BYTE_SIZE := by
  have kept : ∀ (locs : List Nat) (bytes : List (BitVec 8)), (locs.foldl setLocation bytes).length = bytes.length := by
    intro locs
    induction locs with
    | nil => exact fun _ => rfl
    | cons loc rest ih =>
      intro bytes
      rw [List.foldl_cons, ih, length_setLocation]
  rw [bloomOf, kept, List.length_replicate]

theorem flatMap_locations_lt {items : List String} (member : loc ∈ items.flatMap (locations keccak256)) : loc < 2048 := by
  obtain ⟨item, -, visited⟩ := List.mem_flatMap.mp member
  exact locations_lt visited

theorem hasBit_bloomOf_iff {items : List String} (small : loc < 2048) :
    HasBit (bloomOf keccak256 items) loc ↔ loc ∈ items.flatMap (locations keccak256) := by
  rw [bloomOf, hasBit_foldl_iff small (fun _ => flatMap_locations_lt) List.length_replicate]
  exact or_iff_left not_hasBit_zeros

theorem bloomBytes_buildLogsBloom (address : String) (topics : List String) :
    bloomBytes (buildLogsBloom keccak256 address topics) = bloomOf keccak256 (shownItems address topics) := by
  rw [buildLogsBloom_eq, bloomBytes, strip0x_prepend0x_bytesToHex, String.toList_ofList, hexToBytes_bytesToHex]

theorem covers_buildLogsBloom_iff {address : String} {topics items : List String} :
    Covers keccak256 (buildLogsBloom keccak256 address topics) items ↔
      ∀ loc, loc ∈ (shownItems address topics).flatMap (locations keccak256) ↔
        loc ∈ items.flatMap (locations keccak256) := by
  rw [Covers, bloomBytes_buildLogsBloom]
  constructor
  · intro covers loc
    by_cases small : loc < 2048
    · rw [← covers loc small, hasBit_bloomOf_iff small]
    · exact iff_of_false (fun member => small (flatMap_locations_lt member)) fun member =>
        small (flatMap_locations_lt member)
  · intro same loc small
    rw [hasBit_bloomOf_iff small, same]

/-- Items with the same bits have the same bloom. -/
theorem buildLogsBloom_eq_of_covers {first second : String} {topics items : List String}
    (covers : Covers keccak256 (buildLogsBloom keccak256 first topics) items)
    (covers' : Covers keccak256 (buildLogsBloom keccak256 second topics) items) :
    buildLogsBloom keccak256 first topics = buildLogsBloom keccak256 second topics := by
  have same : bloomOf keccak256 (shownItems first topics) = bloomOf keccak256 (shownItems second topics) := by
    apply eq_of_hasBit (length_bloomOf _) (length_bloomOf _)
    intro loc small
    rw [← bloomBytes_buildLogsBloom, ← bloomBytes_buildLogsBloom, covers loc small, covers' loc small]
  rw [buildLogsBloom_eq, buildLogsBloom_eq, same]

/-! The records of a block. -/

variable {relay : Relay} {contractResults otherResults : List ContractResult} {logs otherLogs : List Log}
  {txHash : String} {receipt receipt' : ReceiptRootHash}

def ownResults (contractResults : List ContractResult) (txHash : String) : List ContractResult :=
  contractResults.filter fun cr => cr.hash == txHash

def ownLogs (logs : List Log) (txHash : String) : List Log := logs.filter fun log => log.transactionHash == txHash

def ownItems (logs : List Log) (txHash : String) : List String :=
  (ownLogs logs txHash).flatMap fun log => log.address :: log.topics

/-- A transaction without a result has a bloom of its own logs. -/
def ExactBloom (relay : Relay) (contractResults : List ContractResult) (logs : List Log) (txHash : String)
    (receipt : ReceiptRootHash) : Prop :=
  ownResults contractResults txHash = [] → Covers relay.keccak256 receipt.logsBloom (ownItems logs txHash)

/-- The address of the first log of the block and the topics of the first log of the transaction
have the bits of all the logs of the transaction. -/
def FirstLogCovers (relay : Relay) (logs : List Log) (txHash : String) : Prop :=
  ∀ first ∈ logs.head?, ∀ own ∈ (ownLogs logs txHash).head?, ∀ loc,
    loc ∈ (shownItems first.address own.topics).flatMap (locations relay.keccak256) ↔
      loc ∈ (ownItems logs txHash).flatMap (locations relay.keccak256)

/-- The record of a transaction with a result. -/
def resultRecord (cr : ContractResult) (own : List Log) : ReceiptRootHash where
  cumulativeGasUsed := Filters.numberTo0x cr.blockGasUsed
  logs := own.map fun log => { address := log.address, data := log.data, topics := log.topics }
  logsBloom := cr.bloom
  root := cr.root
  status := cr.status
  transactionIndex := (nullableNumberTo0x cr.transactionIndex).or (own.head?.map Log.transactionIndex)
  type := if cr.type = some 0 then none else nullableNumberTo0x cr.type

/-- The record of a transaction that has logs only. -/
def syntheticRecord (keccak256 : String → Digest) (firstAddress : String) (log : Log) (own : List Log) :
    ReceiptRootHash where
  cumulativeGasUsed := ZERO_HEX
  logs := own.map fun log => { address := log.address, data := log.data, topics := log.topics }
  logsBloom := buildLogsBloom keccak256 firstAddress log.topics
  root := some ZERO_HEX_32_BYTE
  status := ONE_HEX
  transactionIndex := own.head?.map Log.transactionIndex
  type := none

theorem receiptRootHash_result {cr : ContractResult} {rest : List ContractResult}
    (own : ownResults contractResults txHash = cr :: rest) :
    receiptRootHash relay contractResults logs txHash = pure (resultRecord cr (ownLogs logs txHash)) := by
  have found : contractResults.find? (fun cr => cr.hash == txHash) = some cr := by
    rw [← List.head?_filter]
    exact congrArg List.head? own
  rw [receiptRootHash, found]
  rfl

theorem receiptRootHash_synthetic (none : ownResults contractResults txHash = [])
    (built : receiptRootHash relay contractResults logs txHash = pure receipt) :
    ∃ first own, logs.head? = some first ∧ (ownLogs logs txHash).head? = some own ∧
      receipt = syntheticRecord relay.keccak256 first.address own (ownLogs logs txHash) := by
  have missing : contractResults.find? (fun cr => cr.hash == txHash) = Option.none := by
    rw [← List.head?_filter]
    exact congrArg List.head? none
  unfold receiptRootHash at built
  rw [missing] at built
  dsimp only at built
  cases first : logs.head? with
  | none =>
    rw [first] at built
    cases built
  | some first' =>
    cases own : (ownLogs logs txHash).head? with
    | none =>
      have noLog : (logs.filter fun log => log.transactionHash == txHash).head? = Option.none := own
      rw [first, noLog] at built
      cases built
    | some own' =>
      have log : (logs.filter fun log => log.transactionHash == txHash).head? = some own' := own
      rw [first, log] at built
      cases built
      exact ⟨first', own', rfl, rfl, by rw [syntheticRecord, own]; rfl⟩

theorem exactBloom_iff (built : receiptRootHash relay contractResults logs txHash = pure receipt) :
    ExactBloom relay contractResults logs txHash receipt ↔
      ownResults contractResults txHash ≠ [] ∨ FirstLogCovers relay logs txHash := by
  by_cases none : ownResults contractResults txHash = []
  · obtain ⟨first, own, firstOf, ownOf, rfl⟩ := receiptRootHash_synthetic none built
    have covers : ExactBloom relay contractResults logs txHash
        (syntheticRecord relay.keccak256 first.address own (ownLogs logs txHash)) ↔
          Covers relay.keccak256 (buildLogsBloom relay.keccak256 first.address own.topics) (ownItems logs txHash) :=
      ⟨fun exact => exact none, fun covers _ => covers⟩
    rw [covers, covers_buildLogsBloom_iff, FirstLogCovers, firstOf, ownOf]
    simp [none]
  · exact iff_of_true (fun other => absurd other none) (.inl none)

private theorem record_iff (sameResults : ownResults contractResults txHash = ownResults otherResults txHash)
    (sameLogs : ownLogs logs txHash = ownLogs otherLogs txHash)
    (built : receiptRootHash relay contractResults logs txHash = pure receipt)
    (built' : receiptRootHash relay otherResults otherLogs txHash = pure receipt') :
    (receipt = receipt' ∧ ExactBloom relay contractResults logs txHash receipt ∧
      ExactBloom relay otherResults otherLogs txHash receipt') ↔
        ownResults contractResults txHash ≠ [] ∨
          FirstLogCovers relay logs txHash ∧ FirstLogCovers relay otherLogs txHash := by
  rw [exactBloom_iff built, exactBloom_iff built', ← sameResults]
  cases own : ownResults contractResults txHash with
  | nil =>
    constructor
    · rintro ⟨-, covers, covers'⟩
      exact .inr ⟨covers.resolve_left (absurd rfl), covers'.resolve_left (absurd rfl)⟩
    · intro condition
      obtain ⟨covers, covers'⟩ := condition.resolve_left (absurd rfl)
      refine ⟨?_, .inr covers, .inr covers'⟩
      have exact := (exactBloom_iff built).mpr (.inr covers) own
      have exact' := (exactBloom_iff built').mpr (.inr covers') (sameResults ▸ own)
      obtain ⟨first, log, -, logOf, rfl⟩ := receiptRootHash_synthetic own built
      obtain ⟨first', log', -, logOf', rfl⟩ := receiptRootHash_synthetic (sameResults ▸ own) built'
      rw [← sameLogs, logOf] at logOf'
      obtain rfl := Option.some.inj logOf'
      have items : ownItems otherLogs txHash = ownItems logs txHash := by rw [ownItems, ownItems, sameLogs]
      rw [items] at exact'
      rw [syntheticRecord, syntheticRecord, buildLogsBloom_eq_of_covers exact exact', sameLogs]
  | cons cr rest =>
    rw [receiptRootHash_result own] at built
    rw [receiptRootHash_result (sameResults ▸ own)] at built'
    have present : cr :: rest ≠ [] := List.cons_ne_nil cr rest
    refine iff_of_true ⟨?_, .inl present, .inl present⟩ (.inl present)
    cases built
    cases built'
    rw [sameLogs]

theorem receiptRootHash_pure_or_throw (relay : Relay) (contractResults : List ContractResult) (logs : List Log)
    (txHash : String) : (∃ receipt, receiptRootHash relay contractResults logs txHash = pure receipt) ∨
      ∃ error, receiptRootHash relay contractResults logs txHash = throw error := by
  unfold receiptRootHash
  dsimp only
  split
  · exact .inl ⟨_, rfl⟩
  · split
    · exact .inr ⟨_, rfl⟩
    · exact .inr ⟨_, rfl⟩
    · exact .inl ⟨_, rfl⟩

theorem pure_of_bind_pure {First Second : Type} {call : Throwing First} {next : First → Second} {result : Second}
    (built : (call >>= fun value => pure (next value)) = (pure result : Throwing Second)) :
    ∃ value, call = pure value ∧ next value = result := by
  cases call with
  | done outcome =>
    cases outcome with
    | error thrown => cases built
    | ok value =>
      cases built
      exact ⟨value, rfl, rfl⟩
  | call op follow => cases built

/-- Each hash has its record at its place. -/
theorem buildReceiptRootHashes_at {txHashes : List String} {receipts : List ReceiptRootHash} {i : Nat}
    (built : buildReceiptRootHashes relay txHashes contractResults logs = pure receipts)
    (listed : txHashes[i]? = some txHash) (recorded : receipts[i]? = some receipt) :
    receiptRootHash relay contractResults logs txHash = pure receipt := by
  induction txHashes generalizing receipts i with
  | nil => cases listed
  | cons head rest ih =>
    rw [buildReceiptRootHashes, List.mapM_cons] at built
    rcases receiptRootHash_pure_or_throw relay contractResults logs head with ⟨first, same⟩ | ⟨error, same⟩
    · rw [same, pure_bind] at built
      obtain ⟨others, builtRest, rfl⟩ := pure_of_bind_pure built
      cases i with
      | zero =>
        obtain rfl := Option.some.inj listed
        obtain rfl := Option.some.inj recorded
        exact same
      | succ i => exact ih builtRest listed recorded
    · rw [same] at built
      cases built

/-- The records of a transaction in two blocks that differ in the others agree, and cover its own
logs, exactly where it has a result or the first log of each block has the right bits. -/
theorem records_iff {txHashes otherHashes : List String} {receipts otherReceipts : List ReceiptRootHash} {i j : Nat}
    (built : buildReceiptRootHashes relay txHashes contractResults logs = pure receipts)
    (built' : buildReceiptRootHashes relay otherHashes otherResults otherLogs = pure otherReceipts)
    (listed : txHashes[i]? = some txHash) (listed' : otherHashes[j]? = some txHash)
    (recorded : receipts[i]? = some receipt) (recorded' : otherReceipts[j]? = some receipt')
    (sameResults : ownResults contractResults txHash = ownResults otherResults txHash)
    (sameLogs : ownLogs logs txHash = ownLogs otherLogs txHash) :
    (receipt = receipt' ∧ ExactBloom relay contractResults logs txHash receipt ∧
      ExactBloom relay otherResults otherLogs txHash receipt') ↔
        ownResults contractResults txHash ≠ [] ∨
          FirstLogCovers relay logs txHash ∧ FirstLogCovers relay otherLogs txHash :=
  record_iff sameResults sameLogs (buildReceiptRootHashes_at built listed recorded)
    (buildReceiptRootHashes_at built' listed' recorded')

/-! Two tokens whose transfers share a block. -/

def firstToken : String := "0x00000000000000000000000000000000000003ea"

def secondToken : String := "0x00000000000000000000000000000000000003eb"

def transferTopic : String := "0xddf252ad1be2c89b69c2b068fc378daa952ba7f163c4a11628f55a4df523b3ef"

def digestOf (digits : String) : Digest := Vector.ofFn fun i => (hexToBytes digits.toList)[i.val]?.getD 0

/-- The hashes of the tokens and of the topic. -/
def tokenRelay : Relay :=
  { exampleRelay with
    keccak256 := fun item =>
      if item = firstToken then digestOf "f8da255c4786c43634cb88cbf4811657d3579f15ebe81868a795c97928824b7c"
      else if item = secondToken then digestOf "5472ac6f6a5c9ae50ffb452ad06cda9c9795dd8c81b123c2421425c32a1bc6ce"
      else digestOf "ada389e1fc24a8587c776340efb91b36e675792ab631816100d55df0b5cf3cbc" }

def transferLog (token txHash : String) : Log where
  address := token
  blockHash := "0xb1"
  blockNumber := Filters.numberTo0x 1
  data := "0x01"
  logIndex := Filters.numberTo0x 0
  removed := false
  topics := [transferTopic]
  transactionHash := txHash
  transactionIndex := Filters.numberTo0x 1

def transferRecord (token : String) : ReceiptRootHash :=
  syntheticRecord tokenRelay.keccak256 token (transferLog secondToken "0xt2") [transferLog secondToken "0xt2"]

private theorem logsBloom_transferRecord (token : String) :
    (transferRecord token).logsBloom = buildLogsBloom tokenRelay.keccak256 token [transferTopic] := rfl

theorem build_alone : buildReceiptRootHashes tokenRelay ["0xt2"] [] [transferLog secondToken "0xt2"] =
    pure [transferRecord secondToken] := rfl

/-- A transfer that comes first keeps its record when another follows. -/
theorem first_transfer_kept :
    transferRecord secondToken = transferRecord secondToken ∧
      ExactBloom tokenRelay [] [transferLog secondToken "0xt2"] "0xt2" (transferRecord secondToken) ∧
      ExactBloom tokenRelay [] [transferLog secondToken "0xt2", transferLog firstToken "0xt1"] "0xt2"
        (transferRecord secondToken) := by
  have built : buildReceiptRootHashes tokenRelay ["0xt2", "0xt1"] []
      [transferLog secondToken "0xt2", transferLog firstToken "0xt1"] = pure [transferRecord secondToken, _] := rfl
  have covers : ∀ rest, ownLogs rest "0xt2" = [] →
      FirstLogCovers tokenRelay (transferLog secondToken "0xt2" :: rest) "0xt2" := by
    intro rest others first head own ownHead loc
    have items : ownLogs (transferLog secondToken "0xt2" :: rest) "0xt2" = [transferLog secondToken "0xt2"] := by
      rw [ownLogs, List.filter_cons_of_pos (by decide)]
      exact congrArg _ others
    rw [items] at ownHead
    cases head
    cases ownHead
    rw [ownItems, items]
    exact Iff.rfl
  exact (records_iff build_alone built (i := 0) (j := 0) rfl rfl rfl rfl rfl rfl).mpr
    (.inr ⟨covers [] rfl, covers [transferLog firstToken "0xt1"] rfl⟩)

private theorem build_behind : buildReceiptRootHashes tokenRelay ["0xt1", "0xt2"] []
    [transferLog firstToken "0xt1", transferLog secondToken "0xt2"] =
      pure [syntheticRecord tokenRelay.keccak256 firstToken (transferLog firstToken "0xt1")
        [transferLog firstToken "0xt1"], transferRecord firstToken] := rfl

/-- The record of a transfer changes with the transfer that comes before it in the block. -/
theorem record_of_transfer_before :
    ¬ ∀ (relay : Relay) (txHashes otherHashes : List String) (contractResults otherResults : List ContractResult)
      (logs otherLogs : List Log) (receipts otherReceipts : List ReceiptRootHash) (i j : Nat) (txHash : String)
      (receipt receipt' : ReceiptRootHash),
      buildReceiptRootHashes relay txHashes contractResults logs = pure receipts →
        buildReceiptRootHashes relay otherHashes otherResults otherLogs = pure otherReceipts →
        txHashes[i]? = some txHash → otherHashes[j]? = some txHash →
        receipts[i]? = some receipt → otherReceipts[j]? = some receipt' →
        ownResults contractResults txHash = ownResults otherResults txHash →
        ownLogs logs txHash = ownLogs otherLogs txHash →
          receipt = receipt' ∧ ExactBloom relay contractResults logs txHash receipt ∧
            ExactBloom relay otherResults otherLogs txHash receipt' := by
  intro claim
  obtain ⟨-, -, covers⟩ := claim tokenRelay _ _ [] [] _ _ _ _ 0 1 "0xt2" (transferRecord secondToken)
    (transferRecord firstToken) build_alone build_behind rfl rfl rfl rfl rfl rfl
  have shownBloom := covers rfl
  have items : ownItems [transferLog firstToken "0xt1", transferLog secondToken "0xt2"] "0xt2" =
      [secondToken, transferTopic] := by
    decide
  rw [items, logsBloom_transferRecord] at shownBloom
  have bits := covers_buildLogsBloom_iff.mp shownBloom
  have shown : ∃ loc ∈ (shownItems firstToken [transferTopic]).flatMap (locations tokenRelay.keccak256),
      loc ∉ [secondToken, transferTopic].flatMap (locations tokenRelay.keccak256) := by
    decide +kernel
  obtain ⟨loc, member, other⟩ := shown
  exact other ((bits loc).mp member)

end HieroRelay.Receipts
