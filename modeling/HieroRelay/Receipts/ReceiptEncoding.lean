import HieroRelay.Formatting.Numerals
import HieroRelay.Lib.Rlp
import HieroRelay.Receipts.ReceiptRecords

/-! The bytes of a receipt record that the root of the receipts is computed from: when they are
those that Ethereum has for the receipt. -/

namespace HieroRelay.Receipts

open HieroRelay.Js (hexDigitValue isHexDigit)
open HieroRelay.Lib.Rlp
open HieroRelay.Formatting
open HieroRelay.Blocks hiding hexToBytes
open HieroRelay.Filters (HexNumber Log)

/-! Hexadecimal texts as bytes. -/

def bytesOf : List Char → List UInt8
  | high :: low :: rest => UInt8.ofNat (16 * hexDigitValue high + hexDigitValue low) :: bytesOf rest
  | _ => []

def padToEven (digits : List Char) : List Char := if digits.length % 2 = 0 then digits else '0' :: digits

/-- A number that is written in bytes. -/
def numberOf (bytes : List UInt8) : Nat := bytes.foldl (fun value byte => value * 256 + byte.toNat) 0

def HexText (text : String) : Prop := ∃ digits : List Char, digits.all isHexDigit = true ∧ text = "0x" ++ String.ofList digits

def textBytes (text : String) : List UInt8 := bytesOf (padToEven (text.toList.drop 2))

/-- The functions of the libraries that the encoding is put together from, with nothing where
they throw. -/
structure EthereumJs where
  hexToBytes : String → Option (List UInt8)
  bytesToInt : List UInt8 → Option Nat
  intToBytes : Nat → Option (List UInt8)
  rlpEncode : Item → Option (List UInt8)

/-- Hexadecimal texts are padded to whole bytes, integers are read and written where they are
safe, and so are lengths; an item is decoded from its encoding, which begins with a list's byte
for a list. -/
structure EthereumJs.Documented (js : EthereumJs) : Prop where
  hexToBytes : ∀ text, HexText text → js.hexToBytes text = some (textBytes text)
  bytesToInt : ∀ bytes, numberOf bytes < 2 ^ 53 → js.bytesToInt bytes = some (numberOf bytes)
  intToBytes : ∀ number, 0 < number → number < 2 ^ 53 → js.intToBytes number = some (bigEndian number)
  rlpEncode : ∀ item, item.size < 2 ^ 53 → (js.rlpEncode item).isSome
  rlpDecodes : ∀ item item' bytes, js.rlpEncode item = some bytes → js.rlpEncode item' = some bytes → item = item'
  rlpLists : ∀ items bytes, js.rlpEncode (.list items) = some bytes →
    ∃ first rest, bytes = first :: rest ∧ 192 ≤ first.toNat

namespace ReceiptsRootUtils

variable (js : EthereumJs)

def encodeLogs (logs : List ReceiptRootHashLog) : Option Item := do
  let serializedLogs ← logs.mapM fun log => do
    let topics ← log.topics.mapM js.hexToBytes
    let address ← js.hexToBytes log.address
    let data ← js.hexToBytes log.data
    return Item.list [.text address, .list (topics.map Item.text), .text data]
  return .list serializedLogs

/-- A root that is there takes the place of the status. -/
def receiptRootOf (receipt : ReceiptRootHash) : Option (List UInt8) :=
  match receipt.root with
  | some root => if root = "" then fromStatus else js.hexToBytes root
  | none => fromStatus
where
  fromStatus : Option (List UInt8) := do
    let status ← js.bytesToInt (← js.hexToBytes receipt.status)
    if status = 0 then return [] else js.hexToBytes ONE_HEX

def encodeReceipt (receipt : ReceiptRootHash) (txType : Nat) : Option (List UInt8) := do
  let receiptRoot ← receiptRootOf js receipt
  let cumulativeGasUsed ← js.hexToBytes (hexText receipt.cumulativeGasUsed)
  let logsBloom ← js.hexToBytes receipt.logsBloom
  let logs ← encodeLogs js receipt.logs
  let encodedReceipt ← js.rlpEncode (.list [.text receiptRoot, .text cumulativeGasUsed, .text logsBloom, logs])
  if txType = 0 then return encodedReceipt
  else return (← js.intToBytes txType) ++ encodedReceipt

/-- What `getRootHash` puts into the trie for a record. -/
def encodedReceipt (receipt : ReceiptRootHash) : Option (List UInt8) := do
  encodeReceipt js receipt (← js.bytesToInt (← js.hexToBytes (hexText (receipt.type.getD ZERO_HEX))))

end ReceiptsRootUtils

/-! The digits of a number as bytes. -/

variable {digits more : List Char} {number : Nat} {bytes : List UInt8} {text : String}

private theorem bytesOf_append (even : digits.length % 2 = 0) (more : List Char) :
    bytesOf (digits ++ more) = bytesOf digits ++ bytesOf more := by
  induction digits using bytesOf.induct with
  | case1 high low rest ih =>
    rw [List.length_cons, List.length_cons] at even
    rw [List.cons_append, List.cons_append, bytesOf, bytesOf, ih (by omega), List.cons_append]
  | case2 digits short =>
    match digits, short, even with
    | [], _, _ => rfl
    | [digit], _, even => exact absurd even (by simp)
    | high :: low :: rest, short, _ => exact absurd rfl (short high low rest)

private theorem length_padToEven (digits : List Char) : (padToEven digits).length % 2 = 0 := by
  unfold padToEven
  split
  · assumption
  · rw [List.length_cons]
    omega

private theorem padToEven_pair (high low : Char) : padToEven [high, low] = [high, low] := by
  simp [padToEven]

private theorem padToEven_append_pair (digits : List Char) (high low : Char) :
    padToEven (digits ++ [high, low]) = padToEven digits ++ [high, low] := by
  have same : (digits ++ [high, low]).length % 2 = digits.length % 2 := by
    rw [List.length_append]
    exact Nat.add_mod_right _ 2
  rw [padToEven, padToEven, same]
  split <;> rfl

theorem bigEndian_of_lt (positive : 0 < number) (small : number < 256) : bigEndian number = [UInt8.ofNat number] := by
  rw [bigEndian, Nat.digits_of_lt 256 number (Nat.ne_of_gt positive) small]
  rfl

theorem bigEndian_of_le (large : 256 ≤ number) :
    bigEndian number = bigEndian (number / 256) ++ [UInt8.ofNat (number % 256)] := by
  rw [bigEndian, Nat.digits_def' (by decide) (by omega), List.map_cons, List.reverse_cons]
  rfl

/-- The digits of a number other than zero are its bytes without a leading zero. -/
theorem bytesOf_toDigits (positive : 0 < number) : bytesOf (padToEven (Nat.toDigits 16 number)) = bigEndian number := by
  induction number using Nat.strongRecOn with
  | ind number ih =>
    have pair : bytesOf [(number / 16 % 16).digitChar, (number % 16).digitChar] = [UInt8.ofNat (number % 256)] := by
      rw [bytesOf, hexDigitValue_digitChar (Nat.mod_lt _ (by decide)), hexDigitValue_digitChar (Nat.mod_lt _ (by decide))]
      have value : 16 * (number / 16 % 16) + number % 16 = number % 256 := by omega
      rw [value]
      rfl
    by_cases one : number < 16
    · rw [Nat.toDigits_of_lt_base one, bigEndian_of_lt positive (by omega)]
      have high : number / 16 % 16 = 0 := by omega
      rw [high, Nat.mod_eq_of_lt one, Nat.mod_eq_of_lt (by omega)] at pair
      exact pair
    · by_cases two : number < 256
      · rw [Nat.toDigits_of_base_le (by decide) (by omega), Nat.toDigits_of_lt_base (by omega),
          bigEndian_of_lt positive two, List.singleton_append, padToEven_pair]
        rw [Nat.mod_eq_of_lt (by omega : number / 16 < 16), Nat.mod_eq_of_lt two] at pair
        exact pair
      · have digits : Nat.toDigits 16 number =
            Nat.toDigits 16 (number / 256) ++ [(number / 16 % 16).digitChar, (number % 16).digitChar] := by
          rw [Nat.toDigits_of_base_le (by decide) (by omega), Nat.toDigits_of_base_le (n := number / 16) (by decide) (by omega),
            Nat.div_div_eq_div_mul, List.append_assoc]
          rfl
        rw [digits, padToEven_append_pair, bytesOf_append (length_padToEven _), pair,
          ih _ (Nat.div_lt_self positive (by decide)) (Nat.div_pos (by omega) (by decide)), ← bigEndian_of_le (by omega)]

private theorem numberOf_bigEndian (number : Nat) : numberOf (bigEndian number) = number := by
  induction number using Nat.strongRecOn with
  | ind number ih =>
    rcases Nat.lt_or_ge number 256 with small | large
    · rcases Nat.eq_zero_or_pos number with rfl | positive
      · rfl
      · rw [bigEndian_of_lt positive small, numberOf, List.foldl_cons, List.foldl_nil, toNat_byte small]
        omega
    · rw [bigEndian_of_le large, numberOf, List.foldl_append]
      change numberOf (bigEndian (number / 256)) * 256 + (UInt8.ofNat (number % 256)).toNat = number
      rw [ih _ (Nat.div_lt_self (by omega) (by decide)), toNat_byte (Nat.mod_lt _ (by decide))]
      omega

theorem hexText_hexText (number : HexNumber) : HexText (hexText number) :=
  ⟨_, all_isHexDigit_toDigits number.value, rfl⟩

/-- Zero is the byte zero. -/
def paddedBytes (number : Nat) : List UInt8 := if number = 0 then [0] else bigEndian number

theorem textBytes_hexText (number : HexNumber) : textBytes (hexText number) = paddedBytes number.value := by
  rw [textBytes, hexText, toList_hexText, paddedBytes]
  change bytesOf (padToEven (Nat.toDigits 16 number.value)) = _
  split
  · next zero =>
      rw [zero]
      rfl
  · next nonzero => exact bytesOf_toDigits (Nat.pos_of_ne_zero nonzero)

theorem numberOf_paddedBytes (number : Nat) : numberOf (paddedBytes number) = number := by
  unfold paddedBytes
  split
  · next zero => rw [zero]; rfl
  · exact numberOf_bigEndian number

/-! The receipt that a record stands for. -/

structure LogEntry where
  address : List UInt8
  topics : List (List UInt8)
  data : List UInt8

structure Receipt where
  type : Nat
  root : Option (List UInt8)
  succeeded : Bool
  cumulativeGasUsed : Nat
  logsBloom : List UInt8
  logs : List LogEntry

def receiptOf (record : ReceiptRootHash) : Receipt where
  type := (record.type.getD ZERO_HEX).value
  root := (record.root.filter (· ≠ "")).map textBytes
  succeeded := numberOf (textBytes record.status) ≠ 0
  cumulativeGasUsed := record.cumulativeGasUsed.value
  logsBloom := textBytes record.logsBloom
  logs := record.logs.map fun log => {
    address := textBytes log.address
    topics := log.topics.map textBytes
    data := textBytes log.data }

namespace Receipt

/-- The root, or the status. -/
def outcome (receipt : Receipt) : List UInt8 := receipt.root.getD (if receipt.succeeded then [1] else [])

def logItems (receipt : Receipt) : Item :=
  .list (receipt.logs.map fun log =>
    .list [.text log.address, .list (log.topics.map Item.text), .text log.data])

/-- The list of a receipt with its gas in some bytes. -/
def itemWith (receipt : Receipt) (gas : List UInt8) : Item :=
  .list [.text receipt.outcome, .text gas, .text receipt.logsBloom, receipt.logItems]

/-- The byte of a typed transaction. -/
def typeBytes (receipt : Receipt) : List UInt8 := if receipt.type = 0 then [] else [UInt8.ofNat receipt.type]

/-- The encoding of Ethereum, where integers have no leading zero. -/
def IsEncoding (js : EthereumJs) (receipt : Receipt) (encoded : List UInt8) : Prop :=
  ∃ payload, js.rlpEncode (receipt.itemWith (bigEndian receipt.cumulativeGasUsed)) = some payload ∧
    encoded = receipt.typeBytes ++ payload

/-- A receipt with the root and the status of another. -/
def withOutcomeOf (receipt other : Receipt) : Receipt :=
  { receipt with root := other.root, succeeded := other.succeeded }

/-- Two receipts that differ in nothing but what stands behind the same first item: the status
behind a root, or a root that reads as a status. -/
def StatusHidden (receipt other : Receipt) : Prop :=
  receipt ≠ other ∧ receipt.outcome = other.outcome ∧ receipt.withOutcomeOf other = other

private theorem not_statusHidden_iff {receipt other : Receipt} : ¬ receipt.StatusHidden other ↔
    (receipt.outcome = other.outcome ∧ receipt.withOutcomeOf other = other → receipt = other) := by
  rw [StatusHidden, not_and', not_ne_iff]

/-- The bytes of the receipt can be counted. -/
def Fits (receipt : Receipt) : Prop := (receipt.itemWith (paddedBytes receipt.cumulativeGasUsed)).size < 2 ^ 53

instance (receipt : Receipt) : Decidable receipt.Fits := inferInstanceAs (Decidable (_ < _))

end Receipt

/-- The texts of a record are hexadecimal, as the mirror node gives them, and its type is one
byte that no list begins with. -/
structure HexRecord (record : ReceiptRootHash) : Prop where
  logsBloom : HexText record.logsBloom
  root : ∀ root, record.root = some root → root = "" ∨ HexText root
  status : HexText record.status ∧ numberOf (textBytes record.status) < 2 ^ 53
  type : (record.type.getD ZERO_HEX).value < 128
  logs : ∀ log ∈ record.logs, HexText log.address ∧ (∀ topic ∈ log.topics, HexText topic) ∧ HexText log.data

variable {js : EthereumJs} {record record' : ReceiptRootHash} {encoded encoded' : List UInt8}

theorem mapM_some {Value Result : Type} {convert : Value → Option Result} {convert' : Value → Result}
    {values : List Value} (each : ∀ value ∈ values, convert value = some (convert' value)) :
    values.mapM convert = some (values.map convert') := by
  induction values with
  | nil => rfl
  | cons value rest ih =>
    rw [List.forall_mem_cons] at each
    rw [List.mapM_cons, each.1, ih each.2]
    rfl

private theorem encodeLogs_eq (documented : js.Documented) (hex : HexRecord record) :
    ReceiptsRootUtils.encodeLogs js record.logs = some (receiptOf record).logItems := by
  have serialized : record.logs.mapM (fun log => do
      let topics ← log.topics.mapM js.hexToBytes
      let address ← js.hexToBytes log.address
      let data ← js.hexToBytes log.data
      return Item.list [.text address, .list (topics.map Item.text), .text data]) =
      some (record.logs.map fun log => .list [.text (textBytes log.address),
        .list ((log.topics.map textBytes).map Item.text), .text (textBytes log.data)]) := by
    apply mapM_some
    intro log member
    obtain ⟨address, topics, data⟩ := hex.logs log member
    rw [mapM_some fun topic member => documented.hexToBytes topic (topics topic member),
      documented.hexToBytes _ address, documented.hexToBytes _ data]
    rfl
  rw [ReceiptsRootUtils.encodeLogs, serialized, Receipt.logItems, receiptOf, List.map_map]
  rfl

private theorem receiptRootOf_eq (documented : js.Documented) (hex : HexRecord record) :
    ReceiptsRootUtils.receiptRootOf js record = some (receiptOf record).outcome := by
  have fromStatus : ReceiptsRootUtils.receiptRootOf.fromStatus js record =
      some (if (receiptOf record).succeeded then [1] else []) := by
    have one : js.hexToBytes ONE_HEX = some [1] := documented.hexToBytes _ ⟨['1'], by decide, by decide⟩
    have succeeded : (receiptOf record).succeeded = decide (numberOf (textBytes record.status) ≠ 0) := rfl
    rw [ReceiptsRootUtils.receiptRootOf.fromStatus, documented.hexToBytes _ hex.status.1, Option.bind_eq_bind,
      Option.bind_eq_bind, Option.bind_some, documented.bytesToInt _ hex.status.2, Option.bind_some, one, succeeded]
    split <;> simp_all
  rw [ReceiptsRootUtils.receiptRootOf, Receipt.outcome]
  cases root : record.root with
  | none =>
    have missing : (receiptOf record).root = none := by rw [receiptOf, root]; rfl
    rw [missing]
    exact fromStatus
  | some text =>
    dsimp only
    by_cases empty : text = ""
    · have missing : (receiptOf record).root = none := by rw [receiptOf, root, empty]; rfl
      rw [if_pos empty, missing]
      exact fromStatus
    · have given : (receiptOf record).root = some (textBytes text) := by
        simp [receiptOf, root, empty]
      rw [if_neg empty, given, documented.hexToBytes _ ((hex.root text root).resolve_left empty)]
      rfl

/-- The code encodes the receipt, but for a gas of zero. -/
theorem encodedReceipt_eq (documented : js.Documented) (hex : HexRecord record) :
    ReceiptsRootUtils.encodedReceipt js record =
      (js.rlpEncode ((receiptOf record).itemWith (paddedBytes (receiptOf record).cumulativeGasUsed))).map
        ((receiptOf record).typeBytes ++ ·) := by
  have type : js.bytesToInt (textBytes (hexText (record.type.getD ZERO_HEX))) = some (receiptOf record).type := by
    have small := hex.type
    have value : numberOf (textBytes (hexText (record.type.getD ZERO_HEX))) = (receiptOf record).type := by
      rw [textBytes_hexText, numberOf_paddedBytes]
      rfl
    rw [documented.bytesToInt _ (by rw [value]; exact Nat.lt_trans small (by decide)), value]
  rw [ReceiptsRootUtils.encodedReceipt, documented.hexToBytes _ (hexText_hexText _)]
  change (do let txType ← js.bytesToInt (textBytes _); ReceiptsRootUtils.encodeReceipt js record txType) = _
  rw [type]
  change ReceiptsRootUtils.encodeReceipt js record (receiptOf record).type = _
  rw [ReceiptsRootUtils.encodeReceipt, receiptRootOf_eq documented hex, documented.hexToBytes _ (hexText_hexText _),
    documented.hexToBytes _ hex.logsBloom, encodeLogs_eq documented hex, textBytes_hexText]
  change (do
    let payload ← js.rlpEncode ((receiptOf record).itemWith (paddedBytes (receiptOf record).cumulativeGasUsed))
    if (receiptOf record).type = 0 then return payload else return (← js.intToBytes (receiptOf record).type) ++ payload) = _
  cases js.rlpEncode ((receiptOf record).itemWith (paddedBytes (receiptOf record).cumulativeGasUsed)) with
  | none => rfl
  | some payload =>
    rw [Option.map_some, Receipt.typeBytes]
    change (if (receiptOf record).type = 0 then some payload else _) = _
    split
    · rfl
    · next typed =>
        have small : (receiptOf record).type < 128 := hex.type
        have positive : 0 < (receiptOf record).type := Nat.pos_of_ne_zero typed
        rw [documented.intToBytes _ positive (Nat.lt_trans small (by decide)), bigEndian_of_lt positive (by omega)]
        rfl

/-! Receipts with the same bytes. -/

variable {receipt other : Receipt} {gas gas' payload payload' : List UInt8}

private theorem text_map_inj {texts texts' : List (List UInt8)} (same : texts.map Item.text = texts'.map Item.text) :
    texts = texts' :=
  List.map_injective_iff.mpr (fun _ _ equal => Item.text.inj equal) same

private theorem logs_of_logItems (same : receipt.logItems = other.logItems) : receipt.logs = other.logs := by
  apply List.map_injective_iff.mpr _ (Item.list.inj same)
  intro log log' equal
  obtain ⟨address, rest⟩ := List.cons.inj (Item.list.inj equal)
  obtain ⟨topics, rest⟩ := List.cons.inj rest
  have data := (List.cons.inj rest).1
  cases log
  cases log'
  rw [LogEntry.mk.injEq]
  exact ⟨Item.text.inj address, text_map_inj (Item.list.inj topics), Item.text.inj data⟩

theorem itemWith_inj (same : receipt.itemWith gas = other.itemWith gas') :
    receipt.outcome = other.outcome ∧ gas = gas' ∧ receipt.logsBloom = other.logsBloom ∧ receipt.logs = other.logs := by
  obtain ⟨outcome, rest⟩ := List.cons.inj (Item.list.inj same)
  obtain ⟨gas, rest⟩ := List.cons.inj rest
  obtain ⟨logsBloom, rest⟩ := List.cons.inj rest
  exact ⟨Item.text.inj outcome, Item.text.inj gas, Item.text.inj logsBloom, logs_of_logItems (List.cons.inj rest).1⟩

private theorem paddedBytes_injective {number other : Nat} (same : paddedBytes number = paddedBytes other) :
    number = other := by
  rw [← numberOf_paddedBytes number, same, numberOf_paddedBytes]

theorem paddedBytes_eq_bigEndian_iff : paddedBytes number = bigEndian number ↔ number ≠ 0 := by
  unfold paddedBytes
  split
  · next zero =>
      rw [zero]
      exact iff_of_false (by decide) (absurd rfl)
  · next nonzero => exact iff_of_true rfl nonzero

/-- The byte of a type is told from the list behind it. -/
theorem typeBytes_append_inj (documented : js.Documented) (small : receipt.type < 128) (small' : other.type < 128)
    (encodes : js.rlpEncode (receipt.itemWith gas) = some payload)
    (encodes' : js.rlpEncode (other.itemWith gas') = some payload')
    (same : receipt.typeBytes ++ payload = other.typeBytes ++ payload') :
    receipt.type = other.type ∧ payload = payload' := by
  obtain ⟨first, rest, rfl, least⟩ := documented.rlpLists _ _ encodes
  obtain ⟨first', rest', rfl, least'⟩ := documented.rlpLists _ _ encodes'
  have byte := toNat_byte (Nat.lt_trans small (by decide))
  have byte' := toNat_byte (Nat.lt_trans small' (by decide))
  unfold Receipt.typeBytes at same
  split at same
  · next legacy =>
      split at same
      · next legacy' => exact ⟨legacy.trans legacy'.symm, same⟩
      · rw [(List.cons.inj same).1, byte'] at least
        omega
  · split at same
    · rw [← (List.cons.inj same).1, byte] at least'
      omega
    · obtain ⟨types, payloads⟩ := List.cons.inj same
      exact ⟨by rw [← byte, types, byte'], payloads⟩

private theorem same_encoded_iff (documented : js.Documented) (hex : HexRecord record) (hex' : HexRecord record')
    (encodes : ReceiptsRootUtils.encodedReceipt js record = some encoded)
    (encodes' : ReceiptsRootUtils.encodedReceipt js record' = some encoded') :
    encoded = encoded' ↔ (receiptOf record).outcome = (receiptOf record').outcome ∧
      (receiptOf record).withOutcomeOf (receiptOf record') = receiptOf record' := by
  rw [encodedReceipt_eq documented hex] at encodes
  rw [encodedReceipt_eq documented hex'] at encodes'
  obtain ⟨payload, written, rfl⟩ := Option.map_eq_some_iff.mp encodes
  obtain ⟨payload', written', rfl⟩ := Option.map_eq_some_iff.mp encodes'
  have small : (receiptOf record).type < 128 := hex.type
  have small' : (receiptOf record').type < 128 := hex'.type
  constructor
  · intro same
    obtain ⟨types, rfl⟩ := typeBytes_append_inj documented small small' written written' same
    obtain ⟨outcomes, gases, blooms, logs⟩ := itemWith_inj (documented.rlpDecodes _ _ _ written written')
    refine ⟨outcomes, ?_⟩
    rw [Receipt.withOutcomeOf, types, paddedBytes_injective gases, blooms, logs]
  · intro condition
    obtain ⟨outcomes, rest⟩ := condition
    have types := congrArg Receipt.type rest
    have gases := congrArg Receipt.cumulativeGasUsed rest
    have blooms := congrArg Receipt.logsBloom rest
    have logs := congrArg Receipt.logs rest
    rw [Receipt.withOutcomeOf] at types gases blooms logs
    dsimp only at types gases blooms logs
    have items : (receiptOf record).itemWith (paddedBytes (receiptOf record).cumulativeGasUsed) =
        (receiptOf record').itemWith (paddedBytes (receiptOf record').cumulativeGasUsed) := by
      rw [Receipt.itemWith, Receipt.itemWith, Receipt.logItems, Receipt.logItems, outcomes, gases, blooms, logs]
    rw [items, written'] at written
    rw [← Option.some.inj written, Receipt.typeBytes, Receipt.typeBytes, types]

theorem isEncoding_iff (documented : js.Documented) (hex : HexRecord record)
    (encodes : ReceiptsRootUtils.encodedReceipt js record = some encoded) :
    (receiptOf record).IsEncoding js encoded ↔ (receiptOf record).cumulativeGasUsed ≠ 0 := by
  rw [encodedReceipt_eq documented hex] at encodes
  obtain ⟨payload, written, rfl⟩ := Option.map_eq_some_iff.mp encodes
  rw [← paddedBytes_eq_bigEndian_iff]
  constructor
  · intro encoding
    obtain ⟨payload', written', same⟩ := encoding
    obtain rfl := List.append_cancel_left same
    exact (itemWith_inj (documented.rlpDecodes _ _ _ written written')).2.1
  · intro gas
    exact ⟨payload, by rw [← gas]; exact written, rfl⟩

/-! The records of a block. -/

open HieroRelay.Blocks.ReceiptsRootUtils

/-- The texts of results and logs are hexadecimal, as the mirror node gives them, a status is
a safe integer and a type is one byte that no list begins with. -/
structure HexBlock (contractResults : List ContractResult) (logs : List Log) : Prop where
  bloom : ∀ cr ∈ contractResults, HexText cr.bloom
  root : ∀ cr ∈ contractResults, ∀ root, cr.root = some root → root = "" ∨ HexText root
  status : ∀ cr ∈ contractResults, HexText cr.status ∧ numberOf (textBytes cr.status) < 2 ^ 53
  type : ∀ cr ∈ contractResults, cr.type.getD 0 < 128
  logs : ∀ log ∈ logs, HexText log.address ∧ (∀ topic ∈ log.topics, HexText topic) ∧ HexText log.data

variable {relay relay' : Relay} {txHash : String} {txHashes txHashes' : List String}
  {contractResults contractResults' : List ContractResult} {logs logs' : List Log}
  {receipts receipts' : List ReceiptRootHash} {keccak256 : String → Digest}

private theorem hexText_buildLogsBloom (address : String) (topics : List String) :
    HexText (LogsBloomUtils.buildLogsBloom keccak256 address topics) := by
  rw [buildLogsBloom_eq, prepend0x, LogsBloomUtils.not_startsWith_bytesToHex, if_neg Bool.false_ne_true]
  refine ⟨_, ?_, rfl⟩
  rw [bytesToHex, List.all_flatMap, List.all_eq_true]
  intro byte _
  have bound := byte.isLt
  simp [isHexDigit_digitChar (show byte.toNat / 16 < 16 by omega),
    isHexDigit_digitChar (show byte.toNat % 16 < 16 by omega)]

theorem hexText_ONE_HEX : HexText ONE_HEX ∧ numberOf (textBytes ONE_HEX) < 2 ^ 53 :=
  ⟨⟨['1'], by decide, by decide⟩, by decide⟩

private theorem hexRecord_of_hash (hex : HexBlock contractResults logs)
    (built : receiptRootHash relay contractResults logs txHash = pure record) : HexRecord record := by
  have ownHex : ∀ entry ∈ (ownLogs logs txHash).map fun log =>
      ({ address := log.address, data := log.data, topics := log.topics } : ReceiptRootHashLog),
      HexText entry.address ∧ (∀ topic ∈ entry.topics, HexText topic) ∧ HexText entry.data := by
    intro entry member
    obtain ⟨log, own, rfl⟩ := List.mem_map.mp member
    exact hex.logs log (List.mem_filter.mp own).1
  cases own : ownResults contractResults txHash with
  | nil =>
    obtain ⟨first, log, -, -, rfl⟩ := receiptRootHash_synthetic own built
    exact {
      logsBloom := hexText_buildLogsBloom first.address log.topics
      root := by
        intro root given
        cases given
        exact .inr ⟨List.replicate 64 '0', by decide, by decide⟩
      status := hexText_ONE_HEX
      type := Nat.zero_lt_succ 127
      logs := ownHex }
  | cons cr rest =>
    rw [receiptRootHash_result own] at built
    cases built
    have member : cr ∈ contractResults := by
      have listed : cr ∈ ownResults contractResults txHash := own ▸ List.mem_cons_self
      exact (List.mem_filter.mp listed).1
    exact {
      logsBloom := hex.bloom cr member
      root := hex.root cr member
      status := hex.status cr member
      type := by
        have small := hex.type cr member
        unfold resultRecord
        dsimp only
        split
        · exact Nat.zero_lt_succ 127
        · cases given : cr.type with
          | none => exact Nat.zero_lt_succ 127
          | some type =>
            rw [given] at small
            exact small
      logs := ownHex }

private theorem hash_of_member (built : buildReceiptRootHashes relay txHashes contractResults logs = pure receipts)
    (member : record ∈ receipts) : ∃ txHash, receiptRootHash relay contractResults logs txHash = pure record := by
  induction txHashes generalizing receipts with
  | nil =>
    cases built
    cases member
  | cons head rest ih =>
    rw [buildReceiptRootHashes, List.mapM_cons] at built
    rcases receiptRootHash_pure_or_throw relay contractResults logs head with ⟨first, same⟩ | ⟨error, same⟩
    · rw [same, pure_bind] at built
      obtain ⟨others, builtRest, rfl⟩ := pure_of_bind_pure built
      rcases List.mem_cons.mp member with rfl | later
      · exact ⟨head, same⟩
      · exact ih builtRest later
    · rw [same] at built
      cases built

theorem hexRecord (hex : HexBlock contractResults logs)
    (built : buildReceiptRootHashes relay txHashes contractResults logs = pure receipts)
    (member : record ∈ receipts) : HexRecord record := by
  obtain ⟨txHash, own⟩ := hash_of_member built member
  exact hexRecord_of_hash hex own

theorem encodedReceipt_some (documented : js.Documented) (hex : HexRecord record) (fits : (receiptOf record).Fits) :
    ∃ encoded, ReceiptsRootUtils.encodedReceipt js record = some encoded := by
  obtain ⟨payload, written⟩ := Option.isSome_iff_exists.mp (documented.rlpEncode _ fits)
  exact ⟨_, by rw [encodedReceipt_eq documented hex, written]; rfl⟩

/-- The records of blocks are encoded as Ethereum encodes them, and told apart, exactly where
their gas is not zero and they differ in more than a status behind a root. -/
theorem encodings_iff (documented : js.Documented)
    (hex : HexBlock contractResults logs) (hex' : HexBlock contractResults' logs')
    (built : buildReceiptRootHashes relay txHashes contractResults logs = pure receipts)
    (built' : buildReceiptRootHashes relay' txHashes' contractResults' logs' = pure receipts')
    (member : record ∈ receipts) (member' : record' ∈ receipts')
    (fits : (receiptOf record).Fits) (fits' : (receiptOf record').Fits) :
    (∃ encoded encoded', ReceiptsRootUtils.encodedReceipt js record = some encoded ∧
      ReceiptsRootUtils.encodedReceipt js record' = some encoded' ∧
      (receiptOf record).IsEncoding js encoded ∧ (receiptOf record').IsEncoding js encoded' ∧
      (encoded = encoded' → receiptOf record = receiptOf record')) ↔
        (receiptOf record).cumulativeGasUsed ≠ 0 ∧ (receiptOf record').cumulativeGasUsed ≠ 0 ∧
          ¬ (receiptOf record).StatusHidden (receiptOf record') := by
  have hexOf := hexRecord hex built member
  have hexOf' := hexRecord hex' built' member'
  obtain ⟨encoded, encodes⟩ := encodedReceipt_some documented hexOf fits
  obtain ⟨encoded', encodes'⟩ := encodedReceipt_some documented hexOf' fits'
  have distinct : (encoded = encoded' → receiptOf record = receiptOf record') ↔
      ¬ (receiptOf record).StatusHidden (receiptOf record') := by
    rw [same_encoded_iff documented hexOf hexOf' encodes encodes', Receipt.not_statusHidden_iff]
  rw [← isEncoding_iff documented hexOf encodes, ← isEncoding_iff documented hexOf' encodes', ← distinct]
  constructor
  · intro claim
    obtain ⟨bytes, bytes', same, same', rest⟩ := claim
    obtain rfl := Option.some.inj (encodes.symm.trans same)
    obtain rfl := Option.some.inj (encodes'.symm.trans same')
    exact rest
  · intro rest
    exact ⟨encoded, encoded', encodes, encodes', rest⟩

/-! The size of a record. -/

private theorem length_bytesToHex (bytes : List (BitVec 8)) : (bytesToHex bytes).length = 2 * bytes.length := by
  rw [bytesToHex, List.length_flatMap]
  simp [Nat.mul_comm]

private theorem length_bytesOf_bytesToHex (bytes : List (BitVec 8)) :
    (bytesOf (bytesToHex bytes)).length = bytes.length := by
  induction bytes with
  | nil => rfl
  | cons byte rest ih => exact congrArg Nat.succ ih

/-- A bloom that is built has 256 bytes. -/
theorem length_textBytes_buildLogsBloom (keccak256 : String → Digest) (address : String) (topics : List String) :
    (textBytes (LogsBloomUtils.buildLogsBloom keccak256 address topics)).length = 256 := by
  rw [buildLogsBloom_eq, prepend0x, LogsBloomUtils.not_startsWith_bytesToHex, if_neg Bool.false_ne_true, textBytes,
    toList_hexText, List.drop_succ_cons, List.drop_succ_cons, List.drop_zero, padToEven, length_bytesToHex,
    if_pos (Nat.mul_mod_right 2 _), length_bytesOf_bytesToHex, length_bloomOf]
  rfl

private theorem logsBloom_receiptOf (record : ReceiptRootHash) :
    (receiptOf record).logsBloom = textBytes record.logsBloom := rfl

private theorem length_logsBloom_syntheticRecord (keccak256 : String → Digest) (firstAddress : String) (log : Log)
    (own : List Log) : (receiptOf (syntheticRecord keccak256 firstAddress log own)).logsBloom.length = 256 := by
  rw [logsBloom_receiptOf, syntheticRecord, length_textBytes_buildLogsBloom]

/-- Only the logs of a receipt grow. -/
theorem Receipt.fits_of_lengths {receipt : Receipt} (bloom : receipt.logsBloom.length = 256)
    (outcome : receipt.outcome.length ≤ 32) (gas : (paddedBytes receipt.cumulativeGasUsed).length ≤ 8)
    (logs : receipt.logItems.size < 2 ^ 52) : receipt.Fits := by
  rw [Receipt.Fits, Receipt.itemWith]
  simp only [Item.size, Item.sizes, bloom]
  omega

/-! The libraries as they behave on the texts of a block. -/

def isHexText (text : String) : Bool :=
  text.toList.take 2 = ['0', 'x'] && (text.toList.drop 2).all isHexDigit

def ethereumJs : EthereumJs where
  hexToBytes text := if isHexText text then some (textBytes text) else none
  bytesToInt bytes := if numberOf bytes < 2 ^ 53 then some (numberOf bytes) else none
  intToBytes number := if number < 2 ^ 53 then some (paddedBytes number) else none
  rlpEncode item := if item.size < 2 ^ 53 then some (encode item) else none

private theorem isHexText_of_hexText (hex : HexText text) : isHexText text = true := by
  obtain ⟨digits, hexDigits, rfl⟩ := hex
  rw [isHexText, toList_hexText]
  simpa using hexDigits

theorem rlpEncode_ethereumJs {item : Item} (encodes : ethereumJs.rlpEncode item = some bytes) :
    (encode item).length < 2 ^ 64 ∧ encode item = bytes := by
  unfold ethereumJs at encodes
  dsimp only at encodes
  split at encodes
  · next fits =>
      have bound := length_encode_le item (Nat.lt_trans fits (by decide))
      exact ⟨by omega, Option.some.inj encodes⟩
  · cases encodes

theorem documented_ethereumJs : ethereumJs.Documented where
  hexToBytes text hex := if_pos (isHexText_of_hexText hex)
  bytesToInt bytes safe := if_pos safe
  intToBytes number positive safe := by
    have written : ethereumJs.intToBytes number = some (paddedBytes number) := if_pos safe
    rw [written, paddedBytes_eq_bigEndian_iff.mpr (Nat.ne_of_gt positive)]
  rlpEncode item fits := by
    have written : ethereumJs.rlpEncode item = some (encode item) := if_pos fits
    rw [written]
    rfl
  rlpDecodes item item' bytes encodes encodes' := by
    obtain ⟨fits, rfl⟩ := rlpEncode_ethereumJs encodes
    obtain ⟨fits', same⟩ := rlpEncode_ethereumJs encodes'
    exact (encode_append_inj item item' [] [] fits fits' (by rw [same])).1
  rlpLists items bytes encodes := by
    obtain ⟨fits, rfl⟩ := rlpEncode_ethereumJs encodes
    rw [encode, List.length_append] at fits
    obtain ⟨first, rest, same, least⟩ := encode_list_first (by omega : (encodeItems items).length < 2 ^ 64)
    exact ⟨first, rest, same, least⟩

/-! A block of a call that succeeded and a call that failed, and the transfer of a token. -/

def succeededResult : ContractResult := { exampleResult with type := some 2 }

def failedResult : ContractResult :=
  { exampleResult with hash := "0xt2", status := "0x0", blockGasUsed := 42000, transactionIndex := some 1 }

theorem hexBlock_of_results : HexBlock [succeededResult, failedResult] [] where
  bloom := by
    have none : HexText "0x" := ⟨[], by decide, by decide⟩
    intro cr member
    rcases List.mem_pair.mp member with rfl | rfl
    · exact none
    · exact none
  root := by simp [succeededResult, failedResult, exampleResult]
  status := by
    have one := hexText_ONE_HEX
    have zero : HexText "0x0" ∧ numberOf (textBytes "0x0") < 2 ^ 53 := ⟨⟨['0'], by decide, by decide⟩, by decide⟩
    intro cr member
    rcases List.mem_pair.mp member with rfl | rfl
    · exact one
    · exact zero
  type := by decide
  logs := by simp

theorem results_encoded :
    ∃ encoded encoded',
      ReceiptsRootUtils.encodedReceipt ethereumJs (resultRecord succeededResult []) = some encoded ∧
      ReceiptsRootUtils.encodedReceipt ethereumJs (resultRecord failedResult []) = some encoded' ∧
      (receiptOf (resultRecord succeededResult [])).IsEncoding ethereumJs encoded ∧
      (receiptOf (resultRecord failedResult [])).IsEncoding ethereumJs encoded' ∧
      (encoded = encoded' →
        receiptOf (resultRecord succeededResult []) = receiptOf (resultRecord failedResult [])) := by
  have built : buildReceiptRootHashes exampleRelay ["0xt1", "0xt2"] [succeededResult, failedResult] [] =
      pure [resultRecord succeededResult [], resultRecord failedResult []] := rfl
  refine (encodings_iff documented_ethereumJs hexBlock_of_results hexBlock_of_results built built
    List.mem_cons_self (List.mem_cons_of_mem _ List.mem_cons_self) (by decide) (by decide)).mpr
    ⟨by decide, by decide, ?_⟩
  rintro ⟨-, -, rest⟩
  exact absurd (congrArg Receipt.type rest) (by decide)

def transferOnly : ReceiptRootHash :=
  syntheticRecord exampleRelay.keccak256 secondToken (transferLog secondToken "0xt2") [transferLog secondToken "0xt2"]

private theorem fits_transferOnly : (receiptOf transferOnly).Fits :=
  Receipt.fits_of_lengths (length_logsBloom_syntheticRecord _ _ _ _) (by decide +kernel) (by decide)
    (by decide +kernel)

/-- The gas of a transfer is the byte zero. -/
theorem transfer_not_encoded :
    ¬ ∀ (js : EthereumJs) (relay : Relay) (txHashes : List String) (contractResults : List ContractResult)
      (logs : List Log) (receipts : List ReceiptRootHash) (record : ReceiptRootHash),
      js.Documented → HexBlock contractResults logs →
        buildReceiptRootHashes relay txHashes contractResults logs = pure receipts → record ∈ receipts →
        (receiptOf record).Fits →
          ∃ encoded, ReceiptsRootUtils.encodedReceipt js record = some encoded ∧
            (receiptOf record).IsEncoding js encoded := by
  intro claim
  have built : buildReceiptRootHashes exampleRelay ["0xt2"] [] [transferLog secondToken "0xt2"] =
      pure [transferOnly] := rfl
  have hex : HexBlock [] [transferLog secondToken "0xt2"] := by
    refine ⟨by simp, by simp, by simp, by simp, ?_⟩
    intro log member
    obtain rfl := List.mem_singleton.mp member
    refine ⟨⟨secondToken.toList.drop 2, by decide, by decide⟩, ?_, ⟨['0', '1'], by decide, by decide⟩⟩
    intro topic member
    obtain rfl := List.mem_singleton.mp member
    exact ⟨transferTopic.toList.drop 2, by decide, by decide⟩
  obtain ⟨encoded, encodes, encoding⟩ := claim ethereumJs exampleRelay _ _ _ _ _ documented_ethereumJs hex built
    List.mem_cons_self fits_transferOnly
  exact (isEncoding_iff documented_ethereumJs (hexRecord hex built List.mem_cons_self) encodes).mp encoding (by decide)

end HieroRelay.Receipts
