import HieroRelay.Blocks.Factories
import HieroRelay.Formatting.Numerals

/-! The revert reason of a receipt: which error messages are encoded so that they can be read
back. -/

namespace HieroRelay.Formatting

open HieroRelay.Js (codeUnits fromCharCode hexDigitValue hexValue isHexDigit isWhiteSpace toNat_ofNat_byte unitChars
  unitsOf)
open HieroRelay.Filters (HexNumber Log)
open HieroRelay.Blocks
open HieroRelay.Blocks.TransactionReceiptFactory (createRegularReceipt revertReasonOf)

variable {digit : Char} {digits : List Char} {message : String} {unit : Nat} {units : List Nat}

private theorem not_isWhiteSpace (hex : isHexDigit digit = true) : isWhiteSpace digit = false := by
  have bounds := isHexDigit_iff.mp hex
  simp only [isWhiteSpace, Bool.or_eq_false_iff, Bool.and_eq_false_iff, decide_eq_false_iff_not, List.mem_cons,
    List.not_mem_nil, or_false]
  omega

private theorem parseHex_ofList (hex : digits.all isHexDigit = true) (present : digits ≠ []) :
    parseHex (String.ofList digits) = some (hexValue digits) := by
  have marks : ∀ mark, isHexDigit mark = false → digits.take 2 ≠ ['0', mark] := by
    intro mark other same
    have member : mark ∈ digits := List.mem_of_mem_take (by rw [same]; simp)
    rw [List.all_eq_true] at hex
    rw [hex mark member] at other
    cases other
  have bare : ¬ (digits.take 2 = ['0', 'x'] ∨ digits.take 2 = ['0', 'X']) :=
    not_or.mpr ⟨marks 'x' (by decide), marks 'X' (by decide)⟩
  rw [parseHex, String.toList_ofList, if_neg bare, leadingHex_none hex present]

/-- Digits without a sign or a prefix. -/
theorem parseInt16_hex (hex : digits.all isHexDigit = true) (present : digits ≠ []) :
    parseInt16 digits = some (hexValue digits : Int) := by
  have read := parseHex_ofList hex present
  cases digits with
  | nil => exact absurd rfl present
  | cons digit rest =>
    rw [List.all_cons, Bool.and_eq_true] at hex
    have bounds := isHexDigit_iff.mp hex.1
    unfold parseInt16
    rw [List.dropWhile_cons_of_neg (by rw [not_isWhiteSpace hex.1]; decide)]
    split
    · next same =>
        rw [(List.cons.inj same).1] at bounds
        exact absurd bounds (by decide)
    · next same =>
        rw [(List.cons.inj same).1] at bounds
        exact absurd bounds (by decide)
    · rw [read, Option.map_some]

theorem hexValue_pair_lt {first second : Char} (hex : [first, second].all isHexDigit = true) :
    hexValue [first, second] < 256 := by
  simp only [List.all_cons, List.all_nil, Bool.and_true, Bool.and_eq_true] at hex
  have high := hexDigitValue_lt hex.1
  have low := hexDigitValue_lt hex.2
  change 16 * (16 * 0 + hexDigitValue first) + hexDigitValue second < 256
  omega

theorem pairs_cons {first second : Char} {rest : List Char} (hex : [first, second].all isHexDigit = true) :
    hexToASCII.pairs (first :: second :: rest) = Char.ofNat (hexValue [first, second]) :: hexToASCII.pairs rest := by
  have byte := hexValue_pair_lt hex
  rw [hexToASCII.pairs, parseInt16_hex hex (List.cons_ne_nil _ _), Option.getD_some, fromCharCode]
  congr 2
  omega

/-- A byte is written with two digits, and no other unit is. -/
theorem toDigits_byte (least : 16 ≤ unit) (most : unit < 256) :
    Nat.toDigits 16 unit = [(unit / 16).digitChar, (unit % 16).digitChar] := by
  rw [Nat.toDigits_of_base_le (by decide) least, Nat.toDigits_of_lt_base (by omega)]
  rfl

private theorem pairs_bytes (bytes : ∀ unit ∈ units, 16 ≤ unit ∧ unit < 256) :
    hexToASCII.pairs (units.flatMap (Nat.toDigits 16)) = units.map Char.ofNat := by
  induction units with
  | nil => rfl
  | cons unit rest ih =>
    have byte := bytes unit List.mem_cons_self
    have written := toDigits_byte byte.1 byte.2
    have hex := all_isHexDigit_toDigits unit
    have value := hexValue_toDigits unit
    rw [written] at hex value
    rw [List.flatMap_cons, written, List.cons_append, List.cons_append, List.nil_append, pairs_cons hex, value,
      ih fun other member => bytes other (List.mem_cons_of_mem _ member), List.map_cons]

theorem length_flatMap_toDigits (small : ∀ unit ∈ units, unit < 256) :
    (units.flatMap (Nat.toDigits 16)).length ≤ 2 * units.length ∧
      ((units.flatMap (Nat.toDigits 16)).length = 2 * units.length ↔ ∀ unit ∈ units, 16 ≤ unit) := by
  induction units with
  | nil => exact ⟨Nat.le_refl _, iff_of_true rfl (by simp)⟩
  | cons unit rest ih =>
    obtain ⟨most, full⟩ := ih fun other member => small other (List.mem_cons_of_mem _ member)
    rw [List.flatMap_cons, List.length_append, List.length_cons, List.forall_mem_cons, ← full]
    by_cases byte : 16 ≤ unit
    · rw [toDigits_byte byte (small unit List.mem_cons_self)]
      simp only [List.length_cons, List.length_nil]
      omega
    · rw [Nat.toDigits_of_lt_base (by omega)]
      simp only [List.length_cons, List.length_nil]
      omega

theorem length_pairs (digits : List Char) : (hexToASCII.pairs digits).length = (digits.length + 1) / 2 := by
  fun_induction hexToASCII.pairs digits with
  | case1 first second rest ih =>
    simp only [List.length_cons, ih]
    omega
  | case2 first => simp
  | case3 => rfl

private theorem pairs_small (hex : digits.all isHexDigit = true) (even : digits.length % 2 = 0) :
    ∀ char ∈ hexToASCII.pairs digits, char.toNat < 256 := by
  induction digits using hexToASCII.pairs.induct with
  | case1 first second rest ih =>
    have pair : [first, second].all isHexDigit = true ∧ rest.all isHexDigit = true := by
      simpa [and_assoc] using hex
    have byte := hexValue_pair_lt pair.1
    rw [pairs_cons pair.1, List.forall_mem_cons, toNat_ofNat_byte byte]
    refine ⟨byte, ih pair.2 ?_⟩
    simp only [List.length_cons] at even
    omega
  | case2 first => exact absurd even (by simp)
  | case3 => simp [hexToASCII.pairs]

/-- A text without larger units has no pairs of units. -/
theorem mem_unitsOf (char : Char) : ∃ unit ∈ unitsOf char, unit < 256 → char.toNat = unit := by
  unfold unitsOf
  split
  · exact ⟨char.toNat, List.mem_singleton_self _, fun _ => rfl⟩
  · exact ⟨_, List.mem_cons_self, fun few => absurd few (by omega)⟩

private theorem codeUnits_bytes (small : ∀ unit ∈ codeUnits message, unit < 256) :
    codeUnits message = message.toList.map Char.toNat := by
  have chars : ∀ char ∈ message.toList, char.toNat < 0x10000 := by
    intro char member
    obtain ⟨unit, has, same⟩ := mem_unitsOf char
    have few := small unit (List.mem_flatMap.mpr ⟨char, member, has⟩)
    rw [same few]
    omega
  rw [← Js.codeUnits_of_lt chars, String.ofList_toList]

theorem unitChars_hex (hex : digits.all isHexDigit = true) : unitChars (String.ofList digits) = digits := by
  apply Js.unitChars_of_lt
  intro digit member
  have bounds := isHexDigit_iff.mp (List.all_eq_true.mp hex digit member)
  omega

private theorem hexToASCII_hex (hex : digits.all isHexDigit = true) :
    hexToASCII (String.ofList digits) = String.ofList (hexToASCII.pairs digits) := by
  rw [hexToASCII, unitChars_hex hex]

theorem all_flatMap_toDigits (units : List Nat) : (units.flatMap (Nat.toDigits 16)).all isHexDigit = true := by
  rw [List.all_eq_true]
  intro digit member
  obtain ⟨unit, -, has⟩ := List.mem_flatMap.mp member
  exact List.all_eq_true.mp (all_isHexDigit_toDigits unit) digit has

private theorem flatMap_toDigits_ne_nil (present : message ≠ "") : (codeUnits message).flatMap (Nat.toDigits 16) ≠
    [] := by
  intro empty
  have units := Js.length_le_length_codeUnits message
  rw [List.flatMap_eq_nil_iff] at empty
  have chars : 0 < message.toList.length := List.length_pos_of_ne_nil fun none => present (String.toList_eq_nil_iff.mp none)
  obtain ⟨unit, member⟩ := List.exists_mem_of_length_pos (Nat.lt_of_lt_of_le chars units)
  exact Nat.toDigits_ne_nil (empty unit member)

/-- The digits of a text are read back exactly where each of its units has two of them. -/
theorem decodes_iff (message : String) :
    (((codeUnits message).flatMap (Nat.toDigits 16)).length % 2 = 0 ∧ hexToASCII (ASCIIToHex message) = message) ↔
      ∀ unit ∈ codeUnits message, 16 ≤ unit ∧ unit < 256 := by
  have hex := all_flatMap_toDigits (codeUnits message)
  rw [ASCIIToHex, hexToASCII_hex hex]
  constructor
  · rintro ⟨even, same⟩
    have chars : hexToASCII.pairs ((codeUnits message).flatMap (Nat.toDigits 16)) = message.toList := by
      rw [← same, String.toList_ofList, same]
    have small := pairs_small hex even
    rw [chars] at small
    have units : codeUnits message = message.toList.map Char.toNat := by
      rw [← Js.codeUnits_of_lt fun char member => Nat.lt_trans (small char member) (by decide), String.ofList_toList]
    have bytes : ∀ unit ∈ codeUnits message, unit < 256 := by
      rw [units, List.forall_mem_map]
      exact small
    have length := congrArg List.length chars
    rw [length_pairs] at length
    have full := (length_flatMap_toDigits bytes).2.mp (by
      have count := congrArg List.length units
      rw [List.length_map] at count
      omega)
    exact fun unit member => ⟨full unit member, bytes unit member⟩
  · intro bytes
    have units := codeUnits_bytes fun unit member => (bytes unit member).2
    have length := (length_flatMap_toDigits fun unit member => (bytes unit member).2).2.mpr fun unit member =>
      (bytes unit member).1
    refine ⟨by omega, ?_⟩
    rw [pairs_bytes bytes, units, List.map_map]
    exact (congrArg String.ofList (List.map_id'' (fun char => Char.ofNat_toNat char) message.toList)).trans
      String.ofList_toList

/-- Whole bytes in hexadecimal, which are the text, or the data that the message itself is. -/
def EncodesMessage (reason : Option String) (message : String) : Prop :=
  ∃ digits, reason = some ("0x" ++ String.ofList digits) ∧ digits.all isHexDigit = true ∧ digits.length % 2 = 0 ∧
    (hexToASCII (String.ofList digits) = message ∨ message = "0x" ++ String.ofList digits)

/-- Data of whole bytes behind `0x`, or a text that is no data without its `0x` either, and of
which each unit has two hexadecimal digits. -/
def Encodable (message : String) : Prop :=
  (∃ digits, message = "0x" ++ String.ofList digits ∧ isHex message = true ∧ digits.length % 2 = 0) ∨
    isHex (prepend0x message) = false ∧ ∀ unit ∈ codeUnits message, 16 ≤ unit ∧ unit < 256

theorem prepend0x_of_startsWith (starts : startsWith message "0x" = true) : prepend0x message = message := if_pos starts

theorem startsWith_hexText (digits : List Char) : startsWith ("0x" ++ String.ofList digits) "0x" = true := by
  rw [startsWith, toList_hexText]
  simp [List.isPrefixOf]

private theorem startsWith_inv (starts : startsWith message "0x" = true) :
    ∃ digits, message = "0x" ++ String.ofList digits := by
  obtain ⟨digits, same⟩ := List.isPrefixOf_iff_prefix.mp starts
  refine ⟨digits, ?_⟩
  rw [String.ext_iff, toList_hexText, ← same]
  rfl

theorem isHex_hexText (digits : List Char) :
    isHex ("0x" ++ String.ofList digits) = true ↔ digits ≠ [] ∧ digits.all isHexDigit = true := by
  rw [isHex, startsWith_hexText, toList_hexText]
  cases digits with
  | nil => simp
  | cons digit rest => simp [hexDigit?_isSome]

private theorem revertReasonOf_encodes_iff (present : message ≠ "") :
    EncodesMessage (revertReasonOf (some message)) message ↔ Encodable message := by
  rw [revertReasonOf, if_neg present]
  cases data : isHex (prepend0x message) with
  | true =>
    rw [if_pos rfl]
    cases starts : startsWith message "0x" with
    | true =>
      obtain ⟨digits, rfl⟩ := startsWith_inv starts
      rw [prepend0x_of_startsWith starts] at data
      have hex := (isHex_hexText digits).mp data
      constructor
      · rintro ⟨given, same, -, even, -⟩
        rw [hexText_inj.mp (Option.some.inj same)]
        exact .inl ⟨given, rfl, by rw [← Option.some.inj same]; exact data, even⟩
      · rintro (⟨given, same, -, even⟩ | ⟨other, -⟩)
        · rw [← hexText_inj.mp same] at even
          exact ⟨digits, rfl, hex.2, even, .inr rfl⟩
        · rw [prepend0x_of_startsWith starts, data] at other
          cases other
    | false =>
      constructor
      · rintro ⟨digits, same, -, -, -⟩
        rw [Option.some.inj same, startsWith_hexText] at starts
        cases starts
      · rintro (⟨digits, rfl, -, -⟩ | ⟨other, -⟩)
        · rw [startsWith_hexText] at starts
          cases starts
        · rw [data] at other
          cases other
  | false =>
    have hex := all_flatMap_toDigits (codeUnits message)
    rw [if_neg (by decide), ASCIIToHex, prepend0x_hex hex]
    constructor
    · rintro ⟨digits, same, -, even, text | own⟩
      · rw [← hexText_inj.mp (Option.some.inj same)] at even text
        exact .inr ⟨data, (decodes_iff message).mp ⟨even, text⟩⟩
      · rw [← hexText_inj.mp (Option.some.inj same)] at own
        have starts : startsWith message "0x" = true := own ▸ startsWith_hexText _
        rw [prepend0x_of_startsWith starts, own, (isHex_hexText _).mpr ⟨flatMap_toDigits_ne_nil present, hex⟩] at data
        cases data
    · rintro (⟨digits, rfl, own, -⟩ | ⟨-, bytes⟩)
      · rw [prepend0x_of_startsWith (startsWith_hexText digits), own] at data
        cases data
      · obtain ⟨even, text⟩ := (decodes_iff message).mpr bytes
        exact ⟨_, rfl, hex, even, .inl text⟩

variable {receiptResponse : ContractResult} {effectiveGas : HexNumber} {fromAddress toAddress : Option String}
  {logs : List Log} {receipt : TransactionReceipt}

private theorem createRegularReceipt_revertReason
    (created : createRegularReceipt receiptResponse effectiveGas fromAddress logs toAddress = pure receipt) :
    receipt.revertReason = revertReasonOf receiptResponse.errorMessage := by
  unfold createRegularReceipt at created
  cases number : receiptResponse.blockNumber with
  | none =>
    rw [number] at created
    cases created
  | some blockNumber =>
    cases index : receiptResponse.transactionIndex with
    | none =>
      rw [number, index] at created
      cases created
    | some transactionIndex =>
      rw [number, index] at created
      cases created
      rfl

/-- The reason encodes the message exactly where the message is data of whole bytes, or a text
that is not mistaken for data and has two digits for each of its units. -/
theorem revertReason_encodes_iff {message : String} (failed : receiptResponse.errorMessage = some message)
    (present : message ≠ "")
    (created : createRegularReceipt receiptResponse effectiveGas fromAddress logs toAddress = pure receipt) :
    EncodesMessage receipt.revertReason message ↔ Encodable message := by
  rw [createRegularReceipt_revertReason created, failed]
  exact revertReasonOf_encodes_iff present

/-- A call that failed with a message. -/
def failedWith (message : String) : ContractResult where
  address := some "0x1002"
  amount := some 0
  blockGasUsed := 21000
  blockHash := "0xb1"
  blockNumber := some 17
  bloom := "0x"
  callResult := "0x"
  chainId := some "0x127"
  contractId := some "0.0.4098"
  createdContractIds := []
  errorMessage := some message
  fromAddress := some "0x1001"
  functionParameters := "0x"
  gasPrice := some "0x5a"
  gasUsed := some 21000
  hash := "0x4a"
  logs := []
  maxFeePerGas := none
  maxPriorityFeePerGas := none
  nonce := some 1
  r := some "0x1f"
  result := "CONTRACT_REVERT_EXECUTED"
  root := none
  s := some "0x2f"
  status := "0x0"
  toAddress := some "0x1002"
  transactionIndex := some 0
  type := some 0
  v := some 1

/-- A plain text is encoded. -/
theorem text_encoded : ∃ receipt : TransactionReceipt,
    createRegularReceipt (failedWith "INSUFFICIENT_GAS") (Filters.numberTo0x 90) none [] none = pure receipt ∧
      EncodesMessage receipt.revertReason "INSUFFICIENT_GAS" := by
  refine ⟨_, rfl, ?_⟩
  have created : createRegularReceipt (failedWith "INSUFFICIENT_GAS") (Filters.numberTo0x 90) none [] none =
    pure _ := rfl
  exact (revertReason_encodes_iff rfl (by decide) created).mpr (.inr ⟨by decide, by decide⟩)

/-- A text that reads as hexadecimal digits is sent as it is, without `0x`. -/
theorem bare_digits_sent :
    ¬ ∀ (receiptResponse : ContractResult) (effectiveGas : HexNumber) (fromAddress : Option String) (logs : List Log)
      (toAddress : Option String) (receipt : TransactionReceipt) (message : String),
      receiptResponse.errorMessage = some message → message ≠ "" →
        createRegularReceipt receiptResponse effectiveGas fromAddress logs toAddress = pure receipt →
          EncodesMessage receipt.revertReason message := by
  intro claim
  obtain ⟨digits, same, -, -, -⟩ := claim (failedWith "badfeed") (Filters.numberTo0x 90) none [] none _ "badfeed" rfl
    (by decide) rfl
  have sent : some "badfeed" = some ("0x" ++ String.ofList digits) := same
  have starts := startsWith_hexText digits
  rw [← Option.some.inj sent] at starts
  revert starts
  decide

end HieroRelay.Formatting
