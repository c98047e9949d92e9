import HieroRelay.Formatting.TransactionValues

/-! The quantities of a transaction: which numbers of a contract result are shown without a
leading zero and without a loss. -/

namespace HieroRelay.Formatting

open HieroRelay.Js (hexValue isHexDigit roundToDouble)
open HieroRelay.Lib
open HieroRelay.Blocks (EMPTY_HEX TINYBAR_TO_WEIBAR_COEF isHex parseHex prepend0x startsWith strip0x
  stripLeadingZeroForSignatures substring trimPrecedingZeros)
open HieroRelay.Redis
open HieroRelay.Redis.CommonService (formatContractResult gasPriceOf signaturePart textTo textsOf transactionOf)
open HieroRelay.Redis.TransactionFactory (createTransactionByType feePerGas)

/-- One zero, or digits that do not start with a zero. -/
def Minimal (digits : List Char) : Prop := digits = ['0'] ∨ digits ≠ [] ∧ digits.head? ≠ some '0'

/-- A hexadecimal text without a leading zero, which denotes the number. -/
def IsQuantity (text : String) (number : Nat) : Prop :=
  ∃ digits, text = "0x" ++ String.ofList digits ∧ digits.all isHexDigit = true ∧ Minimal digits ∧
    hexValue digits = number

variable {number : Nat} {text : String} {given : List Char}

theorem minimal_toDigits (number : Nat) : Minimal (Nat.toDigits 16 number) := by
  rcases Nat.eq_zero_or_pos number with rfl | positive
  · exact .inl (Nat.toDigits_zero 16)
  · exact .inr ⟨Nat.toDigits_ne_nil, head_toDigits positive⟩

theorem isQuantity_digits (number : Nat) : IsQuantity ("0x" ++ digits 16 number) number := by
  rw [digits_natCast]
  exact ⟨_, rfl, all_isHexDigit_toDigits number, minimal_toDigits number, hexValue_toDigits number⟩

theorem isQuantity_zero : IsQuantity "0x0" 0 := isQuantity_digits 0

theorem hexText_ne_empty (present : given ≠ []) : "0x" ++ String.ofList given ≠ EMPTY_HEX := by
  intro empty
  exact present (hexText_inj.mp (empty.trans (by decide : EMPTY_HEX = "0x" ++ String.ofList [])))

theorem isQuantity_iff (hex : given.all isHexDigit = true) :
    IsQuantity ("0x" ++ String.ofList given) number ↔ Minimal given ∧ hexValue given = number := by
  constructor
  · rintro ⟨digits, same, -, minimal, denotes⟩
    rw [hexText_inj] at same
    subst same
    exact ⟨minimal, denotes⟩
  · rintro ⟨minimal, denotes⟩
    exact ⟨given, rfl, hex, minimal, denotes⟩

theorem isQuantity_digits_iff {other : Nat} : IsQuantity ("0x" ++ digits 16 other) number ↔ other = number := by
  rw [digits_natCast, isQuantity_iff (all_isHexDigit_toDigits other), hexValue_toDigits]
  exact and_iff_right (minimal_toDigits other)

/-! The fields of a contract result: a number or null, and a hexadecimal text, which may be
empty, or null. -/

def integerOf : Redis.Field Int → Nat
  | .given value => value.toNat
  | _ => 0

def hexDigitsOf : Redis.Field String → List Char
  | .given text => text.toList.drop 2
  | _ => []

def hexOf (field : Redis.Field String) : Nat := hexValue (hexDigitsOf field)

inductive IsInteger : Redis.Field Int → Prop
  | null : IsInteger .null
  | given (value : Nat) : IsInteger (.given value)

inductive IsHexText : Redis.Field String → Prop
  | null : IsHexText .null
  | given (digits : List Char) (hex : digits.all isHexDigit = true) : IsHexText (.given ("0x" ++ String.ofList digits))

theorem hexOf_given (given : List Char) : hexOf (.given ("0x" ++ String.ofList given)) = hexValue given := by
  rw [hexOf, hexDigitsOf, toList_hexText]
  rfl

theorem nanOrNumberTo0x_isQuantity {json : JSONBigInt} {field : Redis.Field Int} (integer : IsInteger field) :
    IsQuantity (nanOrNumberTo0x (field.map json.parse)) (integerOf field) := by
  cases integer with
  | null => exact isQuantity_zero
  | given value =>
    change IsQuantity ("0x" ++ (json.parse value).toString16) value
    rw [toString16_parse]
    exact isQuantity_digits value

/-- The gas price is converted digit by digit. -/
theorem gasPriceOf_isQuantity {price : Redis.Field String} (numeric : IsHexText price) :
    IsQuantity (gasPriceOf price) (hexOf price * TINYBAR_TO_WEIBAR_COEF) := by
  cases numeric with
  | null => exact isQuantity_zero
  | given given hex =>
    rw [hexOf_given]
    cases given with
    | nil => exact isQuantity_zero
    | cons digit rest =>
      have present := List.cons_ne_nil digit rest
      have isHexText : isHex ("0x" ++ String.ofList (digit :: rest)) = true := by
        rw [isHex, startsWith, toList_hexText]
        simp only [List.drop_succ_cons, List.drop_zero, hexDigit?_isSome]
        simpa [List.isPrefixOf] using hex
      unfold gasPriceOf
      dsimp only
      rw [if_neg (hexText_ne_empty present), if_pos isHexText, parseHex_hexText hex present, Option.getD_some,
        ← Int.natCast_mul]
      exact isQuantity_digits _

/-! A signature: one zero is dropped, and the text is cut behind 64 digits. -/

def dropZero (digits : List Char) : List Char := if digits.head? = some '0' then digits.tail else digits

private theorem stripLeadingZero_hexText (given : List Char) :
    stripLeadingZeroForSignatures ("0x" ++ String.ofList given) = "0x" ++ String.ofList (dropZero given) := by
  unfold stripLeadingZeroForSignatures
  dsimp only
  rw [HieroRelay.Blocks.strip0x_append]
  cases given with
  | nil => rfl
  | cons digit rest =>
    by_cases zero : digit = '0'
    · subst zero
      simp [startsWith, List.isPrefixOf, dropZero]
    · have other : ¬ '0' = digit := fun same => zero same.symm
      simp [startsWith, List.isPrefixOf, dropZero, zero, other]

theorem hexValue_dropZero (given : List Char) : hexValue (dropZero given) = hexValue given := by
  cases given with
  | nil => rfl
  | cons digit rest =>
    unfold dropZero
    split
    · next zero =>
        rw [Option.some.inj zero, List.tail_cons, hexValue_cons]
        change _ = 0 * _ + _
        rw [Nat.zero_mul, Nat.zero_add]
    · rfl

private theorem dropZero_sublist (given : List Char) : (dropZero given).Sublist given := by
  unfold dropZero
  split
  · exact List.tail_sublist given
  · exact .refl given

private theorem length_le_dropZero (given : List Char) : given.length ≤ (dropZero given).length + 1 := by
  unfold dropZero
  split
  · rw [List.length_tail]
    omega
  · omega

private theorem all_dropZero (hex : given.all isHexDigit = true) : (dropZero given).all isHexDigit = true := by
  rw [List.all_eq_true] at hex ⊢
  exact fun digit member => hex digit ((dropZero_sublist given).mem member)

/-- At most 64 digits, which start with at most one zero before the first other digit or the last one. -/
def ShortSignature (digits : List Char) : Prop := digits.length ≤ 64 ∧ Minimal (dropZero digits)

private theorem minimal_pos (minimal : Minimal given) (long : 1 < given.length) : 0 < hexValue given := by
  rcases minimal with rfl | ⟨present, nonzero⟩
  · exact absurd long (by decide)
  · exact hexValue_pos present nonzero

private theorem signature_isQuantity_iff (hex : given.all isHexDigit = true) :
    IsQuantity ("0x" ++ String.ofList (dropZero (given.take 64))) (hexValue given) ↔ ShortSignature given := by
  have hexTaken : (given.take 64).all isHexDigit = true := by
    rw [List.all_eq_true] at hex ⊢
    exact fun digit member => hex digit (List.mem_of_mem_take member)
  rw [isQuantity_iff (all_dropZero hexTaken), hexValue_dropZero]
  by_cases short : given.length ≤ 64
  · rw [List.take_of_length_le short]
    exact ⟨fun shown => ⟨short, shown.1⟩, fun shown => ⟨shown.2, rfl⟩⟩
  · constructor
    · rintro ⟨minimal, same⟩
      have length : (given.take 64).length = 64 := List.length_take_of_le (by omega)
      have least := length_le_dropZero (given.take 64)
      have positive := minimal_pos minimal (by omega)
      rw [hexValue_dropZero] at positive
      have whole : hexValue given =
          hexValue (given.take 64) * 16 ^ (given.drop 64).length + hexValue (given.drop 64) := by
        rw [← hexValue_append, List.take_append_drop]
      have more : 1 < 16 ^ (given.drop 64).length := Nat.one_lt_pow (by simp; omega) (by decide)
      have grows := Nat.mul_lt_mul_of_pos_left more positive
      omega
    · intro shown
      exact absurd shown.1 short

def SignatureShown (field : Redis.Field String) : Prop := field = .null ∨ ShortSignature (hexDigitsOf field)

theorem signaturePart_isQuantity_iff {field : Redis.Field String} (numeric : IsHexText field)
    (read : signaturePart field = .ok text) : IsQuantity text (hexOf field) ↔ SignatureShown field := by
  cases numeric with
  | null =>
    cases read
    exact iff_of_true isQuantity_zero (.inl rfl)
  | given given hex =>
    have cut : substring ("0x" ++ String.ofList given) 0 66 = "0x" ++ String.ofList (given.take 64) := by
      rw [HieroRelay.Blocks.substring_zero, toList_hexText, String.ext_iff]
      simp
    have shown : text = "0x" ++ String.ofList (dropZero (given.take 64)) := by
      rw [← stripLeadingZero_hexText, ← cut]
      exact (Except.ok.inj read).symm
    have digitsOf : hexDigitsOf (.given ("0x" ++ String.ofList given)) = given := by
      rw [hexDigitsOf, toList_hexText]
      rfl
    rw [shown, hexOf_given, signature_isQuantity_iff hex, SignatureShown, digitsOf]
    exact ⟨.inr, fun or => or.resolve_left nofun⟩

/-! A fee is read as a number of the runtime. -/

def FeeShown (field : Redis.Field String) : Prop := IsDouble (hexOf field) ∧ (hexOf field).log2 < 1024

theorem feePerGas_isQuantity_iff {field : Redis.Field String} (numeric : IsHexText field) :
    IsQuantity (feePerGas field) (hexOf field) ↔ FeeShown field := by
  have none : FeeShown .null := ⟨.of_lt (by decide), by decide⟩
  cases numeric with
  | null => exact iff_of_true isQuantity_zero none
  | given given hex =>
    cases given with
    | nil => exact iff_of_true isQuantity_zero none
    | cons digit rest =>
      have present := List.cons_ne_nil digit rest
      unfold feePerGas trimPrecedingZeros
      dsimp only
      rw [if_neg (hexText_ne_empty present), parseHex_hexText hex present, FeeShown, hexOf_given]
      dsimp only
      rw [roundToDouble_eq_nearestDouble]
      split
      · next finite =>
          rw [prepend0x_hex (all_isHexDigit_toDigits _), ← digits_natCast, isQuantity_digits_iff,
            nearestDouble_eq_self_iff]
          constructor
          · intro double
            rw [nearestDouble_of_isDouble double] at finite
            exact ⟨double, finite⟩
          · exact And.left
      · next infinite =>
          constructor
          · rintro ⟨digits, same, allHex, -, -⟩
            rw [(by decide : prepend0x "Infinity" = "0x" ++ String.ofList "Infinity".toList), hexText_inj] at same
            subst same
            exact absurd allHex (by decide)
          · rintro ⟨double, finite⟩
            rw [nearestDouble_of_isDouble double] at infinite
            exact absurd finite infinite

/-! The transaction. -/

/-- A contract result as the mirror node gives its numbers. -/
structure Numeric (cr : ContractResult Int) : Prop where
  amount : IsInteger cr.amount
  gas_price : IsHexText cr.gas_price
  gas_used : IsInteger cr.gas_used
  max_fee_per_gas : IsHexText cr.max_fee_per_gas
  max_priority_fee_per_gas : IsHexText cr.max_priority_fee_per_gas
  nonce : IsInteger cr.nonce
  r : IsHexText cr.r
  s : IsHexText cr.s
  type : IsInteger cr.type
  v : IsInteger cr.v

/-- Each quantity denotes the number of its field, the price and the value in weibars. -/
structure CanonicalQuantities (cr : ContractResult Int) (transaction : Transaction) : Prop where
  gas : IsQuantity transaction.gas (integerOf cr.gas_used)
  gasPrice : IsQuantity transaction.gasPrice (hexOf cr.gas_price * TINYBAR_TO_WEIBAR_COEF)
  nonce : IsQuantity transaction.nonce (integerOf cr.nonce)
  r : IsQuantity transaction.r (hexOf cr.r)
  s : IsQuantity transaction.s (hexOf cr.s)
  v : IsQuantity transaction.v (integerOf cr.v)
  type : IsQuantity transaction.type (integerOf cr.type)
  value : IsQuantity transaction.value (integerOf cr.amount * TINYBAR_TO_WEIBAR_COEF)
  fees : ∀ yParity maxPriorityFeePerGas maxFeePerGas,
    transaction.kind = .Transaction1559 yParity maxPriorityFeePerGas maxFeePerGas →
      IsQuantity maxPriorityFeePerGas (hexOf cr.max_priority_fee_per_gas) ∧
        IsQuantity maxFeePerGas (hexOf cr.max_fee_per_gas)

/-- What the conversions keep: short signatures, amounts of few bits, and the fees, where they
are shown, that are numbers of the runtime. -/
structure ShownExactly (cr : ContractResult Int) : Prop where
  r : SignatureShown cr.r
  s : SignatureShown cr.s
  amount : ExactInWeibars (integerOf cr.amount)
  fees : cr.type = .given 2 → FeeShown cr.max_priority_fee_per_gas ∧ FeeShown cr.max_fee_per_gas

variable {cr : ContractResult Int} {transaction : Transaction}

private theorem textsOf_signature {cr : ContractResult JsInteger} {texts : CommonService.ResultTexts}
    (read : textsOf cr = .ok texts) : signaturePart cr.r = .ok texts.r ∧ signaturePart cr.s = .ok texts.s := by
  unfold textsOf at read
  cases blockHash : textTo 66 cr.block_hash with
  | error thrown => rw [blockHash] at read; cases read
  | ok blockHash' =>
    cases fromAddress : textTo 42 cr.from_address with
    | error thrown => rw [blockHash, fromAddress] at read; cases read
    | ok fromAddress' =>
      cases hash : textTo 66 cr.hash with
      | error thrown => rw [blockHash, fromAddress, hash] at read; cases read
      | ok hash' =>
        cases r : signaturePart cr.r with
        | error thrown => rw [blockHash, fromAddress, hash, r] at read; cases read
        | ok r' =>
          cases s : signaturePart cr.s with
          | error thrown => rw [blockHash, fromAddress, hash, r, s] at read; cases read
          | ok s' =>
            rw [blockHash, fromAddress, hash, r, s] at read
            cases read
            exact ⟨rfl, rfl⟩

private theorem value_isQuantity_iff {json : JSONBigInt} (integer : IsInteger cr.amount)
    (produced : formatContractResult (some (json.parse <$> cr)) = .ok (some transaction)) :
    IsQuantity transaction.value (integerOf cr.amount * TINYBAR_TO_WEIBAR_COEF) ↔
      ExactInWeibars (integerOf cr.amount) := by
  cases given : cr.amount with
  | undefined =>
    rw [given] at integer
    cases integer
  | null =>
    obtain ⟨texts, weibars, kind, -, converted, -, rfl⟩ := formatted_inv produced
    have missing : (json.parse <$> cr).amount = .null := by
      change cr.amount.map json.parse = _
      rw [given]
      rfl
    rw [missing] at converted
    cases converted
    exact iff_of_true isQuantity_zero ⟨0, 0, by decide, by decide⟩
  | given value =>
    rw [given] at integer
    cases integer with
    | given amount =>
      rw [value_formatted given produced, isQuantity_digits_iff]
      exact weibarsOfAmount_iff

/-- Only the type two has fees. -/
theorem createTransactionByType_fees {json : JSONBigInt} {type : Redis.Field Int} {v : String}
    {maxPriorityFeePerGas maxFeePerGas : Redis.Field String} {kind : TransactionKind}
    (created : createTransactionByType (type.map json.parse) v maxPriorityFeePerGas maxFeePerGas = some kind) :
    type = .given 2 ∧ kind = .Transaction1559 v (feePerGas maxPriorityFeePerGas) (feePerGas maxFeePerGas) ∨
      type ≠ .given 2 ∧ ∀ yParity priority fee, kind ≠ .Transaction1559 yParity priority fee := by
  by_cases two : type = .given 2
  · subst two
    rw [Redis.Field.map, json.parse_of_short (by decide)] at created
    exact .inl ⟨rfl, (Option.some.inj created).symm⟩
  · refine .inr ⟨two, ?_⟩
    rintro yParity priority fee rfl
    apply two
    cases type with
    | undefined => cases created
    | null => cases created
    | given value =>
      unfold createTransactionByType at created
      split at created
      · cases created
      · cases created
      · cases created
      · next same =>
          have number : json.parse value = .number 2 := Redis.Field.given.inj same
          cases short : isShort value with
          | true =>
            rw [json.parse_of_short short] at number
            rw [JsInteger.number.inj number]
          | false =>
            rw [json.parse_of_long short] at number
            cases number
      · cases created

/-- All quantities are canonical and keep their numbers, exactly where the signature is short,
the amount has few bits and the fees are numbers of the runtime. -/
theorem quantities_iff {json : JSONBigInt} (numeric : Numeric cr)
    (produced : formatContractResult (some (json.parse <$> cr)) = .ok (some transaction)) :
    CanonicalQuantities cr transaction ↔ ShownExactly cr := by
  have value := value_isQuantity_iff numeric.amount produced
  obtain ⟨texts, weibars, kind, read, -, created, rfl⟩ := formatted_inv produced
  obtain ⟨r, s⟩ := textsOf_signature read
  have shownR := signaturePart_isQuantity_iff numeric.r r
  have shownS := signaturePart_isQuantity_iff numeric.s s
  have priority := feePerGas_isQuantity_iff numeric.max_priority_fee_per_gas
  have fee := feePerGas_isQuantity_iff numeric.max_fee_per_gas
  have kinds := createTransactionByType_fees created
  constructor
  · intro canonical
    refine ⟨shownR.mp canonical.r, shownS.mp canonical.s, value.mp canonical.value, fun two => ?_⟩
    rcases kinds with ⟨-, same⟩ | ⟨other, -⟩
    · have fees := canonical.fees _ _ _ same
      exact ⟨priority.mp fees.1, fee.mp fees.2⟩
    · exact absurd two other
  · intro exact
    refine {
      gas := nanOrNumberTo0x_isQuantity numeric.gas_used
      gasPrice := gasPriceOf_isQuantity numeric.gas_price
      nonce := nanOrNumberTo0x_isQuantity numeric.nonce
      r := shownR.mpr exact.r
      s := shownS.mpr exact.s
      v := nanOrNumberTo0x_isQuantity numeric.v
      type := nanOrNumberTo0x_isQuantity numeric.type
      value := value.mpr exact.amount
      fees := ?_ }
    intro yParity maxPriorityFeePerGas maxFeePerGas same
    rcases kinds with ⟨two, shown⟩ | ⟨-, other⟩
    · obtain ⟨-, rfl, rfl⟩ := TransactionKind.Transaction1559.inj (same.symm.trans shown)
      exact ⟨priority.mpr (exact.fees two).1, fee.mpr (exact.fees two).2⟩
    · exact absurd same (other _ _ _)

theorem IsHexText.of_toList (same : text.toList = '0' :: 'x' :: given) (hex : given.all isHexDigit = true) :
    IsHexText (.given text) := by
  have written : text = "0x" ++ String.ofList given := by
    rw [String.ext_iff, toList_hexText, same]
  rw [written]
  exact .given given hex

theorem numeric_transfer : Numeric (transferOf 100000000) where
  amount := .given 100000000
  gas_price := .of_toList (by decide : "0x5a".toList = ['0', 'x', '5', 'a']) (by decide)
  gas_used := .given 21000
  max_fee_per_gas := .of_toList (by decide : "0x59".toList = ['0', 'x', '5', '9']) (by decide)
  max_priority_fee_per_gas := .null
  nonce := .given 1
  r := .of_toList (by decide : "0x1f".toList = ['0', 'x', '1', 'f']) (by decide)
  s := .of_toList (by decide : "0x2f".toList = ['0', 'x', '2', 'f']) (by decide)
  type := .given 2
  v := .given 1

/-- The fields of a plain transfer are shown exactly. -/
theorem quantities_of_transfer :
    CanonicalQuantities (transferOf 100000000) (transactionOfTransfer "0xde0b6b3a7640000") := by
  have signature : ∀ text, text = "0x1f" ∨ text = "0x2f" → ShortSignature (hexDigitsOf (.given text)) := by
    rintro text (rfl | rfl)
    · exact ⟨by decide, .inr ⟨by decide, by decide⟩⟩
    · exact ⟨by decide, .inr ⟨by decide, by decide⟩⟩
  exact (quantities_iff numeric_transfer format_one_hbar).mpr {
    r := .inr (signature _ (.inl rfl))
    s := .inr (signature _ (.inr rfl))
    amount := ⟨390625, 8, by decide, by decide⟩
    fees := fun _ => ⟨⟨.of_lt (by decide), by decide⟩, ⟨.of_lt (by decide), by decide⟩⟩ }

/-- A transfer that is signed with a number of 31 bytes. -/
def shortlySigned : ContractResult Int :=
  { transferOf 100000000 with
    s := .given "0x00dd3a5aeb203d9284e50a9973bc5e266a3ea66da1fbb793b244b19b42f19e00" }

/-- One of the two zeros stays. -/
theorem leading_zero_shown :
    ¬ ∀ (json : JSONBigInt) (cr : ContractResult Int) (transaction : Transaction), Numeric cr →
      formatContractResult (some (json.parse <$> cr)) = .ok (some transaction) →
        CanonicalQuantities cr transaction := by
  intro claim
  have formatted : formatContractResult (some (JSONBigInt.byLength.parse <$> shortlySigned)) =
      .ok (some { transactionOfTransfer "0xde0b6b3a7640000" with
        s := "0x0dd3a5aeb203d9284e50a9973bc5e266a3ea66da1fbb793b244b19b42f19e00" }) := by
    decide +kernel
  have numeric : Numeric shortlySigned :=
    { numeric_transfer with
      s := .of_toList (by decide +kernel : "0x00dd3a5aeb203d9284e50a9973bc5e266a3ea66da1fbb793b244b19b42f19e00".toList =
        '0' :: 'x' :: "00dd3a5aeb203d9284e50a9973bc5e266a3ea66da1fbb793b244b19b42f19e00".toList) (by decide +kernel) }
  obtain ⟨digits, same, -, minimal, -⟩ := (claim _ _ _ numeric formatted).s
  have written : digits = "0dd3a5aeb203d9284e50a9973bc5e266a3ea66da1fbb793b244b19b42f19e00".toList := by
    apply hexText_inj.mp
    rw [← same]
    decide +kernel
  rw [written] at minimal
  revert minimal
  unfold Minimal
  decide +kernel

end HieroRelay.Formatting
