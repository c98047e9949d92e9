import HieroRelay.Formatting.TransactionValues
import HieroRelay.Js.RegExp
import HieroRelay.Relay.Validators

/-! The three checks of a block parameter: two patterns that repeat their digits in another way,
each with a bound on the number, accept the same texts. -/

namespace HieroRelay.Relay

open HieroRelay.Formatting
open HieroRelay.Js
open HieroRelay.Js.Regex
open HieroRelay.Lib

/-- Of `TYPES.blockNumber`. -/
def blockNumberPattern : String := "^0[xX]([1-9A-Fa-f][0-9A-Fa-f]\x7b0,13\x7d|0)$"

/-- Of `TYPES.blockParams` and `isBlockNumValid`. -/
def blockParamsPattern : String := "^0[xX]([1-9A-Fa-f]+[0-9A-Fa-f]\x7b0,13\x7d|0)$"

/-- `Number(text)` of a hexadecimal text. -/
def hexNumeral (text : String) : Nat := roundToDouble (((hexDigits text).map hexValue).getD 0)

namespace CommonService

def isBlockTagEarliest (tag : String) : Bool := tag == "earliest"

def isBlockTagFinalized (tag : String) : Bool :=
  tag == "finalized" || tag == "latest" || tag == "pending" || tag == "safe"

def isBlockNumValid (num : String) : Bool :=
  RegExp.testPattern blockParamsPattern num && hexNumeral num ≤ MAX_SAFE_INTEGER

def isBlockParamValid : Option String → Bool
  | none => true
  | some tag => isBlockTagEarliest tag || isBlockTagFinalized tag || isBlockNumValid tag

end CommonService

namespace TYPES

/-- The test of `blockNumber`, of a string. -/
def blockNumber (param : String) : Bool :=
  (RegExp.testPattern blockNumberPattern param && hexNumeral param ≤ MAX_SAFE_INTEGER) ||
    Validator.blockTags.contains param

/-- The test of `blockParams`, of a string. -/
def blockParams (param : String) : Bool :=
  (RegExp.testPattern blockParamsPattern param && hexNumeral param ≤ MAX_SAFE_INTEGER) ||
    Validator.blockTags.contains param

end TYPES

/-- A hexadecimal number without leading zeros that is a safe integer. -/
def IsBlockNumber (text : String) : Prop :=
  ∃ mark digits, text.toList = '0' :: mark :: digits ∧ (mark = 'x' ∨ mark = 'X') ∧ digits.all isHexDigit = true ∧
    (digits = ['0'] ∨ digits ≠ [] ∧ digits.head? ≠ some '0') ∧ hexValue digits ≤ MAX_SAFE_INTEGER

def IsBlockParam (text : String) : Prop := text ∈ Validator.blockTags ∨ IsBlockNumber text

/-! The patterns, as they compile. -/

def markSet : CharSet := { negated := false, ranges := [(120, 120), (88, 88)] }

/-- `[0-9A-Fa-f]` -/
def digitSet : CharSet := { negated := false, ranges := [(48, 57), (65, 70), (97, 102)] }

/-- `[1-9A-Fa-f]` -/
def nonzeroSet : CharSet := { negated := false, ranges := [(49, 57), (65, 70), (97, 102)] }

def blockRegex (first : Regex) : Regex :=
  .seq .start (.seq (.chars (.unit 48)) (.seq (.chars markSet)
    (.seq (.alt (.seq first (.seq (.repeated (.chars digitSet) 0 (some 13)) .empty)) (.seq (.chars (.unit 48)) .empty))
      (.seq .finish .empty))))

private theorem new_blockNumberPattern :
    RegExp.new blockNumberPattern.toList = .ok (blockRegex (.chars nonzeroSet)) := by decide +kernel

private theorem new_blockParamsPattern :
    RegExp.new blockParamsPattern.toList = .ok (blockRegex (.repeated (.chars nonzeroSet) 1 none)) := by decide +kernel

section Characters
variable {char : Char} {units : List Nat} {text : String} {digits : List Char}

theorem has_unit {unit other : Nat} : (CharSet.unit unit).has other = true ↔ other = unit := by
  simp [CharSet.has, CharSet.unit]
  omega

theorem has_markSet {unit : Nat} : markSet.has unit = true ↔ unit = 120 ∨ unit = 88 := by
  simp [CharSet.has, markSet]
  omega

private theorem has_digitSet : digitSet.has char.toNat = isHexDigit char := by
  rw [Bool.eq_iff_iff, isHexDigit_iff]
  simp [CharSet.has, digitSet]
  omega

theorem has_nonzeroSet : nonzeroSet.has char.toNat = (isHexDigit char && char != '0') := by
  have zero : char = '0' ↔ char.toNat = 48 := Char.toNat_inj.symm
  rw [Bool.eq_iff_iff, Bool.and_eq_true, isHexDigit_iff, bne_iff_ne, ne_eq, zero]
  simp [CharSet.has, nonzeroSet]
  omega

theorem all_has_digitSet (digits : List Char) : (digits.map Char.toNat).all digitSet.has = digits.all isHexDigit := by
  rw [List.all_map]
  exact congrArg (digits.all ·) (funext fun _ => has_digitSet)

private theorem digitSet_lt {unit : Nat} (inside : digitSet.has unit = true) : unit < 128 := by
  simp [CharSet.has, digitSet] at inside
  omega

theorem hexDigits_eq_some_iff : hexDigits text = some digits ↔
    ∃ mark, text.toList = '0' :: mark :: digits ∧ (mark = 'x' ∨ mark = 'X') ∧ digits.all isHexDigit = true := by
  constructor
  · intro read
    unfold hexDigits at read
    split at read
    · next mark rest written =>
        split at read
        · next holds =>
            obtain rfl := Option.some.inj read
            rw [Bool.and_eq_true, Bool.or_eq_true, beq_iff_eq, beq_iff_eq] at holds
            exact ⟨mark, written, holds.1, holds.2⟩
        · cases read
    · cases read
  · rintro ⟨mark, written, marked, hex⟩
    rw [hexDigits, written]
    simp [marked, hex]

/-- The digits of a text, read off its code units. -/
theorem hexDigits_iff : hexDigits text = some digits ↔
    ∃ mark, markSet.has mark = true ∧ codeUnits text = 48 :: mark :: digits.map Char.toNat ∧
      digits.all isHexDigit = true := by
  constructor
  · intro read
    obtain ⟨mark, whole, marked, hex⟩ := hexDigits_eq_some_iff.mp read
    have small : ∀ char ∈ '0' :: mark :: digits, char.toNat < 0x10000 := by
      have markSmall : mark.toNat < 0x10000 := by rcases marked with rfl | rfl <;> decide
      refine List.forall_mem_cons.mpr ⟨by decide, List.forall_mem_cons.mpr ⟨markSmall, ?_⟩⟩
      intro char member
      have bounds := isHexDigit_iff.mp (List.all_eq_true.mp hex char member)
      omega
    have units := codeUnits_of_lt small
    rw [← whole, String.ofList_toList] at units
    refine ⟨mark.toNat, has_markSet.mpr ?_, by rw [units, whole]; rfl, hex⟩
    rcases marked with rfl | rfl
    · exact .inl rfl
    · exact .inr rfl
  · rintro ⟨mark, marked, units, hex⟩
    have marks := has_markSet.mp marked
    have small : ∀ unit ∈ codeUnits text, unit < 0xD800 := by
      rw [units]
      refine List.forall_mem_cons.mpr ⟨by decide, List.forall_mem_cons.mpr ⟨by omega, ?_⟩⟩
      intro unit member
      obtain ⟨char, inside, rfl⟩ := List.mem_map.mp member
      have bounds := isHexDigit_iff.mp (List.all_eq_true.mp hex char inside)
      omega
    have whole := codeUnits_eq_map small
    rw [units] at whole
    obtain ⟨zero, tail, written, first, more⟩ := List.map_eq_cons_iff.mp whole.symm
    obtain ⟨second, rest, rfl, same, others⟩ := List.map_eq_cons_iff.mp more
    obtain rfl : zero = '0' := Char.toNat_inj.mp first
    obtain rfl : rest = digits := List.map_injective_iff.mpr (fun _ _ => Char.toNat_inj.mp) others
    refine hexDigits_eq_some_iff.mpr ⟨second, written, ?_, hex⟩
    rcases marks with rfl | rfl
    · exact .inl (Char.toNat_inj.mp same)
    · exact .inr (Char.toNat_inj.mp same)

/-- Code units of digits are digits. -/
theorem exists_digits (hex : units.all digitSet.has = true) : ∃ digits : List Char, units = digits.map Char.toNat := by
  refine ⟨units.map Char.ofNat, ?_⟩
  have same : ∀ unit ∈ units, (Char.toNat ∘ Char.ofNat) unit = unit := by
    intro unit member
    have small := digitSet_lt (List.all_eq_true.mp hex unit member)
    exact toNat_ofNat_byte (by omega)
  rw [List.map_map, List.map_congr_left same, List.map_id']

/-- A pattern that begins with the zero and its mark. -/
theorem test_marked_iff {regex : Regex} :
    (seq start (seq (chars (.unit 48)) (seq (chars markSet) regex))).test text = true ↔
      ∃ mark units, codeUnits text = 48 :: mark :: units ∧ markSet.has mark = true ∧
        ∃ later, later ∈ regex.rests (false, units) := by
  rw [test_start_iff]
  constructor
  · rintro ⟨last, match_⟩
    obtain ⟨afterZero, zero, match_⟩ := mem_rests_seq.mp match_
    obtain ⟨unit, rest, whole, isZero, rfl⟩ := mem_rests_chars.mp zero
    obtain ⟨afterMark, marked, match_⟩ := mem_rests_seq.mp match_
    obtain ⟨mark, units, rfl, isMark, rfl⟩ := mem_rests_chars.mp marked
    obtain rfl := has_unit.mp isZero
    exact ⟨mark, units, whole, isMark, last, match_⟩
  · rintro ⟨mark, units, whole, isMark, last, match_⟩
    refine ⟨last, mem_rests_seq.mpr ⟨_, mem_rests_chars.mpr ⟨48, _, whole, has_unit.mpr rfl, rfl⟩, ?_⟩⟩
    exact mem_rests_seq.mpr ⟨_, mem_rests_chars.mpr ⟨mark, _, rfl, isMark, rfl⟩, match_⟩

private theorem test_blockRegex {first : Regex} : (blockRegex first).test text = true ↔
    ∃ mark units, codeUnits text = 48 :: mark :: units ∧ markSet.has mark = true ∧
      (units = [48] ∨ ∃ later ∈ first.rests (false, units), later.2.all digitSet.has = true ∧ later.2.length ≤ 13) := by
  refine test_marked_iff.trans (exists_congr fun mark => exists_congr fun units => and_congr_right fun _ =>
    and_congr_right fun _ => ?_)
  constructor
  · rintro ⟨last, match_⟩
    obtain ⟨afterDigits, read, match_⟩ := mem_rests_seq.mp match_
    obtain ⟨final, ended, -⟩ := mem_rests_seq.mp match_
    have nothing := (mem_rests_finish.mp ended).1
    rcases mem_rests_alt.mp read with long | single
    · obtain ⟨later, begun, more⟩ := mem_rests_seq.mp long
      obtain ⟨final, repeated, same⟩ := mem_rests_seq.mp more
      obtain rfl := List.mem_singleton.mp same
      obtain ⟨word, rest, split, digits, -, bounded, rfl⟩ :=
        (mem_rests_repeated_chars (fun _ _ => Nat.zero_le _)).mp repeated
      obtain rfl : rest = [] := nothing
      rw [List.append_nil] at split
      exact .inr ⟨later, begun, split ▸ digits, split ▸ bounded 13 rfl⟩
    · obtain ⟨later, unit, same⟩ := mem_rests_seq.mp single
      obtain rfl := List.mem_singleton.mp same
      obtain ⟨digit, rest, rfl, isZero, rfl⟩ := mem_rests_chars.mp unit
      obtain rfl : rest = [] := nothing
      rw [has_unit.mp isZero]
      exact .inl rfl
  · intro read
    have ended : ∃ later, later.2 = [] ∧ later ∈ (alt (seq first (seq (repeated (chars digitSet) 0 (some 13)) empty))
        (seq (chars (.unit 48)) empty)).rests (false, units) := by
      rcases read with rfl | ⟨⟨atStart, rest⟩, begun, digits, few⟩
      · exact ⟨(false, []), rfl, mem_rests_alt.mpr (.inr (by simp [has_unit]))⟩
      · have repeated := (@mem_rests_repeated_chars digitSet (atStart && rest.isEmpty, []) atStart rest 0 (some 13) (fun _ _ => Nat.zero_le _)).mpr
          ⟨rest, [], (List.append_nil rest).symm, digits, Nat.zero_le _, fun _ same => Option.some.inj same ▸ few, rfl⟩
        refine ⟨(atStart && rest.isEmpty, []), rfl, mem_rests_alt.mpr (.inl (mem_rests_seq.mpr ⟨_, begun, ?_⟩))⟩
        exact mem_rests_seq.mpr ⟨_, repeated, List.mem_singleton.mpr rfl⟩
    obtain ⟨later, nothing, match_⟩ := ended
    exact ⟨later, mem_rests_seq.mpr ⟨later, match_, by simp [nothing]⟩⟩

/-- What a pattern accepts, read on the digits. -/
theorem testPattern_eq_any {pattern : String} {first : Regex} {form : List Char → Bool}
    (compiled : RegExp.new pattern.toList = .ok (blockRegex first))
    (inside : ∀ units, ∀ later ∈ first.rests (false, units), later.2.all digitSet.has = true →
      units.all digitSet.has = true)
    (formed : ∀ digits : List Char, digits.all isHexDigit = true →
      ((digits = ['0'] ∨ ∃ later ∈ first.rests (false, digits.map Char.toNat),
        later.2.all digitSet.has = true ∧ later.2.length ≤ 13) ↔ form digits = true)) :
    RegExp.testPattern pattern text = (hexDigits text).any form := by
  rw [RegExp.testPattern, compiled, Bool.eq_iff_iff, Option.any_eq_true]
  have single : ∀ digits : List Char, digits.map Char.toNat = [48] ↔ digits = ['0'] := by
    intro digits
    exact List.map_injective_iff.mpr (fun _ _ => Char.toNat_inj.mp) |>.eq_iff (b := ['0'])
  refine test_blockRegex.trans ?_
  constructor
  · rintro ⟨mark, units, whole, marked, read⟩
    have hex : units.all digitSet.has = true := by
      rcases read with rfl | ⟨later, begun, digits, -⟩
      · rfl
      · exact inside units later begun digits
    obtain ⟨digits, rfl⟩ := exists_digits hex
    rw [all_has_digitSet] at hex
    exact ⟨digits, hexDigits_iff.mpr ⟨mark, marked, whole, hex⟩,
      (formed digits hex).mp (read.imp_left (single digits).mp)⟩
  · rintro ⟨digits, read, holds⟩
    obtain ⟨mark, marked, whole, hex⟩ := hexDigits_iff.mp read
    exact ⟨mark, _, whole, marked, ((formed digits hex).mpr holds).imp_left (single digits).mpr⟩

theorem digitSet_of_nonzeroSet {unit : Nat} (inside : nonzeroSet.has unit = true) : digitSet.has unit = true := by
  simp [CharSet.has, digitSet, nonzeroSet] at inside ⊢
  omega

theorem testPattern_blockNumber :
    RegExp.testPattern blockNumberPattern text = (hexDigits text).any Validator.blockNumberDigits := by
  apply testPattern_eq_any new_blockNumberPattern
  · intro units later begun hex
    obtain ⟨unit, rest, rfl, nonzero, rfl⟩ := mem_rests_chars.mp begun
    rw [List.all_cons, digitSet_of_nonzeroSet nonzero, hex]
    rfl
  · intro digits hex
    rw [Validator.blockNumberDigits, Bool.or_eq_true, beq_iff_eq]
    refine or_congr_right ?_
    cases digits with
    | nil => simp
    | cons digit rest =>
      rw [List.all_cons, Bool.and_eq_true] at hex
      constructor
      · rintro ⟨later, begun, -, few⟩
        obtain ⟨unit, units, same, nonzero, rfl⟩ := mem_rests_chars.mp begun
        obtain ⟨rfl, rfl⟩ := List.cons.inj same
        rw [has_nonzeroSet, Bool.and_eq_true] at nonzero
        rw [List.length_map] at few
        simp [nonzero.2, Nat.succ_le_succ few]
      · intro form
        simp only [List.head?_cons, Option.any_some, Bool.and_eq_true, List.length_cons, decide_eq_true_eq] at form
        have nonzero : nonzeroSet.has digit.toNat = true := by rw [has_nonzeroSet, hex.1, form.1]; rfl
        refine ⟨_, mem_rests_chars.mpr ⟨_, _, rfl, nonzero, rfl⟩, (all_has_digitSet rest).trans hex.2, ?_⟩
        rw [List.length_map]
        omega

theorem testPattern_blockParams :
    RegExp.testPattern blockParamsPattern text = (hexDigits text).any Validator.blockParamsDigits := by
  apply testPattern_eq_any new_blockParamsPattern
  · intro units later begun hex
    obtain ⟨word, rest, rfl, nonzero, -, -, rfl⟩ := (mem_rests_repeated_chars (by simp)).mp begun
    rw [List.all_append, hex, Bool.and_true]
    exact List.all_eq_true.mpr fun unit member => digitSet_of_nonzeroSet (List.all_eq_true.mp nonzero unit member)
  · intro digits hex
    rw [Validator.blockParamsDigits, Bool.or_eq_true, beq_iff_eq]
    refine or_congr_right ?_
    constructor
    · rintro ⟨later, begun, -, few⟩
      obtain ⟨word, rest, same, nonzero, long, -, rfl⟩ := (mem_rests_repeated_chars (by simp)).mp begun
      obtain ⟨leading, others, rfl, rfl, rfl⟩ := List.map_eq_append_iff.mp same
      have kept : ∀ digit ∈ leading, (digit != '0') = true := by
        intro digit member
        have inside := List.all_eq_true.mp nonzero _ (List.mem_map_of_mem member)
        rw [has_nonzeroSet, Bool.and_eq_true] at inside
        exact inside.2
      rw [List.length_map] at few long
      rw [List.takeWhile_append_of_pos kept]
      simp only [Bool.and_eq_true, Bool.not_eq_true', List.isEmpty_eq_false_iff, decide_eq_true_eq, List.length_append]
      refine ⟨fun none => ?_, by omega⟩
      rw [List.append_eq_nil_iff] at none
      rw [none.1] at long
      cases long
    · intro form
      simp only [Bool.and_eq_true, Bool.not_eq_true', List.isEmpty_eq_false_iff, decide_eq_true_eq] at form
      have split := List.takeWhile_append_dropWhile (p := (· != '0')) (l := digits)
      have length := congrArg List.length split
      rw [List.length_append] at length
      have others : (digits.dropWhile (· != '0')).all isHexDigit = true :=
        List.all_eq_true.mpr fun digit member =>
          List.all_eq_true.mp hex digit ((List.dropWhile_sublist _).subset member)
      have nonzero : ((digits.takeWhile (· != '0')).map Char.toNat).all nonzeroSet.has = true := by
        rw [List.all_map]
        refine List.all_eq_true.mpr fun digit member => ?_
        have hexDigit := List.all_eq_true.mp hex digit ((List.takeWhile_sublist _).subset member)
        exact has_nonzeroSet.trans (by rw [hexDigit, List.all_eq_true.mp List.all_takeWhile digit member]; rfl)
      refine ⟨_, (mem_rests_repeated_chars (by simp)).mpr ⟨_, _, ?_, nonzero, ?_, by simp, rfl⟩,
        (all_has_digitSet _).trans others, ?_⟩
      · rw [← List.map_append, split]
      · rw [List.length_map]
        exact List.length_pos_iff.mpr form.1
      · rw [List.length_map]
        omega

end Characters

private theorem roundToDouble_le_iff {value : Nat} :
    roundToDouble value ≤ MAX_SAFE_INTEGER ↔ value ≤ MAX_SAFE_INTEGER := by
  have exact_ : ∀ {value}, value < 2 ^ 53 → roundToDouble value = value := fun small => if_pos small
  constructor
  · intro rounded
    by_contra large
    have above : 2 ^ 53 ≤ value := by
      unfold MAX_SAFE_INTEGER at large
      omega
    have double : IsDouble (2 ^ 53) := ⟨1, 53, by decide, rfl⟩
    have kept : nearestDouble (2 ^ 53) 1 ≤ nearestDouble value 1 := nearestDouble_mono above
    rw [nearestDouble_of_isDouble double, ← roundToDouble_eq_nearestDouble] at kept
    unfold MAX_SAFE_INTEGER at rounded
    omega
  · intro small
    rw [exact_ (by unfold MAX_SAFE_INTEGER at small; omega)]
    exact small

section Verdicts
variable {digits : List Char} {text : String}

private theorem isBlockTag_eq : (CommonService.isBlockTagEarliest text || CommonService.isBlockTagFinalized text) =
    Validator.blockTags.contains text := by
  rw [Bool.eq_iff_iff]
  simp [CommonService.isBlockTagEarliest, CommonService.isBlockTagFinalized, Validator.blockTags]
  tauto

/-- A digit that is no zero weighs more than all that follow it can. -/
theorem length_of_hexValue (nonzero : digits.head? ≠ some '0') (small : hexValue digits ≤ MAX_SAFE_INTEGER) :
    digits.length ≤ 14 := by
  cases digits with
  | nil => exact Nat.zero_le _
  | cons digit rest =>
    have positive := hexDigitValue_pos fun zero => nonzero (zero ▸ rfl)
    have weight := Nat.le_mul_of_pos_left (16 ^ rest.length) positive
    rw [hexValue_cons] at small
    have below : 16 ^ rest.length < 16 ^ 14 := by
      unfold MAX_SAFE_INTEGER at small
      omega
    exact (Nat.pow_lt_pow_iff_right (by decide)).mp below

/-- Under the bound on the number both patterns ask for the same. -/
theorem digits_forms (small : hexValue digits ≤ MAX_SAFE_INTEGER) :
    Validator.blockNumberDigits digits = Validator.blockParamsDigits digits ∧
      (Validator.blockNumberDigits digits = true ↔ digits = ['0'] ∨ digits ≠ [] ∧ digits.head? ≠ some '0') := by
  unfold Validator.blockNumberDigits Validator.blockParamsDigits
  cases digits with
  | nil => decide
  | cons digit rest =>
    by_cases zero : digit = '0'
    · subst zero
      simp
    · have few : (digit :: rest).length ≤ 14 := length_of_hexValue (by simpa using zero) small
      have leading : (digit :: rest).takeWhile (· != '0') = digit :: rest.takeWhile (· != '0') := by
        simp [zero]
      rw [List.length_cons] at few
      rw [leading]
      have short : rest.length ≤ (rest.takeWhile (· != '0')).length + 13 := by omega
      simp [zero, few, short]

theorem any_and_iff {form : List Char → Bool} :
    ((hexDigits text).any form && decide (hexNumeral text ≤ MAX_SAFE_INTEGER)) =
      (hexDigits text).any fun digits => form digits && hexValue digits ≤ MAX_SAFE_INTEGER := by
  unfold hexNumeral
  cases hexDigits text with
  | none => rfl
  | some digits =>
    change (form digits && decide (roundToDouble (hexValue digits) ≤ MAX_SAFE_INTEGER)) = _
    rw [decide_eq_decide.mpr roundToDouble_le_iff]
    rfl

theorem includesString_isSome {list : List String} :
    (includesString list (some (.str text))).isSome = list.contains text := by
  change (if list.contains text = true then some text else none).isSome = _
  cases list.contains text <;> rfl

/-- The model of the validators reads their patterns on the digits. -/
theorem test_blockNumber {numberToString : Rat → String} :
    Validator.ValueType.blockNumber.test numberToString (.str text) = .ok (TYPES.blockNumber text) := by
  rw [TYPES.blockNumber, testPattern_blockNumber, any_and_iff, ← includesString_isSome]
  rfl

private theorem test_blockParams {numberToString : Rat → String} :
    Validator.ParamType.blockParams.test numberToString (.str text) = .ok (TYPES.blockParams text, .str text) := by
  rw [TYPES.blockParams, testPattern_blockParams, any_and_iff, ← includesString_isSome]
  rfl

private theorem any_forms :
    ((hexDigits text).any fun digits => Validator.blockNumberDigits digits && hexValue digits ≤ MAX_SAFE_INTEGER) =
      (hexDigits text).any fun digits => Validator.blockParamsDigits digits && hexValue digits ≤ MAX_SAFE_INTEGER := by
  cases hexDigits text with
  | none => rfl
  | some digits =>
    by_cases small : hexValue digits ≤ MAX_SAFE_INTEGER
    · simp [(digits_forms small).1]
    · simp [small]

private theorem isBlockNumber_iff : IsBlockNumber text ↔
    ((hexDigits text).any fun digits => Validator.blockNumberDigits digits && hexValue digits ≤ MAX_SAFE_INTEGER) =
      true := by
  rw [Option.any_eq_true]
  constructor
  · rintro ⟨mark, digits, written, marked, hex, form, small⟩
    refine ⟨digits, hexDigits_eq_some_iff.mpr ⟨mark, written, marked, hex⟩, ?_⟩
    simp [(digits_forms small).2.mpr form, small]
  · rintro ⟨digits, read, accepted⟩
    rw [Bool.and_eq_true, decide_eq_true_eq] at accepted
    obtain ⟨mark, written, marked, hex⟩ := hexDigits_eq_some_iff.mp read
    exact ⟨mark, digits, written, marked, hex, (digits_forms accepted.2).2.mp accepted.1, accepted.2⟩

theorem isBlockParamValid_eq : CommonService.isBlockParamValid (some text) = TYPES.blockParams text := by
  change (_ || _ || CommonService.isBlockNumValid text) = _
  rw [isBlockTag_eq, Bool.or_comm]
  rfl

theorem TYPES.blockNumber_eq_blockParams : TYPES.blockNumber text = TYPES.blockParams text := by
  rw [TYPES.blockNumber, TYPES.blockParams, testPattern_blockNumber, testPattern_blockParams, any_and_iff, any_and_iff,
    any_forms]

theorem TYPES.blockNumber_iff : TYPES.blockNumber text = true ↔ IsBlockParam text := by
  rw [TYPES.blockNumber, testPattern_blockNumber, any_and_iff, Bool.or_eq_true, ← isBlockNumber_iff,
    List.contains_iff_mem, or_comm]
  rfl

/-- The three checks give one verdict on every string. -/
theorem blockParam_verdicts (numberToString : Rat → String) (text : String) :
    Validator.ValueType.blockNumber.test numberToString (.str text) = .ok (TYPES.blockNumber text) ∧
    Validator.ParamType.blockParams.test numberToString (.str text) = .ok (TYPES.blockParams text, .str text) ∧
    TYPES.blockNumber text = CommonService.isBlockParamValid (some text) ∧
    TYPES.blockParams text = CommonService.isBlockParamValid (some text) ∧
    (CommonService.isBlockParamValid (some text) = true ↔ IsBlockParam text) := by
  refine ⟨test_blockNumber, test_blockParams, ?_, isBlockParamValid_eq.symm, ?_⟩
  · rw [isBlockParamValid_eq, TYPES.blockNumber_eq_blockParams]
  · rw [isBlockParamValid_eq, ← TYPES.blockNumber_eq_blockParams]
    exact TYPES.blockNumber_iff

end Verdicts

end HieroRelay.Relay
