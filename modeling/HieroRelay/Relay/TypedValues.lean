import HieroRelay.Relay.BlockParams

/-! What the validators of strings accept: a pattern reads the text of its argument, and a list of
one element has the text of that element. -/

namespace HieroRelay.Relay.Validator

open HieroRelay.Js
open HieroRelay.Js.Regex

variable {numberToString : Rat → String} {value : Json} {text : String} {form : List Char → Bool} {type : ValueType}

/-! The patterns of hexadecimal texts. -/

def BASE_HEX_REGEX : String := "^0[xX][a-fA-F0-9]"

/-- `[a-fA-F0-9]` -/
def hexSet : CharSet := { negated := false, ranges := [(97, 102), (65, 70), (48, 57)] }

def hexRegex (least : Nat) (most : Option Nat) : Regex :=
  .seq .start (.seq (.chars (.unit 48)) (.seq (.chars markSet)
    (.seq (.repeated (.chars hexSet) least most) (.seq .finish .empty))))

private theorem new_address : RegExp.new (BASE_HEX_REGEX ++ "\x7b40\x7d$").toList = .ok (hexRegex 40 (some 40)) := by
  decide +kernel

private theorem new_hash : RegExp.new (BASE_HEX_REGEX ++ "\x7b64\x7d$").toList = .ok (hexRegex 64 (some 64)) := by
  decide +kernel

private theorem new_hex : RegExp.new (BASE_HEX_REGEX ++ "*$").toList = .ok (hexRegex 0 none) := by decide +kernel

private theorem new_hex64 : RegExp.new (BASE_HEX_REGEX ++ "\x7b1,64\x7d$").toList = .ok (hexRegex 1 (some 64)) := by
  decide +kernel

private theorem has_hexSet {unit : Nat} : hexSet.has unit = digitSet.has unit := by
  rw [Bool.eq_iff_iff]
  simp [CharSet.has, digitSet, hexSet]
  omega

/-- A pattern of this form bounds the number of digits. -/
theorem testPattern_hex {pattern : String} {least : Nat} {most : Option Nat}
    (compiled : RegExp.new pattern.toList = .ok (hexRegex least most)) (ordered : ∀ bound, most = some bound → least ≤ bound) :
    RegExp.testPattern pattern text = (hexDigits text).any fun digits =>
      least ≤ digits.length && most.all (digits.length ≤ ·) := by
  have bounded : ∀ length : Nat, most.all (length ≤ ·) = true ↔ ∀ bound, most = some bound → length ≤ bound := by
    intro length
    cases most <;> simp
  have same : hexSet.has = digitSet.has := funext fun _ => has_hexSet
  rw [RegExp.testPattern, compiled, Bool.eq_iff_iff, Option.any_eq_true]
  refine test_marked_iff.trans ?_
  constructor
  · rintro ⟨mark, units, whole, isMark, last, match_⟩
    obtain ⟨afterDigits, read, match_⟩ := mem_rests_seq.mp match_
    obtain ⟨final, ended, -⟩ := mem_rests_seq.mp match_
    obtain ⟨word, rest, rfl, hex, long, few, rfl⟩ := (mem_rests_repeated_chars ordered).mp read
    obtain rfl : rest = [] := (mem_rests_finish.mp ended).1
    rw [same] at hex
    obtain ⟨digits, rfl⟩ := exists_digits hex
    rw [List.append_nil] at whole
    rw [all_has_digitSet] at hex
    rw [List.length_map] at long few
    refine ⟨digits, hexDigits_iff.mpr ⟨mark, isMark, whole, hex⟩, ?_⟩
    rw [Bool.and_eq_true, decide_eq_true_eq, bounded]
    exact ⟨long, few⟩
  · rintro ⟨digits, read, formed⟩
    obtain ⟨mark, isMark, whole, hex⟩ := hexDigits_iff.mp read
    rw [Bool.and_eq_true, decide_eq_true_eq, bounded, ← List.length_map Char.toNat] at formed
    rw [← all_has_digitSet, ← same] at hex
    have repeated := (@mem_rests_repeated_chars _ (false, []) false _ least most ordered).mpr
      ⟨digits.map Char.toNat, [], (List.append_nil _).symm, hex, formed.1, formed.2, rfl⟩
    exact ⟨mark, _, whole, isMark, (false, []), mem_rests_seq.mpr ⟨_, repeated, by simp⟩⟩

/-- A string, or lists of one element around it. -/
inductive Wraps (text : String) : Json → Prop where
  | str : Wraps text (.str text)
  | arr {item : Json} (wraps : Wraps text item) : Wraps text (.arr [item])

private theorem toText_of_wraps (wraps : Wraps text value) : toText numberToString value = .ok text := by
  induction wraps with
  | str => rfl
  | arr wraps ih =>
    rw [toText]
    cases wraps with
    | str => exact ih
    | arr wraps => exact ih

private theorem comma_not_hex (hex : (hexDigits text).isSome = true) : ',' ∉ text.toList := by
  obtain ⟨digits, read⟩ := Option.isSome_iff_exists.mp hex
  obtain ⟨mark, written, marked, digitsHex⟩ := hexDigits_eq_some_iff.mp read
  rw [written, List.mem_cons, List.mem_cons, not_or, not_or]
  refine ⟨by decide, ?_, fun member => absurd (List.all_eq_true.mp digitsHex ',' member) (by decide)⟩
  rintro rfl
  rcases marked with marked | marked <;> cases marked

/-- Two texts are joined by a comma. -/
theorem comma_of_joinTexts {first second : Json} {rest : List Json}
    (written : joinTexts numberToString (first :: second :: rest) = .ok text) : ',' ∈ text.toList := by
  have joined : ∀ head tail : String, ',' ∈ (head ++ "," ++ tail).toList := by
    intro head tail
    simp
  cases first with
  | null =>
    obtain ⟨tail, -, same⟩ := bind_eq_ok_iff.mp written
    cases same
    simp
  | _ =>
    obtain ⟨head, -, following⟩ := bind_eq_ok_iff.mp written
    obtain ⟨tail, -, same⟩ := bind_eq_ok_iff.mp following
    cases same
    exact joined head tail

/-- Only a string has hexadecimal text, or a list of one element that has it. -/
theorem wraps_of_hex (numbers : ∀ number, hexDigits (numberToString number) = none)
    (hex : (hexDigits text).isSome = true) : (value : Json) → toText numberToString value = .ok text → Wraps text value
  | .null, written => by
      cases written
      cases hex
  | .bool verdict, written => by
      cases verdict <;> cases written <;> cases hex
  | .num number, written => by
      cases written
      rw [numbers] at hex
      cases hex
  | .str other, written => by
      cases written
      exact .str
  | .obj fields, written => by
      rw [toText] at written
      split at written
      · cases written
      · cases written
        cases hex
  | .arr [], written => by
      cases written
      cases hex
  | .arr [.null], written => by
      cases written
      cases hex
  | .arr [.bool verdict], written => .arr (wraps_of_hex numbers hex (.bool verdict) written)
  | .arr [.num number], written => .arr (wraps_of_hex numbers hex (.num number) written)
  | .arr [.str other], written => .arr (wraps_of_hex numbers hex (.str other) written)
  | .arr [.arr items], written => .arr (wraps_of_hex numbers hex (.arr items) written)
  | .arr [.obj fields], written => .arr (wraps_of_hex numbers hex (.obj fields) written)
  | .arr (first :: second :: rest), written => absurd (comma_of_joinTexts written) (comma_not_hex hex)

/-- A pattern accepts what wraps a string that it accepts. -/
theorem hexTest_iff (numbers : ∀ number, hexDigits (numberToString number) = none) :
    hexTest numberToString form value = .ok true ↔ ∃ text, Wraps text value ∧ (hexDigits text).any form = true := by
  constructor
  · intro accepted
    obtain ⟨text, written, verdict⟩ := bind_eq_ok_iff.mp accepted
    have formed : (hexDigits text).any form = true := Except.ok.inj verdict
    have hex : (hexDigits text).isSome = true := by
      cases read : hexDigits text with
      | none =>
        rw [read] at formed
        cases formed
      | some digits => rfl
    exact ⟨text, wraps_of_hex numbers hex value written, formed⟩
  · rintro ⟨text, wraps, formed⟩
    rw [hexTest, toText_of_wraps wraps, ok_bind, formed]
    rfl

/-- The types of strings, and those of lists of them. -/
def stringTypes : List ValueType :=
  [.address, .blockHash, .transactionHash, .hex, .hex64, .hexEvenLength, .addressFilter, .topics]

def pattern : ValueType → String
  | .address | .addressFilter => BASE_HEX_REGEX ++ "\x7b40\x7d$"
  | .hex | .hexEvenLength => BASE_HEX_REGEX ++ "*$"
  | .hex64 => BASE_HEX_REGEX ++ "\x7b1,64\x7d$"
  | _ => BASE_HEX_REGEX ++ "\x7b64\x7d$"

/-- A string that the pattern of a type accepts. -/
def IsHexString (type : ValueType) (value : Json) : Prop :=
  ∃ text, value = .str text ∧ RegExp.testPattern (pattern type) text = true

inductive AllLeaves (holds : Json → Prop) : Json → Prop where
  | leaf {value : Json} (own : holds value) : AllLeaves holds value
  | arr {items : List Json} (all : ∀ item ∈ items, AllLeaves holds item) : AllLeaves holds (.arr items)

def IsTopic (value : Json) : Prop := value = .null ∨ IsHexString .topics value

/-- The values that a type is for. -/
def WellTyped (type : ValueType) (value : Json) : Prop :=
  match type with
  | .addressFilter => AllLeaves (IsHexString .addressFilter) value
  | .topics => ∃ items, value = .arr items ∧
      ∀ item ∈ items, IsTopic item ∨ ∃ inner, item = .arr inner ∧ ∀ leaf ∈ inner, IsTopic leaf
  | .hexEvenLength =>
      ∃ text, value = .str text ∧ RegExp.testPattern (pattern .hexEvenLength) text = true ∧ text.length % 2 = 0
  | type => IsHexString type value

/-- A list of one element with the text of a string in it. -/
def InList (holds : String → Prop) : Json → Prop
  | .arr [item] => ∃ text, Wraps text item ∧ holds text
  | _ => False

/-- Lists that are read as a string, at the top or, for topics, below the second level. -/
def Coerced (type : ValueType) (value : Json) : Prop :=
  match type, value with
  | .addressFilter, _ => False
  | .hexEvenLength, _ => False
  | .topics, .arr items =>
      (∃ inner, .arr inner ∈ flat items) ∧ ∀ item ∈ flat items,
        item = .null ∨ ∃ text, Wraps text item ∧ RegExp.testPattern (pattern .topics) text = true
  | .topics, _ => False
  | type, value => InList (fun text => RegExp.testPattern (pattern type) text = true) value

/-- What the pattern of a type asks of the digits. -/
def digitForm : ValueType → List Char → Bool
  | .address | .addressFilter => (·.length == 40)
  | .hex | .hexEvenLength => fun _ => true
  | .hex64 => fun digits => 1 ≤ digits.length && digits.length ≤ 64
  | _ => (·.length == 64)

private theorem testPattern_pattern : RegExp.testPattern (pattern type) text = (hexDigits text).any
    (digitForm type) := by
  have exactly : ∀ count : Nat, (fun digits : List Char => count ≤ digits.length && (some count).all (digits.length ≤ ·)) =
      (·.length == count) := by
    intro count
    funext digits
    rw [Bool.eq_iff_iff]
    simp
    omega
  have address := (@testPattern_hex text _ _ _ new_address (by simp)).trans (congrArg (hexDigits text).any (exactly 40))
  have hash := (@testPattern_hex text _ _ _ new_hash (by simp)).trans (congrArg (hexDigits text).any (exactly 64))
  have hex := @testPattern_hex text _ _ _ new_hex (by simp)
  cases type with
  | address => exact address
  | addressFilter => exact address
  | hex => exact hex
  | hexEvenLength => exact hex
  | hex64 => exact testPattern_hex new_hex64 (by simp)
  | _ => exact hash

section Accepted
variable (numbers : ∀ number, hexDigits (numberToString number) = none)
include numbers

theorem hexTest_pattern_iff : hexTest numberToString (digitForm type) value = .ok true ↔
    ∃ text, Wraps text value ∧ RegExp.testPattern (pattern type) text = true := by
  rw [hexTest_iff numbers]
  exact exists_congr fun text => and_congr_right fun _ => by rw [testPattern_pattern]

private theorem topicHashTest_iff : topicHashTest numberToString value = .ok true ↔
    value = .null ∨ ∃ text, Wraps text value ∧ RegExp.testPattern (pattern .topics) text = true := by
  rw [← @hexTest_pattern_iff _ _ .topics numbers]
  change (hash32Test numberToString value >>= fun verdict => .ok (verdict || value == .null)) = .ok true ↔
    value = .null ∨ hash32Test numberToString value = .ok true
  by_cases null : value = .null
  · subst null
    exact iff_of_true rfl (.inl rfl)
  · have other : (value == .null) = false := beq_eq_false_iff_ne.mpr null
    rw [or_iff_right null]
    cases hash32Test numberToString value with
    | error error => exact iff_of_false nofun nofun
    | ok verdict => rw [ok_bind, other, Bool.or_false]

end Accepted

theorem everyItem_iff {test : Json → Except JsError Bool} {items : List Json} :
    everyItem test items = .ok true ↔ ∀ item ∈ items, test item = .ok true := by
  induction items with
  | nil => exact iff_of_true rfl (List.forall_mem_nil _)
  | cons item rest ih =>
    rw [List.forall_mem_cons, ← ih, everyItem]
    cases tested : test item with
    | error error => exact iff_of_false nofun fun both => nomatch both.1
    | ok verdict =>
      cases verdict with
      | true => exact (and_iff_right rfl).symm
      | false => exact iff_of_false nofun fun both => nomatch both.1

theorem mem_flat {items : List Json} {leaf : Json} : leaf ∈ flat items ↔
    (leaf ∈ items ∧ ∀ inner, leaf ≠ .arr inner) ∨ ∃ inner, .arr inner ∈ items ∧ leaf ∈ inner := by
  rw [flat, List.mem_flatMap]
  constructor
  · rintro ⟨item, member, inside⟩
    cases item with
    | arr inner => exact .inr ⟨inner, member, inside⟩
    | _ =>
      rw [List.mem_singleton.mp inside]
      exact .inl ⟨member, nofun⟩
  · rintro (⟨member, other⟩ | ⟨inner, member, inside⟩)
    · refine ⟨leaf, member, ?_⟩
      cases leaf with
      | arr inner => exact absurd rfl (other inner)
      | _ => exact List.mem_singleton.mpr rfl
    · exact ⟨.arr inner, member, inside⟩

/-- What wraps a string has no other leaf. -/
theorem allLeaves_of_wraps {holds : Json → Prop} (own : holds (.str text)) (wraps : Wraps text value) :
    AllLeaves holds value := by
  induction wraps with
  | str => exact .leaf own
  | arr wraps ih => exact .arr (List.forall_mem_singleton.mpr ih)

private theorem allLeaves_of_flat {holds : Json → Prop} {items : List Json}
    (all : ∀ item ∈ flat items, AllLeaves holds item) :
    AllLeaves holds (.arr items) := by
  refine .arr fun item member => ?_
  cases item with
  | arr inner => exact .arr fun leaf inside => all leaf (mem_flat.mpr (.inr ⟨inner, member, inside⟩))
  | _ => exact all _ (mem_flat.mpr (.inl ⟨member, nofun⟩))

/-- Of what wraps a string only the string itself is one. -/
theorem string_of_wraps_iff {holds : String → Prop} :
    ((∃ text, Wraps text value ∧ holds text) → ∃ text, value = .str text ∧ holds text) ↔ ¬ InList holds value := by
  constructor
  · intro typed inList
    unfold InList at inList
    split at inList
    · obtain ⟨text, wraps, own⟩ := inList
      obtain ⟨other, same, -⟩ := typed ⟨text, .arr wraps, own⟩
      cases same
    · exact inList
  · rintro outside ⟨text, wraps, own⟩
    cases wraps with
    | str => exact ⟨text, rfl, own⟩
    | arr wraps => exact absurd ⟨text, wraps, own⟩ outside

private theorem topics_wellTyped_iff (numbers : ∀ number, hexDigits (numberToString number) = none) :
    (ValueType.topics.test numberToString value = .ok true → WellTyped .topics value) ↔ ¬ Coerced .topics value := by
  cases value with
  | arr items =>
    have accepted : ValueType.topics.test numberToString (.arr items) = .ok true ↔ ∀ item ∈ flat items,
        item = .null ∨ ∃ text, Wraps text item ∧ RegExp.testPattern (pattern .topics) text = true :=
      everyItem_iff.trans (forall₂_congr fun item _ => topicHashTest_iff numbers)
    rw [accepted]
    constructor
    · rintro typed ⟨⟨inner, member⟩, all⟩
      obtain ⟨_, same, leaves⟩ := typed all
      cases same
      rcases mem_flat.mp member with ⟨-, other⟩ | ⟨list, outer, inside⟩
      · exact other inner rfl
      · rcases leaves _ outer with topic | ⟨_, same, topics⟩
        · rcases topic with null | ⟨text, string, -⟩
          · cases null
          · cases string
        · cases same
          rcases topics _ inside with null | ⟨text, string, -⟩
          · cases null
          · cases string
    · intro outside all
      have topic : ∀ item ∈ flat items, IsTopic item := by
        intro item member
        rcases all item member with null | ⟨text, wraps, own⟩
        · exact .inl null
        · cases wraps with
          | str => exact .inr ⟨text, rfl, own⟩
          | arr wraps => exact absurd ⟨⟨_, member⟩, all⟩ outside
      refine ⟨items, rfl, fun item member => ?_⟩
      cases item with
      | arr inner => exact .inr ⟨inner, rfl, fun leaf inside => topic leaf (mem_flat.mpr (.inr ⟨inner, member, inside⟩))⟩
      | _ => exact .inl (topic _ (mem_flat.mpr (.inl ⟨member, nofun⟩)))
  | _ => exact iff_of_true nofun id

section Always
variable (numbers : ∀ number, hexDigits (numberToString number) = none)
include numbers

/-- The length of a list of one element is odd. -/
theorem hexEvenLength_wellTyped (accepted : ValueType.hexEvenLength.test numberToString value = .ok true) :
    WellTyped .hexEvenLength value := by
  obtain ⟨verdict, tested, both⟩ := bind_eq_ok_iff.mp accepted
  obtain ⟨rfl, even⟩ := Bool.and_eq_true_iff.mp (Except.ok.inj both)
  obtain ⟨text, wraps, own⟩ := (@hexTest_pattern_iff _ _ .hexEvenLength numbers).mp tested
  cases wraps with
  | str => exact ⟨text, rfl, own, beq_iff_eq.mp even⟩
  | arr wraps => cases even

private theorem addressFilter_wellTyped (accepted : ValueType.addressFilter.test numberToString value = .ok true) :
    WellTyped .addressFilter value := by
  have leaves : ∀ item, addressTest numberToString item = .ok true → AllLeaves (IsHexString .addressFilter) item := by
    intro item tested
    obtain ⟨text, wraps, own⟩ := (@hexTest_pattern_iff _ _ .addressFilter numbers).mp tested
    exact allLeaves_of_wraps ⟨text, rfl, own⟩ wraps
  cases value with
  | arr items => exact allLeaves_of_flat fun item member => leaves item (everyItem_iff.mp accepted item member)
  | _ => exact leaves _ accepted

end Always

/-- The validators accept only what their type is for, save where a list is read as the string in it. -/
theorem accepted_wellTyped_iff (numberToString : Rat → String)
    (numbers : ∀ number, hexDigits (numberToString number) = none) (type : ValueType) (listed : type ∈ stringTypes)
    (value : Json) :
    (type.test numberToString value = .ok true → WellTyped type value) ↔ ¬ Coerced type value := by
  have string : ∀ type : ValueType, (hexTest numberToString (digitForm type) value = .ok true → IsHexString type value) ↔
      ¬ InList (fun text => RegExp.testPattern (pattern type) text = true) value :=
    fun type => (imp_congr_left (hexTest_pattern_iff numbers)).trans string_of_wraps_iff
  cases type with
  | address => exact string .address
  | blockHash => exact string .blockHash
  | transactionHash => exact string .transactionHash
  | hex => exact string .hex
  | hex64 => exact string .hex64
  | topics => exact topics_wellTyped_iff numbers
  | hexEvenLength => exact iff_of_true (hexEvenLength_wellTyped numbers) id
  | addressFilter => exact iff_of_true (addressFilter_wellTyped numbers) id
  | _ => exact absurd listed (by decide)

/-- A string of forty digits is an address, and it is the same text in a list. -/
theorem accepted_wellTyped_address : WellTyped .address (.str "0x0000000000000000000000000000000000000167") :=
  (accepted_wellTyped_iff (fun _ => "0") (fun _ => rfl) .address (by decide)
    (.str "0x0000000000000000000000000000000000000167")).mpr id (by decide)

theorem address_in_list_accepted :
    ¬ ∀ (type : ValueType) (value : Json), type ∈ stringTypes →
      type.test (fun _ => "0") value = .ok true → WellTyped type value := by
  intro typed
  have accepted : ValueType.address.test (fun _ => "0")
      (.arr [.str "0x0000000000000000000000000000000000000167"]) = .ok true := by decide
  obtain ⟨_, same, -⟩ := typed .address _ (by decide) accepted
  cases same

end HieroRelay.Relay.Validator
