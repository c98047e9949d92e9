import HieroRelay.Blocks.Formatters
import HieroRelay.Js.Value
import Mathlib.Algebra.Order.Ring.Int

/-! Integers of the mirror node as the relay holds them: numbers where their text is short,
`BigNumber` objects beyond, and what a JSON text makes of both. -/

namespace HieroRelay.Redis

open HieroRelay.Js (JsError MAX_SAFE_INTEGER roundToDouble)
open HieroRelay.Blocks (TINYBAR_TO_WEIBAR_COEF TOTAL_SUPPLY_TINYBARS)

/-- A property that may be missing or null. -/
inductive Field (Value : Type) where
  | undefined
  | null
  | given (value : Value)
  deriving Repr, DecidableEq

def Field.map {Value Other : Type} (change : Value → Other) : Field Value → Field Other
  | .undefined => .undefined
  | .null => .null
  | .given value => .given (change value)

@[simp] theorem Field.map_id {Value : Type} (field : Field Value) : field.map id = field := by cases field <;> rfl

@[simp] theorem Field.map_comp {First Second Third : Type} (first : First → Second) (second : Second → Third)
    (field : Field First) : field.map (second ∘ first) = (field.map first).map second := by cases field <;> rfl

/-- A number, a `BigNumber`, or the string of the decimal digits. -/
inductive JsInteger where
  | number (value : Int)
  | bigNumber (value : Int)
  | decimal (value : Int)
  deriving Repr, DecidableEq

/-- An integer in a JSON text: a number, or its digits in a string. -/
inductive JsonInteger where
  | number (value : Int)
  | string (value : Int)
  deriving Repr, DecidableEq

def isSafeInteger (value : Int) : Bool := value.natAbs ≤ MAX_SAFE_INTEGER

/-- The nearest double. -/
def toDouble (value : Int) : Int :=
  if value < 0 then -(roundToDouble value.natAbs : Int) else roundToDouble value.natAbs

theorem toDouble_of_safe {value : Int} (safe : isSafeInteger value = true) : toDouble value = value := by
  have small : value.natAbs < 2 ^ 53 := by
    have bound : value.natAbs ≤ MAX_SAFE_INTEGER := of_decide_eq_true safe
    simp only [MAX_SAFE_INTEGER] at bound
    omega
  unfold toDouble roundToDouble
  rw [if_pos small]
  split_ifs <;> omega

/-- `toJSON` of a `BigNumber` is the string of its digits. -/
def JSON.stringify : JsInteger → JsonInteger
  | .number value => .number value
  | .bigNumber value | .decimal value => .string value

def JSON.parse : JsonInteger → JsInteger
  | .number value => .number (toDouble value)
  | .string value => .decimal value

/-- The digits of an integer in a base. -/
def digits (base : Nat) (value : Int) : String :=
  let absolute := String.ofList (Nat.toDigits base value.natAbs)
  if value < 0 then "-" ++ absolute else absolute

/-- The text of an integer in JSON has at most fifteen characters, its sign included. -/
def isShort (value : Int) : Bool := (digits 10 value).length ≤ 15

/-- What the parser makes of the integers of a JSON text: it goes by the length of their text. -/
structure JSONBigInt where
  parse : Int → JsInteger
  parse_of_short : ∀ {value}, isShort value = true → parse value = .number value
  parse_of_long : ∀ {value}, isShort value = false → parse value = .bigNumber value

/-- The parser that does no more. -/
def JSONBigInt.byLength : JSONBigInt where
  parse value := if isShort value then .number value else .bigNumber value
  parse_of_short short := if_pos short
  parse_of_long long := if_neg (Bool.eq_false_iff.mp long)

theorem isShort_iff {value : Int} : isShort value = true ↔ -(10 ^ 14) < value ∧ value < 10 ^ 15 := by
  rw [isShort, decide_eq_true_iff]
  unfold digits
  split_ifs with negative
  · -- the sign takes one of the characters
    rw [String.length_append, String.length_ofList, String.length_ofList, List.length_singleton]
    have counted : (Nat.toDigits 10 value.natAbs).length ≤ 14 ↔ value.natAbs < 10 ^ 14 :=
      Nat.length_toDigits_le_iff (by decide) (by decide)
    omega
  · rw [String.length_ofList, Nat.length_toDigits_le_iff (by decide) (by decide)]
    omega

theorem isSafeInteger_of_short {value : Int} (short : isShort value = true) : isSafeInteger value = true := by
  obtain ⟨above, below⟩ := isShort_iff.mp short
  apply decide_eq_true
  simp only [MAX_SAFE_INTEGER]
  omega

namespace JsInteger

/-- `toString(16)`; a string ignores the base. -/
def toString16 : JsInteger → String
  | .number value | .bigNumber value => digits 16 value
  | .decimal value => digits 10 value

/-- `Number(input)`, also where an operator converts its operand. -/
def toNumber : JsInteger → Int
  | .number value => value
  | .bigNumber value | .decimal value => toDouble value

/-- `BigInt(input.toString())` -/
def toBigInt : JsInteger → Int
  | .number value | .bigNumber value | .decimal value => value

end JsInteger

theorem toNumber_parse {json : JSONBigInt} {value : Int} : (json.parse value).toNumber = toDouble value := by
  cases short : isShort value with
  | true => simp [json.parse_of_short short, JsInteger.toNumber, toDouble_of_safe (isSafeInteger_of_short short)]
  | false => simp [json.parse_of_long short, JsInteger.toNumber]

theorem toString16_parse {json : JSONBigInt} {value : Int} : (json.parse value).toString16 = digits 16 value := by
  cases short : isShort value with
  | true => rw [json.parse_of_short short, JsInteger.toString16]
  | false => rw [json.parse_of_long short, JsInteger.toString16]

def numberTo0x : Field JsInteger → Except JsError String
  | .undefined => .error (.typeError "Cannot read properties of undefined (reading 'toString')")
  | .null => .error (.typeError "Cannot read properties of null (reading 'toString')")
  | .given input => .ok ("0x" ++ input.toString16)

def nullableNumberTo0x : Field JsInteger → Option String
  | .undefined | .null => none
  | .given input => some ("0x" ++ input.toString16)

def nanOrNumberTo0x : Field JsInteger → String
  | .undefined | .null => "0x0"
  | .given input => "0x" ++ input.toString16

/-- A negative number in two's complement of 64 bits. -/
def nanOrNumberInt64To0x : Field JsInteger → String
  | .given input =>
      if input.toNumber < 0 then
        "0x" ++ digits 16 ((input.toBigInt + 18446744073709551616).tmod 18446744073709551616)
      else nanOrNumberTo0x (.given input)
  | input => nanOrNumberTo0x input

def tinybarsToWeibars (value : Field JsInteger) (allowNegativeValues : Bool) : Except JsError (Field JsInteger) :=
  match value with
  | .undefined | .null => .ok .null
  | .given input =>
      if input.toNumber < 0 then
        if allowNegativeValues then .ok (.given input)
        else .error (.error "Invalid value - cannot pass negative number")
      else if input.toNumber > TOTAL_SUPPLY_TINYBARS then
        .error (.error "Value cannot be more than the total supply of tinybars in the blockchain")
      else .ok (.given (.number (toDouble (input.toNumber * TINYBAR_TO_WEIBAR_COEF))))

end HieroRelay.Redis
