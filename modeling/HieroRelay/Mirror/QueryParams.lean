import HieroRelay.Js.FormUrlEncoded
import HieroRelay.Lib.Table
import Mathlib.Data.List.Sort

/-! The query of a mirror node request: an object whose properties are set one by one, where a key that
was set already gets further values as text, and the string that is built from it. -/

namespace HieroRelay.Mirror.Query

open HieroRelay.Js
open HieroRelay.Lib

abbrev Text := List Char

/-- The shortest decimal digits of a number other than zero, with the decimal point behind so many of them. -/
structure Decimal where
  negative : Bool
  digits : List (Fin 10)
  point : Int
  filled : digits ≠ []
  leading : digits.head? ≠ some 0
  trailing : digits.getLast? ≠ some 0

/-- A number of JavaScript; the two zeros have one text. -/
inductive Number where
  | nan
  | infinite (negative : Bool)
  | zero
  | finite (decimal : Decimal)

def signText (negative : Bool) : Text := if negative then ['-'] else []

def digitsText (digits : List (Fin 10)) : Text := digits.map fun digit => Nat.digitChar digit.val

/-- The digits of a number from 1e-6 up to 1e21 are all written, those of another one with an exponent. -/
def Decimal.unsignedText (decimal : Decimal) : Text :=
  let digits := digitsText decimal.digits
  let length : Int := digits.length
  if length ≤ decimal.point ∧ decimal.point ≤ 21 then
    digits ++ List.replicate (decimal.point - length).toNat '0'
  else if 0 < decimal.point ∧ decimal.point ≤ 21 then
    digits.take decimal.point.toNat ++ '.' :: digits.drop decimal.point.toNat
  else if -6 < decimal.point ∧ decimal.point ≤ 0 then
    '0' :: '.' :: List.replicate (-decimal.point).toNat '0' ++ digits
  else
    digits.take 1 ++ (if digits.length = 1 then [] else '.' :: digits.drop 1) ++
      'e' :: (if decimal.point - 1 < 0 then '-' else '+') :: Nat.toDigits 10 (decimal.point - 1).natAbs

/-- `String(value)` -/
def Number.text : Number → Text
  | .nan => "NaN".toList
  | .infinite negative => signText negative ++ "Infinity".toList
  | .zero => ['0']
  | .finite decimal => signText decimal.negative ++ decimal.unsignedText

def Number.truthy : Number → Bool
  | .nan | .zero => false
  | .infinite _ | .finite _ => true

inductive Scalar where
  | string (text : Text)
  | number (value : Number)
  | boolean (value : Bool)

def Scalar.text : Scalar → Text
  | .string text => text
  | .number value => value.text
  | .boolean value => if value then "true".toList else "false".toList

def Scalar.truthy : Scalar → Bool
  | .string text => text ≠ []
  | .number value => value.truthy
  | .boolean value => value

inductive Value where
  | undefined
  | null
  | scalar (value : Scalar)
  | array (elements : List Scalar)

/-- `String(value)`; the elements of an array are joined by commas. -/
def Value.text : Value → Text
  | .undefined => "undefined".toList
  | .null => "null".toList
  | .scalar value => value.text
  | .array elements => [','].intercalate (elements.map Scalar.text)

def Value.truthy : Value → Bool
  | .undefined | .null => false
  | .scalar value => value.truthy
  | .array _ => true

/-- `value != undefined && value !== ''` -/
def Value.given : Value → Bool
  | .undefined | .null | .scalar (.string []) => false
  | .scalar _ | .array _ => true

/-- The text of a function of the language. -/
def nativeText (name : Text) : Text := "function ".toList ++ name ++ "() \x7b [native code] \x7d".toList

/-- The functions that every object inherits. -/
def inheritedFunctions : List Text :=
  ["__defineGetter__", "__defineSetter__", "hasOwnProperty", "__lookupGetter__", "__lookupSetter__", "isPrototypeOf",
    "propertyIsEnumerable", "toString", "valueOf", "toLocaleString"].map String.toList

/-- What an object answers to a key that was not set, as text. -/
def inheritedText (key : Text) : Option Text :=
  if key = "constructor".toList then some (nativeText "Object".toList)
  else if key ∈ inheritedFunctions then some (nativeText key)
  else if key = "__proto__".toList then some "[object Object]".toList
  else none

abbrev Params := Table Text Value

/-- The text of a property that is truthy. -/
def truthyText (key : Text) : Option Value → Option Text
  | some value => if value.truthy then some value.text else none
  | none => inheritedText key

/-- `queryParamObject[key] = value`; the prototype is no property of its own, and no text takes its place. -/
def write (queryParamObject : Params) (key : Text) (value : Value) : Params :=
  if key = "__proto__".toList then queryParamObject else queryParamObject.assign key value

def setQueryParam (queryParamObject : Params) (key : Text) (value : Value) : Params :=
  if key ≠ [] ∧ value.given = true then
    match truthyText key (queryParamObject.get key) with
    | none => write queryParamObject key value
    -- a repeated parameter is written behind the text of what is stored
    | some held => write queryParamObject key (.scalar (.string (held ++ '&' :: key ++ '=' :: value.text)))
  else queryParamObject

/-- The number of a key that is an array index. -/
def arrayIndex (key : Text) : Option Nat :=
  let value := key.foldl (fun value digit => 10 * value + (digit.toNat - '0'.toNat)) 0
  let canonical : Bool := key ≠ [] ∧ key.all Char.isDigit = true ∧ (key = ['0'] ∨ key.head? ≠ some '0')
  if canonical ∧ value < 4294967295 then some value else none

/-- `Object.entries(params)`: array indices in ascending order, then the others as they were set. -/
def objectEntries (params : Params) : List (Text × Value) :=
  (params.entries.filter fun entry => (arrayIndex entry.1).isSome).insertionSort
      (fun first second => (arrayIndex first.1).getD 0 ≤ (arrayIndex second.1).getD 0) ++
    params.entries.filter fun entry => !(arrayIndex entry.1).isSome

def additionalString (key : Text) : Value → Text
  | .array elements => ['&'].intercalate (elements.map fun element => key ++ '=' :: element.text)
  | value => key ++ '=' :: value.text

def getQueryParams (params : Params) : Text :=
  (objectEntries params).foldl (fun paramString entry =>
    paramString ++ (if paramString = [] then '?' else '&') :: additionalString entry.1 entry.2) []

/-- The elements that are set by a value. -/
def Value.elements : Value → List Text
  | .undefined | .null | .scalar (.string []) => []
  | .scalar value => [value.text]
  | .array elements => elements.map Scalar.text

abbrev Call := Text × Value

/-- The object after a sequence of calls. -/
def afterCalls (calls : List Call) : Params :=
  calls.foldl (fun queryParamObject call => setQueryParam queryParamObject call.1 call.2) Table.empty

/-- The pairs that a sequence of calls sets. -/
def setPairs (calls : List Call) : List (Text × Text) := calls.flatMap fun call => call.2.elements.map (call.1, ·)

/-- The pairs that are read from the query are those that were set. -/
def RoundTrips (calls : List Call) : Prop :=
  (FormUrlEncoded.parse (getQueryParams (afterCalls calls))).Perm (setPairs calls)

example : getQueryParams (afterCalls
    [("timestamp".toList, .scalar (.string "gte:1".toList)), ("topic0".toList, .array [.string ['a'], .string ['b']]),
      ("nonce".toList, .scalar (.number .zero)), ("timestamp".toList, .scalar (.string "lt:2".toList))]) =
    "?timestamp=gte:1&timestamp=lt:2&topic0=a&topic0=b&nonce=0".toList := by decide

end HieroRelay.Mirror.Query
