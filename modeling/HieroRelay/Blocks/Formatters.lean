import HieroRelay.Filters.CommonService
import HieroRelay.Js.CodeUnits

/-! The formatters that the transactions and receipts of a block go through. -/

namespace HieroRelay.Blocks

open HieroRelay.Filters (HexNumber numberTo0x toHash32)
open HieroRelay.Js (codeUnits fromCharCode includesText isWhiteSpace roundToDouble slice unitChars)

/-- The number as the text that is sent, without leading zeros. -/
def hexText (number : HexNumber) : String := "0x" ++ String.ofList (Nat.toDigits 16 number.value)

def substring (text : String) (first last : Nat) : String :=
  String.ofList ((text.toList.take last).drop first)

theorem substring_zero (text : String)
    (last : Nat) : substring text 0 last = String.ofList (text.toList.take last) := by
  simp [substring]

def startsWith (text start : String) : Bool := start.toList.isPrefixOf text.toList

def strip0x (input : String) : String :=
  if startsWith input "0x" then String.ofList (input.toList.drop 2) else input

theorem strip0x_append (digits : String) : strip0x ("0x" ++ digits) = digits := by
  simp [strip0x, startsWith, List.isPrefixOf]

def prepend0x (input : String) : String := if startsWith input "0x" then input else "0x" ++ input

/-- The value of a hexadecimal digit. -/
def hexDigit? (digit : Char) : Option Nat :=
  if '0' ≤ digit ∧ digit ≤ '9' then some (digit.toNat - '0'.toNat)
  else if 'a' ≤ digit ∧ digit ≤ 'f' then some (digit.toNat - 'a'.toNat + 10)
  else if 'A' ≤ digit ∧ digit ≤ 'F' then some (digit.toNat - 'A'.toNat + 10)
  else none

/-- The value of the leading hexadecimal digits, with nothing where there is none. -/
def leadingHex : List Char → Option Nat → Option Nat
  | [], value => value
  | digit :: rest, value =>
      match hexDigit? digit with
      | some next => leadingHex rest (some (value.getD 0 * 16 + next))
      | none => value

/-- `parseInt(text, 16)` of an unsigned text, with nothing for `NaN`. -/
def parseHex (text : String) : Option Nat :=
  let digits := text.toList
  leadingHex (if digits.take 2 = ['0', 'x'] ∨ digits.take 2 = ['0', 'X'] then digits.drop 2 else digits) none

/-- A number of more than 1024 bits is infinite. -/
def trimPrecedingZeros (input : String) : String :=
  match parseHex input with
  | some value =>
      if (roundToDouble value).log2 < 1024 then String.ofList (Nat.toDigits 16 (roundToDouble value)) else "Infinity"
  | none => "NaN"

def stripLeadingZeroForSignatures (signature : String) : String :=
  let remove0x := strip0x signature
  "0x" ++ (if startsWith remove0x "0" then String.ofList (remove0x.toList.drop 1) else remove0x)

def nullableNumberTo0x (input : Option Nat) : Option HexNumber := input.map numberTo0x

def nanOrNumberTo0x (input : Option Nat) : HexNumber := numberTo0x (input.getD 0)

/-- Negative numbers in two's complement of 64 bits. -/
def nanOrNumberInt64To0x (input : Option Int) : HexNumber :=
  numberTo0x (if input.getD 0 < 0 then ((input.getD 0 + 18446744073709551616) % 18446744073709551616).toNat
    else (input.getD 0).toNat)

def isHex (value : String) : Bool :=
  startsWith value "0x" && value.toList.length > 2 && (value.toList.drop 2).all fun digit => (hexDigit? digit).isSome

/-- `parseInt(text, 16)`, with nothing for `NaN`: white space and a sign may come first. -/
def parseInt16 (text : List Char) : Option Int :=
  match text.dropWhile isWhiteSpace with
  | '-' :: digits => (parseHex (String.ofList digits)).map fun value : Nat => -(value : Int)
  | '+' :: digits => (parseHex (String.ofList digits)).map fun value : Nat => (value : Int)
  | digits => (parseHex (String.ofList digits)).map fun value : Nat => (value : Int)

/-- Two code units a character; a pair that is no number gives the character zero. -/
def hexToASCII (hex : String) : String := String.ofList (pairs (unitChars hex))
where
  pairs : List Char → List Char
    | first :: second :: rest => fromCharCode ((parseInt16 [first, second]).getD 0) :: pairs rest
    | [first] => [fromCharCode ((parseInt16 [first]).getD 0)]
    | [] => []

def ASCIIToHex (ascii : String) : String := String.ofList ((codeUnits ascii).flatMap (Nat.toDigits 16))

/-- The readable text inside the data of an error. A length that is rounded when it is parsed
ends behind every text. -/
def decodeErrorMessage : Option String → String
  | none => ""
  | some message =>
      if message = "" then ""
      else if includesText message "0x" then
        let data := unitChars (strip0x message)
        match parseInt16 (slice data 72 136) with
        | some strLen => String.ofList (hexToASCII.pairs (slice data 136 (136 + strLen * 2)))
        | none => ""
      else message

/-- `value || default`: an empty text counts as missing. -/
def orDefault (value : Option String) (default : String) : String :=
  match value with
  | some text => if text = "" then default else text
  | none => default

def TINYBAR_TO_WEIBAR_COEF : Nat := 10000000000

def TOTAL_SUPPLY_TINYBARS : Nat := 5000000000000000000

/-- Nothing where the value, as a double, is more than the total supply: the source throws an
error. A negative value is passed on. -/
def tinybarsToWeibars : Option Int64 → Option (Option Int)
  | none => some none
  | some value =>
      if value.toInt < 0 then some (some value.toInt)
      else if roundToDouble value.toInt.toNat > TOTAL_SUPPLY_TINYBARS then none
      else some (some (roundToDouble (roundToDouble value.toInt.toNat * TINYBAR_TO_WEIBAR_COEF)))

end HieroRelay.Blocks
