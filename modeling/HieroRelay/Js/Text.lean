import HieroRelay.Js.Value
import Mathlib.Algebra.Group.Nat.Defs

/-! Texts that JavaScript reads and writes: hexadecimal numbers and JSON. -/

namespace HieroRelay.Js

/-- `[0-9A-Fa-f]` -/
def isHexDigit (char : Char) : Bool :=
  char.isDigit || ('a' ≤ char && char ≤ 'f') || ('A' ≤ char && char ≤ 'F')

/-- The digits of a text that matches `^0[xX][a-fA-F0-9]*$`. -/
def hexDigits (text : String) : Option (List Char) :=
  match text.toList with
  | '0' :: mark :: digits =>
      if (mark == 'x' || mark == 'X') && digits.all isHexDigit then some digits else none
  | _ => none

def hexDigitValue (char : Char) : Nat :=
  if char.isDigit then char.toNat - '0'.toNat
  else if 'a' ≤ char then char.toNat - 'a'.toNat + 10
  else char.toNat - 'A'.toNat + 10

def hexValue (digits : List Char) : Nat :=
  digits.foldl (fun value digit => 16 * value + hexDigitValue digit) 0

def MAX_SAFE_INTEGER : Nat := 2 ^ 53 - 1

/-- The nearest number with 53 significant bits, the even one of two. -/
def roundToDouble (value : Nat) : Nat :=
  if value < 2 ^ 53 then value
  else
    let unit := 2 ^ (Nat.log2 value - 52)
    let quotient := value / unit
    let rest := value % unit
    if 2 * rest < unit || (2 * rest == unit && quotient % 2 == 0) then quotient * unit
    else (quotient + 1) * unit

def escapeChar (char : Char) : List Char :=
  if char == '"' then ['\\', '"']
  else if char == '\\' then ['\\', '\\']
  else if char == '\n' then ['\\', 'n']
  else if char == '\r' then ['\\', 'r']
  else if char == '\t' then ['\\', 't']
  else if char.toNat == 8 then ['\\', 'b']
  else if char.toNat == 12 then ['\\', 'f']
  else if char.toNat < 32 then
    ['\\', 'u', '0', '0', Nat.digitChar (char.toNat / 16), Nat.digitChar (char.toNat % 16)]
  else [char]

def quote (text : String) : String :=
  String.ofList (['"'] ++ text.toList.flatMap escapeChar ++ ['"'])

mutual

/-- `JSON.stringify` -/
def stringify (numberToString : Rat → String) : Json → String
  | .null => "null"
  | .bool value => if value then "true" else "false"
  | .num value => numberToString value
  | .str value => quote value
  | .arr items => "[" ++ ",".intercalate (stringifyItems numberToString items) ++ "]"
  | .obj fields => "\x7b" ++ ",".intercalate (stringifyFields numberToString fields) ++ "\x7d"

def stringifyItems (numberToString : Rat → String) : List Json → List String
  | [] => []
  | item :: rest => stringify numberToString item :: stringifyItems numberToString rest

def stringifyFields (numberToString : Rat → String) : List (String × Json) → List String
  | [] => []
  | (name, value) :: rest =>
      (quote name ++ ":" ++ stringify numberToString value) :: stringifyFields numberToString rest

end

end HieroRelay.Js
