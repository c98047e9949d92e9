import HieroRelay.Lib.Wildcards

/-! The patterns of the command `KEYS`: what they consist of, and the keys that match them. Redis
compares bytes, which are written as characters here. -/

namespace HieroRelay.Redis

open HieroRelay.Lib

inductive GlobPart where
  | literal (byte : Char)
  | any
  | star
  | oneOf (negated : Bool) (ranges : List (Char × Char))
  deriving Repr, DecidableEq

/-- The parts of a pattern. Inside of a class its negation and its ranges so far are given; a range
may be written in either order, and a class may be left open at the end. -/
def globParts : Option (Bool × List (Char × Char)) → List Char → List GlobPart
  | none, [] => []
  | none, '*' :: rest => .star :: globParts none rest
  | none, '?' :: rest => .any :: globParts none rest
  | none, '[' :: '^' :: rest => globParts (some (true, [])) rest
  | none, '[' :: rest => globParts (some (false, [])) rest
  | none, '\\' :: byte :: rest => .literal byte :: globParts none rest
  | none, byte :: rest => .literal byte :: globParts none rest
  | some (negated, ranges), [] => [.oneOf negated ranges]
  | some (negated, ranges), '\\' :: byte :: rest => globParts (some (negated, ranges ++ [(byte, byte)])) rest
  | some (negated, ranges), ']' :: rest => .oneOf negated ranges :: globParts none rest
  | some (negated, ranges), first :: '-' :: last :: rest =>
      globParts (some (negated, ranges ++ [if first ≤ last then (first, last) else (last, first)])) rest
  | some (negated, ranges), byte :: rest => globParts (some (negated, ranges ++ [(byte, byte)])) rest

/-- What one byte has to be. -/
def GlobPart.has : GlobPart → Char → Bool
  | .literal byte, char => byte == char
  | .any, _ => true
  | .star, _ => false
  | .oneOf negated ranges, char => (ranges.any fun range => range.1 ≤ char && char ≤ range.2) != negated

/-- The whole key is matched. -/
def globMatch : List GlobPart → List Char → Bool
  | [], key => key.isEmpty
  | .star :: parts, key => key.tails.any (globMatch parts)
  | _ :: _, [] => false
  | part :: parts, byte :: rest => part.has byte && globMatch parts rest

/-- The bytes of a character in UTF-8. -/
def charBytes (char : Char) : List Char := (String.utf8EncodeChar char).map fun byte => Char.ofNat byte.toNat

def bytes (text : String) : List Char := text.toList.flatMap charBytes

/-- `KEYS pattern` -/
def matchesPattern (pattern key : String) : Bool := globMatch (globParts none (bytes pattern)) (bytes key)

example : matchesPattern "h[^a-c]l*\\*" "hello*" = true := by decide

def GlobPart.step : GlobPart → Step Char
  | .star => .run
  | part => .one part.has

theorem steps_literals (word : List Char) : (word.map GlobPart.literal).map GlobPart.step = wordSteps word := by
  rw [List.map_map]
  rfl

theorem globMatch_eq (parts : List GlobPart) (key : List Char) :
    globMatch parts key = matchSteps (parts.map GlobPart.step) key := by
  induction parts generalizing key with
  | nil => rfl
  | cons part parts ih =>
    cases part with
    | star =>
      change key.tails.any (globMatch parts) = key.tails.any (matchSteps (parts.map GlobPart.step))
      rw [funext ih]
    | _ =>
      cases key with
      | nil => rfl
      | cons byte rest => exact congrArg _ (ih rest)

end HieroRelay.Redis
