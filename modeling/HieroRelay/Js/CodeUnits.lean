import HieroRelay.Js.Text

/-! The code units of UTF-16, in which JavaScript counts the length of a text, and the functions
that read them one by one. -/

namespace HieroRelay.Js

def unitsOf (char : Char) : List Nat :=
  if char.toNat < 0x10000 then [char.toNat]
  else [0xD800 + (char.toNat - 0x10000) / 0x400, 0xDC00 + (char.toNat - 0x10000) % 0x400]

/-- The values of `charCodeAt`. -/
def codeUnits (text : String) : List Nat := text.toList.flatMap unitsOf

/-- The code units as characters; half of a pair, which no function here tells from another
unknown character, is the character zero. -/
def unitChars (text : String) : List Char := (codeUnits text).map Char.ofNat

/-- `slice(first, last)`; a negative end is counted from the end of the text. -/
def slice (units : List Char) (first : Nat) (last : Int) : List Char :=
  (units.take (if last < 0 then (units.length + last).toNat else last.toNat)).drop first

/-- White space and line ends. -/
def isWhiteSpace (char : Char) : Bool :=
  let unit := char.toNat
  (9 ≤ unit && unit ≤ 13) || (0x2000 ≤ unit && unit ≤ 0x200A) ||
    unit ∈ [0x20, 0xA0, 0x1680, 0x2028, 0x2029, 0x202F, 0x205F, 0x3000, 0xFEFF]

/-- `String.fromCharCode(unit)`, where the unit is taken modulo 2^16. -/
def fromCharCode (unit : Int) : Char := Char.ofNat (unit % 0x10000).toNat

theorem toNat_ofNat_byte {unit : Nat} (small : unit < 256) : (Char.ofNat unit).toNat = unit := by
  rw [Char.ofNat, dif_pos (.inl (by omega))]
  rfl

section Ascii

variable {char : Char} {text : List Char}

theorem unitsOf_of_lt (small : char.toNat < 0x10000) : unitsOf char = [char.toNat] := if_pos small

theorem codeUnits_of_lt (small : ∀ char ∈ text, char.toNat < 0x10000) :
    codeUnits (String.ofList text) = text.map Char.toNat := by
  rw [codeUnits, String.toList_ofList]
  induction text with
  | nil => rfl
  | cons char rest ih =>
    rw [List.flatMap_cons, List.map_cons, unitsOf_of_lt (small char (by simp)),
      ih fun other member => small other (List.mem_cons_of_mem _ member)]
    rfl

theorem unitChars_of_lt (small : ∀ char ∈ text, char.toNat < 0x10000) : unitChars (String.ofList text) = text := by
  rw [unitChars, codeUnits_of_lt small, List.map_map]
  exact List.map_id'' (fun char => Char.ofNat_toNat char) text

/-- Half of a pair is above all the units of a text without pairs. -/
theorem codeUnits_eq_map {text : String} (small : ∀ unit ∈ codeUnits text, unit < 0xD800) :
    codeUnits text = text.toList.map Char.toNat := by
  have plain : ∀ char ∈ text.toList, char.toNat < 0x10000 := by
    intro char member
    by_contra large
    have unit : 0xD800 + (char.toNat - 0x10000) / 0x400 ∈ codeUnits text := by
      refine List.mem_flatMap.mpr ⟨char, member, ?_⟩
      rw [unitsOf, if_neg large]
      exact List.mem_cons_self
    have below := small _ unit
    omega
  have whole := codeUnits_of_lt plain
  rwa [String.ofList_toList] at whole

/-- A text has a code unit for each of its characters, or two. -/
theorem length_le_length_codeUnits (text : String) : text.toList.length ≤ (codeUnits text).length := by
  unfold codeUnits
  induction text.toList with
  | nil => exact Nat.le_refl _
  | cons char rest ih =>
    have some : 1 ≤ (unitsOf char).length := by
      unfold unitsOf
      split <;> simp
    rw [List.flatMap_cons, List.length_append, List.length_cons]
    omega

end Ascii

end HieroRelay.Js
