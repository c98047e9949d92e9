import HieroRelay.Formatting.RevertReasons
import HieroRelay.Hapi.Sdk
import HieroRelay.Lib.FixedWidth
import Mathlib.Data.List.Infix

/-! The readable text inside the data of an error: which texts and messages are decoded to
what they say. -/

namespace HieroRelay.Formatting

open HieroRelay.Js (codeUnits hexValue includesText isHexDigit slice unitChars unitsOf)
open HieroRelay.Blocks
open HieroRelay.Hapi (CONTRACT_REVERT)
open HieroRelay.Lib (fixedDigits length_fixedDigits)

/-! The encoding of `Error(string)`. -/

def utf8 (text : String) : List UInt8 := text.toList.flatMap String.utf8EncodeChar

def byteDigits (bytes : List UInt8) : List Char := bytes.flatMap fun byte => fixedDigits Nat.digitChar 16 2 byte.toNat

def word (number : Nat) : List Char := fixedDigits Nat.digitChar 16 64 number

/-- Zeros up to a whole number of words. -/
def padding (bytes : List UInt8) : List UInt8 := List.replicate ((32 - bytes.length % 32) % 32) 0

/-- The selector, the offset of the text, its length and its bytes; there is none for a text
whose length does not fit into a word. -/
def encodeError (text : String) : Option String :=
  if (utf8 text).length < 2 ^ 256 then
    some ("0x" ++ String.ofList ("08c379a0".toList ++ word 32 ++ word (utf8 text).length ++ byteDigits (utf8 text) ++
      byteDigits (padding (utf8 text))))
  else none

variable {number : Nat} {text message : String} {bytes : List UInt8} {digits : List Char}

theorem all_fixedDigits (width number : Nat) : (fixedDigits Nat.digitChar 16 width number).all isHexDigit = true := by
  induction width generalizing number with
  | zero => rfl
  | succ width ih =>
    rw [fixedDigits, List.all_append, ih]
    simp [isHexDigit_digitChar (Nat.mod_lt number (by decide : 0 < 16))]

theorem hexValue_fixedDigits {width : Nat} (fits : number < 16 ^ width) :
    hexValue (fixedDigits Nat.digitChar 16 width number) = number := by
  induction width generalizing number with
  | zero =>
    rw [Nat.pow_zero, Nat.lt_one_iff] at fits
    rw [fits]
    rfl
  | succ width ih =>
    have shorter : number / 16 < 16 ^ width := Nat.div_lt_of_lt_mul (by rw [Nat.mul_comm, ← Nat.pow_succ]; exact fits)
    rw [fixedDigits, hexValue_append, ih shorter, hexValue_cons, hexDigitValue_digitChar (Nat.mod_lt number (by decide))]
    simpa [hexValue] using Nat.div_add_mod' number 16

private theorem all_byteDigits (bytes : List UInt8) : (byteDigits bytes).all isHexDigit = true := by
  rw [List.all_eq_true]
  intro digit member
  obtain ⟨byte, -, has⟩ := List.mem_flatMap.mp member
  exact List.all_eq_true.mp (all_fixedDigits 2 byte.toNat) digit has

private theorem length_byteDigits (bytes : List UInt8) : (byteDigits bytes).length = 2 * bytes.length := by
  rw [byteDigits, List.length_flatMap]
  simp [Nat.mul_comm]

/-- Each byte becomes the character of its value. -/
theorem pairs_byteDigits (bytes : List UInt8) :
    hexToASCII.pairs (byteDigits bytes) = bytes.map fun byte => Char.ofNat byte.toNat := by
  induction bytes with
  | nil => rfl
  | cons byte rest ih =>
    have digits : fixedDigits Nat.digitChar 16 2 byte.toNat =
      [(byte.toNat / 16 % 16).digitChar, (byte.toNat % 16).digitChar] := rfl
    have hex := all_fixedDigits 2 byte.toNat
    have value : hexValue (fixedDigits Nat.digitChar 16 2 byte.toNat) = byte.toNat := hexValue_fixedDigits byte.toNat_lt
    rw [digits] at hex value
    rw [byteDigits, List.flatMap_cons, digits, List.cons_append, List.cons_append, List.nil_append, pairs_cons hex,
      value, List.map_cons, ← ih]
    rfl

/-- The selector and the two words stand before the bytes. -/
theorem slices_of_encoding {head offset length : List Char} (body rest : List Char) (heads : head.length = 8)
    (offsets : offset.length = 64) (lengths : length.length = 64) :
    slice (head ++ offset ++ length ++ body ++ rest) 72 136 = length ∧
      slice (head ++ offset ++ length ++ body ++ rest) 136 (136 + body.length) = body := by
  have front : (head ++ offset).length = 72 := by rw [List.length_append, heads, offsets]
  have words : (head ++ offset ++ length).length = 136 := by rw [List.length_append, front, lengths]
  have all : (head ++ offset ++ length ++ body).length = 136 + body.length := by rw [List.length_append, words]
  constructor
  · rw [slice, if_neg (by omega)]
    change ((head ++ offset ++ length ++ body ++ rest).take 136).drop 72 = length
    rw [List.append_assoc _ body, List.take_left' words, List.drop_left' front]
  · rw [slice, if_neg (by omega)]
    change ((head ++ offset ++ length ++ body ++ rest).take (136 + body.length)).drop 136 = body
    rw [List.take_left' all, List.drop_left' words]

private theorem includesText_of_startsWith (starts : startsWith message "0x" = true) :
    includesText message "0x" = true :=
  List.any_eq_true.mpr ⟨message.toList, (List.mem_tails _ _).mpr (List.suffix_refl _), starts⟩

private theorem decodeErrorMessage_hexText {length : Int} (hex : digits.all isHexDigit = true)
    (read : parseInt16 (slice digits 72 136) = some length) :
    decodeErrorMessage (some ("0x" ++ String.ofList digits)) =
      String.ofList (hexToASCII.pairs (slice digits 136 (136 + length * 2))) := by
  have present : "0x" ++ String.ofList digits ≠ "" := by
    intro empty
    have chars := congrArg String.toList empty
    rw [toList_hexText] at chars
    exact List.cons_ne_nil _ _ chars
  rw [decodeErrorMessage, if_neg present, if_pos (includesText_of_startsWith (startsWith_hexText digits)),
    strip0x_append, unitChars_hex hex]
  dsimp only
  rw [read]

/-- The bytes of the text one by one. -/
theorem decodeErrorMessage_encoded (encoded : encodeError text = some message) :
    decodeErrorMessage (some message) = String.ofList ((utf8 text).map fun byte => Char.ofNat byte.toNat) := by
  unfold encodeError at encoded
  split at encoded
  · next fits =>
      cases encoded
      have hex : ("08c379a0".toList ++ word 32 ++ word (utf8 text).length ++ byteDigits (utf8 text) ++
          byteDigits (padding (utf8 text))).all isHexDigit = true := by
        simp only [List.all_append, all_byteDigits, word, all_fixedDigits, Bool.and_true]
        decide
      obtain ⟨length, body⟩ := slices_of_encoding (byteDigits (utf8 text)) (byteDigits (padding (utf8 text)))
        (by decide : "08c379a0".toList.length = 8) (length_fixedDigits Nat.digitChar 16 64 32)
        (length_fixedDigits Nat.digitChar 16 64 (utf8 text).length)
      have bytes : (136 + ((utf8 text).length : Int) * 2) = 136 + (byteDigits (utf8 text)).length := by
        rw [length_byteDigits]
        omega
      have read : parseInt16 (fixedDigits Nat.digitChar 16 64 (utf8 text).length) = some ((utf8 text).length : Int) := by
        rw [parseInt16_hex (all_fixedDigits 64 _) (by simp [fixedDigits]), hexValue_fixedDigits fits]
      rw [decodeErrorMessage_hexText hex (by rw [word, word, length]; exact read), bytes, word, word, body,
        pairs_byteDigits]
  · cases encoded

/-! Which texts have one byte a character. -/

def Ascii (text : String) : Prop := ∀ char ∈ text.toList, char.toNat < 128

instance (text : String) : Decidable (Ascii text) :=
  List.decidableBAll (fun char : Char => char.toNat < 128) text.toList

theorem utf8EncodeChar_ascii {char : Char} (small : char.toNat < 128) :
    String.utf8EncodeChar char = [UInt8.ofNat char.toNat] := by
  unfold String.utf8EncodeChar
  exact if_pos (Nat.le_of_lt_succ small)

private theorem two_le_length_utf8EncodeChar {char : Char} (large : ¬ char.toNat < 128) :
    2 ≤ (String.utf8EncodeChar char).length := by
  have more : ¬ char.val.toNat ≤ 0x7f := fun few => large (Nat.lt_succ_of_le few)
  unfold String.utf8EncodeChar
  dsimp only
  rw [if_neg more]
  split_ifs <;> simp

private theorem length_utf8_le (chars : List Char) : chars.length ≤ (chars.flatMap String.utf8EncodeChar).length ∧
    ((chars.flatMap String.utf8EncodeChar).length = chars.length → ∀ char ∈ chars, char.toNat < 128) := by
  induction chars with
  | nil => exact ⟨Nat.le_refl _, fun _ char member => absurd member List.not_mem_nil⟩
  | cons char rest ih =>
    rw [List.flatMap_cons, List.length_append, List.length_cons]
    by_cases small : char.toNat < 128
    · rw [utf8EncodeChar_ascii small, List.length_singleton]
      refine ⟨by omega, fun same => ?_⟩
      rw [List.forall_mem_cons]
      exact ⟨small, ih.2 (by omega)⟩
    · have two := two_le_length_utf8EncodeChar small
      exact ⟨by omega, fun same => absurd same (by omega)⟩

private theorem chars_of_utf8 {chars : List Char} (ascii : ∀ char ∈ chars, char.toNat < 128) :
    (chars.flatMap String.utf8EncodeChar).map (fun byte => Char.ofNat byte.toNat) = chars := by
  induction chars with
  | nil => rfl
  | cons char rest ih =>
    rw [List.forall_mem_cons] at ascii
    have byte : (UInt8.ofNat char.toNat).toNat = char.toNat := by
      rw [UInt8.toNat_ofNat']
      omega
    rw [List.flatMap_cons, List.map_append, ih ascii.2, utf8EncodeChar_ascii ascii.1, List.map_singleton, byte,
      Char.ofNat_toNat, List.singleton_append]

theorem ofList_utf8_iff (text : String) :
    String.ofList ((utf8 text).map fun byte => Char.ofNat byte.toNat) = text ↔ Ascii text := by
  constructor
  · intro same
    apply (length_utf8_le text.toList).2
    have chars := congrArg String.length same
    rwa [String.length_ofList, List.length_map, ← String.length_toList] at chars
  · intro ascii
    rw [utf8, chars_of_utf8 ascii, String.ofList_toList]

/-! A message that does not start with `0x`. -/

private theorem length_slice_le (units : List Char) (first : Nat) (last : Int) :
    (slice units first last).length ≤ units.length - first := by
  rw [slice, List.length_drop, List.length_take]
  omega

private theorem length_codeUnits_le (text : String) : (codeUnits text).length ≤ 2 * text.toList.length := by
  unfold codeUnits
  induction text.toList with
  | nil => exact Nat.le_refl _
  | cons char rest ih =>
    have few : (unitsOf char).length ≤ 2 := by
      unfold unitsOf
      split <;> simp
    rw [List.flatMap_cons, List.length_append, List.length_cons]
    omega

/-- What is decoded is shorter than the message. -/
theorem decodeErrorMessage_ne (bare : startsWith message "0x" = false) (marked : includesText message "0x" = true) :
    decodeErrorMessage (some message) ≠ message := by
  have present : message ≠ "" := by
    rintro rfl
    revert marked
    decide
  have kept : strip0x message = message := by rw [strip0x, bare, if_neg (by decide)]
  rw [decodeErrorMessage, if_neg present, if_pos marked, kept]
  dsimp only
  split
  · next strLen read =>
      intro same
      have lengths := congrArg String.length same
      have units := length_codeUnits_le message
      have few := length_slice_le (unitChars message) 136 (136 + strLen * 2)
      rw [String.length_ofList, length_pairs, ← String.length_toList] at lengths
      rw [unitChars, List.length_map] at few
      rw [unitChars] at lengths
      have chars : 0 < message.toList.length :=
        List.length_pos_of_ne_nil fun none => present (String.toList_eq_nil_iff.mp none)
      omega
  · exact fun same => present same.symm

private theorem decodeErrorMessage_bare_iff (bare : startsWith message "0x" = false) :
    decodeErrorMessage (some message) = message ↔ includesText message "0x" = false := by
  constructor
  · intro same
    cases marked : includesText message "0x" with
    | true => exact absurd same (decodeErrorMessage_ne bare marked)
    | false => rfl
  · intro plain
    by_cases empty : message = ""
    · rw [decodeErrorMessage, if_pos empty, empty]
    · rw [decodeErrorMessage, if_neg empty, if_neg (by rw [plain]; decide)]

/-- The message is decoded to the text, and the error of a revert reports it. -/
structure Decodes (message text : String) : Prop where
  decoded : decodeErrorMessage (some message) = text
  reported : message ≠ "" → ∀ data, (CONTRACT_REVERT (some message) data).message = "execution reverted: " ++ text

theorem decodes_text_iff : Decodes message text ↔ decodeErrorMessage (some message) = text := by
  constructor
  · exact Decodes.decoded
  · intro decoded
    refine ⟨decoded, fun present data => ?_⟩
    rw [CONTRACT_REVERT]
    dsimp only
    rw [Option.getD_some, if_pos present, decoded]
    rfl

/-- An encoded text is decoded exactly where it is of ASCII, and another message is kept exactly
where it has no `0x` inside. -/
theorem errorMessages_iff {plain : String} (encoded : encodeError text = some message)
    (bare : startsWith plain "0x" = false) :
    (Decodes message text ↔ Ascii text) ∧ (Decodes plain plain ↔ includesText plain "0x" = false) := by
  rw [decodes_text_iff, decodes_text_iff, decodeErrorMessage_encoded encoded]
  exact ⟨ofList_utf8_iff text, decodeErrorMessage_bare_iff bare⟩

def setToRevert : String :=
  "0x08c379a0" ++ "0000000000000000000000000000000000000000000000000000000000000020" ++
    "000000000000000000000000000000000000000000000000000000000000000d" ++
    "53657420746f2072657665727400000000000000000000000000000000000000"

private theorem encode_setToRevert : encodeError "Set to revert" = some setToRevert := by decide +kernel

/-- The text is decoded, and the plain message is kept. -/
theorem setToRevert_decoded : Decodes setToRevert "Set to revert" ∧
    Decodes "Some non-hex error message" "Some non-hex error message" := by
  have both := errorMessages_iff encode_setToRevert (by decide : startsWith "Some non-hex error message" "0x" = false)
  exact ⟨both.1.mpr (by decide +kernel), both.2.mpr (by decide +kernel)⟩

/-- An accent becomes two characters, and a message that names an address is lost. -/
theorem messages_lost :
    (¬ ∀ text message, encodeError text = some message → Decodes message text) ∧
      ¬ ∀ message, startsWith message "0x" = false → Decodes message message := by
  constructor
  · intro claim
    obtain ⟨message, encoded⟩ := Option.isSome_iff_exists.mp (by decide +kernel : (encodeError "é").isSome = true)
    have same := (claim _ _ encoded).decoded
    rw [decodeErrorMessage_encoded encoded, ofList_utf8_iff] at same
    exact absurd same (by decide)
  · intro claim
    have same := (claim "owner is 0x1001" (by decide)).decoded
    revert same
    decide

end HieroRelay.Formatting
