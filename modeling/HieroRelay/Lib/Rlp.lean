import Mathlib.Data.Nat.Digits.Lemmas

/-! The recursive length prefix of Ethereum: texts of bytes and lists of items, each behind a
header that tells its kind and its length. An item is determined by its encoding, whatever
follows it. -/

namespace HieroRelay.Lib.Rlp

/-- The bytes of a number without a leading zero, with none for zero. -/
def bigEndian (number : Nat) : List UInt8 := ((Nat.digits 256 number).map UInt8.ofNat).reverse

inductive Item where
  | text (bytes : List UInt8)
  | list (items : List Item)

/-- The length in one byte, or the length of the length and the length. -/
def header (offset length : Nat) : List UInt8 :=
  if length < 56 then [UInt8.ofNat (offset + length)]
  else UInt8.ofNat (offset + 55 + (bigEndian length).length) :: bigEndian length

/-- One byte that stands for itself. -/
def isPlain : List UInt8 → Bool
  | [byte] => byte.toNat < 128
  | _ => false

def encodeText (bytes : List UInt8) : List UInt8 := if isPlain bytes then bytes else header 128 bytes.length ++ bytes

mutual

def encode : Item → List UInt8
  | .text bytes => encodeText bytes
  | .list items => header 192 (encodeItems items).length ++ encodeItems items

def encodeItems : List Item → List UInt8
  | [] => []
  | item :: rest => encode item ++ encodeItems rest

end

mutual

/-- A bound on the bytes of an encoding: a header has at most nine. -/
def Item.size : Item → Nat
  | .text bytes => bytes.length + 9
  | .list items => Item.sizes items + 9

def Item.sizes : List Item → Nat
  | [] => 0
  | item :: rest => item.size + Item.sizes rest

end

variable {number other offset offset' length length' : Nat} {rest rest' : List UInt8}

theorem toNat_byte (small : number < 256) : (UInt8.ofNat number).toNat = number := by
  rw [UInt8.toNat_ofNat']
  omega

theorem toNat_bigEndian (number : Nat) : (bigEndian number).reverse.map UInt8.toNat = Nat.digits 256 number := by
  rw [bigEndian, List.reverse_reverse, List.map_map]
  calc (Nat.digits 256 number).map (UInt8.toNat ∘ UInt8.ofNat)
      = (Nat.digits 256 number).map id := by
        apply List.map_congr_left
        intro digit member
        exact toNat_byte (Nat.digits_lt_base (by decide) member)
    _ = Nat.digits 256 number := List.map_id _

private theorem bigEndian_injective (same : bigEndian number = bigEndian other) : number = other := by
  apply (Nat.digits_inj_iff (b := 256)).mp
  rw [← toNat_bigEndian, same, toNat_bigEndian]

theorem length_bigEndian_le (few : number < 2 ^ 64) : (bigEndian number).length ≤ 8 := by
  rw [bigEndian, List.length_reverse, List.length_map, Nat.digits_length_le_iff (by decide)]
  exact few

theorem length_bigEndian_pos (positive : 0 < number) : 0 < (bigEndian number).length := by
  rw [bigEndian, List.length_reverse, List.length_map]
  exact List.length_pos_of_ne_nil (Nat.digits_ne_nil_iff_ne_zero.mpr (Nat.ne_of_gt positive))

/-- Texts are below lists. -/
def IsOffset (offset : Nat) : Prop := offset = 128 ∨ offset = 192

theorem header_first (known : IsOffset offset) (fits : length < 2 ^ 64) :
    ∃ first more, header offset length = first :: more ∧ offset ≤ first.toNat ∧ first.toNat < offset + 64 := by
  unfold IsOffset at known
  unfold header
  split
  · refine ⟨_, _, rfl, ?_⟩
    rw [toNat_byte (by omega)]
    omega
  · have most := length_bigEndian_le fits
    refine ⟨_, _, rfl, ?_⟩
    rw [toNat_byte (by omega)]
    omega

theorem length_header_le (offset : Nat) (fits : length < 2 ^ 64) : (header offset length).length ≤ 9 := by
  unfold header
  split
  · exact Nat.succ_le_succ (Nat.zero_le 8)
  · exact Nat.succ_le_succ (length_bigEndian_le fits)

/-- A header tells its kind and its length, whatever follows. -/
theorem header_append_inj (known : IsOffset offset) (known' : IsOffset offset') (fits : length < 2 ^ 64)
    (fits' : length' < 2 ^ 64) (same : header offset length ++ rest = header offset' length' ++ rest') :
    offset = offset' ∧ length = length' ∧ rest = rest' := by
  have most := length_bigEndian_le fits
  have most' := length_bigEndian_le fits'
  unfold IsOffset at known known'
  have first : ∀ {byte byte' : Nat}, byte < 256 → byte' < 256 → UInt8.ofNat byte = UInt8.ofNat byte' → byte = byte' := by
    intro byte byte' small small' equal
    rw [← toNat_byte small, equal, toNat_byte small']
  unfold header at same
  split at same
  · next short =>
      split at same
      · next short' =>
          have firsts := first (by omega) (by omega) (List.cons.inj same).1
          exact ⟨by omega, by omega, (List.cons.inj same).2⟩
      · next long' =>
          have least' : 0 < (bigEndian length').length := length_bigEndian_pos (by omega)
          have firsts := first (by omega) (by omega) (List.cons.inj same).1
          omega
  · next long =>
      have least : 0 < (bigEndian length).length := length_bigEndian_pos (by omega)
      split at same
      · next short' =>
          have firsts := first (by omega) (by omega) (List.cons.inj same).1
          omega
      · next long' =>
          have least' : 0 < (bigEndian length').length := length_bigEndian_pos (by omega)
          have firsts := first (by omega) (by omega) (List.cons.inj same).1
          obtain ⟨lengths, rests⟩ := List.append_inj (List.cons.inj same).2 (by omega)
          exact ⟨by omega, bigEndian_injective lengths, rests⟩

theorem encodeText_first {bytes : List UInt8} (fits : bytes.length < 2 ^ 64) :
    ∃ first more, encodeText bytes = first :: more ∧ first.toNat < 192 := by
  unfold encodeText
  split
  · next plain =>
      match bytes, plain with
      | [byte], plain => exact ⟨byte, [], rfl, Nat.lt_trans (of_decide_eq_true plain) (by decide)⟩
  · obtain ⟨first, more, same, -, most⟩ := header_first (.inl rfl : IsOffset 128) fits
    exact ⟨first, more ++ bytes, by rw [same]; rfl, most⟩

theorem encode_list_first {items : List Item} (fits : (encodeItems items).length < 2 ^ 64) :
    ∃ first more, encode (.list items) = first :: more ∧ 192 ≤ first.toNat := by
  obtain ⟨first, more, same, least, -⟩ := header_first (.inr rfl : IsOffset 192) fits
  exact ⟨first, more ++ encodeItems items, by rw [encode, same]; rfl, least⟩

private theorem encodeText_append_inj {bytes bytes' : List UInt8} (fits : bytes.length < 2 ^ 64)
    (fits' : bytes'.length < 2 ^ 64)
    (same : encodeText bytes ++ rest = encodeText bytes' ++ rest') : bytes = bytes' ∧ rest = rest' := by
  have differ : ∀ {plain bytes rest rest' : List UInt8}, isPlain plain = true → bytes.length < 2 ^ 64 →
      plain ++ rest ≠ header 128 bytes.length ++ bytes ++ rest' := by
    intro plain bytes rest rest' isByte fits same
    match plain, isByte with
    | [byte], isByte =>
      obtain ⟨first, more, written, least, -⟩ := header_first (.inl rfl : IsOffset 128) fits
      rw [written] at same
      have small : byte.toNat < 128 := of_decide_eq_true isByte
      rw [(List.cons.inj same).1] at small
      omega
  unfold encodeText at same
  split at same
  · next plain =>
      split at same
      · next plain' =>
          match bytes, bytes', plain, plain' with
          | [byte], [byte'], _, _ => exact ⟨by rw [(List.cons.inj same).1], (List.cons.inj same).2⟩
      · exact absurd same (differ plain fits')
  · split at same
    · next plain' => exact absurd same.symm (differ plain' fits)
    · rw [List.append_assoc, List.append_assoc] at same
      obtain ⟨-, lengths, contents⟩ := header_append_inj (.inl rfl) (.inl rfl) fits fits' same
      exact List.append_inj contents lengths

theorem length_le_encodeText (bytes : List UInt8) : bytes.length ≤ (encodeText bytes).length := by
  unfold encodeText
  split
  · exact Nat.le_refl _
  · rw [List.length_append]
    omega

theorem encode_ne_nil (item : Item) (fits : (encode item).length < 2 ^ 64) : encode item ≠ [] := by
  cases item with
  | text bytes =>
    rw [encode] at fits ⊢
    obtain ⟨first, more, same, -⟩ := encodeText_first (Nat.lt_of_le_of_lt (length_le_encodeText bytes) fits)
    rw [same]
    exact List.cons_ne_nil _ _
  | list items =>
    rw [encode, List.length_append] at fits
    obtain ⟨first, more, same, -⟩ := encode_list_first (by omega : (encodeItems items).length < 2 ^ 64)
    rw [same]
    exact List.cons_ne_nil _ _

mutual

/-- An item is determined by its encoding, whatever follows. -/
theorem encode_append_inj : ∀ (item item' : Item) (rest rest' : List UInt8), (encode item).length < 2 ^ 64 →
    (encode item').length < 2 ^ 64 → encode item ++ rest = encode item' ++ rest' → item = item' ∧ rest = rest'
  | .text bytes, .text bytes', rest, rest', fits, fits', same => by
      rw [encode] at fits fits'
      rw [encode, encode] at same
      obtain ⟨rfl, rfl⟩ := encodeText_append_inj (Nat.lt_of_le_of_lt (length_le_encodeText bytes) fits)
        (Nat.lt_of_le_of_lt (length_le_encodeText bytes') fits') same
      exact ⟨rfl, rfl⟩
  | .text bytes, .list items, rest, rest', fits, fits', same => by
      rw [encode] at fits
      rw [encode, List.length_append] at fits'
      obtain ⟨first, more, written, below⟩ := encodeText_first (Nat.lt_of_le_of_lt (length_le_encodeText bytes) fits)
      obtain ⟨first', more', written', above⟩ := encode_list_first (by omega : (encodeItems items).length < 2 ^ 64)
      rw [encode, written, written'] at same
      rw [(List.cons.inj same).1] at below
      omega
  | .list items, .text bytes, rest, rest', fits, fits', same => by
      rw [encode, List.length_append] at fits
      rw [encode] at fits'
      obtain ⟨first, more, written, below⟩ := encodeText_first (Nat.lt_of_le_of_lt (length_le_encodeText bytes) fits')
      obtain ⟨first', more', written', above⟩ := encode_list_first (by omega : (encodeItems items).length < 2 ^ 64)
      rw [written', encode, written] at same
      rw [(List.cons.inj same).1] at above
      omega
  | .list items, .list items', rest, rest', fits, fits', same => by
      rw [encode, List.length_append] at fits fits'
      rw [encode, encode, List.append_assoc, List.append_assoc] at same
      obtain ⟨-, lengths, contents⟩ := header_append_inj (.inr rfl) (.inr rfl) (by omega) (by omega) same
      obtain ⟨payloads, rests⟩ := List.append_inj contents lengths
      exact ⟨by rw [encodeItems_inj items items' (by omega) (by omega) payloads], rests⟩

theorem encodeItems_inj : ∀ items items' : List Item, (encodeItems items).length < 2 ^ 64 →
    (encodeItems items').length < 2 ^ 64 → encodeItems items = encodeItems items' → items = items'
  | [], [], _, _, _ => rfl
  | [], item :: rest, _, fits, same => by
      rw [encodeItems, List.length_append] at fits
      rw [encodeItems, encodeItems] at same
      exact absurd (List.append_eq_nil_iff.mp same.symm).1 (encode_ne_nil item (by omega))
  | item :: rest, [], fits, _, same => by
      rw [encodeItems, List.length_append] at fits
      rw [encodeItems, encodeItems] at same
      exact absurd (List.append_eq_nil_iff.mp same).1 (encode_ne_nil item (by omega))
  | item :: rest, item' :: rest', fits, fits', same => by
      rw [encodeItems, List.length_append] at fits fits'
      rw [encodeItems, encodeItems] at same
      obtain ⟨first, others⟩ := encode_append_inj item item' _ _ (by omega) (by omega) same
      rw [first, encodeItems_inj rest rest' (by omega) (by omega) others]

end

mutual

theorem length_encode_le : ∀ item : Item, item.size < 2 ^ 64 → (encode item).length ≤ item.size
  | .text bytes, fits => by
      rw [Item.size] at fits ⊢
      rw [encode, encodeText]
      split
      · omega
      · have most := length_header_le 128 (by omega : bytes.length < 2 ^ 64)
        rw [List.length_append]
        omega
  | .list items, fits => by
      rw [Item.size] at fits ⊢
      have payload := length_encodeItems_le items (by omega)
      have most := length_header_le 192 (by omega : (encodeItems items).length < 2 ^ 64)
      rw [encode, List.length_append]
      omega

theorem length_encodeItems_le : ∀ items : List Item, Item.sizes items < 2 ^ 64 →
    (encodeItems items).length ≤ Item.sizes items
  | [], _ => Nat.le_refl 0
  | item :: rest, fits => by
      rw [Item.sizes] at fits ⊢
      have first := length_encode_le item (by omega)
      have others := length_encodeItems_le rest (by omega)
      rw [encodeItems, List.length_append]
      omega

end

end HieroRelay.Lib.Rlp
