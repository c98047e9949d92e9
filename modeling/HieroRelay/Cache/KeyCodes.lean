import HieroRelay.Js.CodeUnits
import HieroRelay.Lib.Wildcards
import HieroRelay.Redis.Glob

/-! The two codes of a key: the units that an expression reads, and the bytes that Redis compares. In
both the first symbol of a character shows where it begins. -/

namespace HieroRelay.Cache

open HieroRelay.Js HieroRelay.Redis HieroRelay.Lib

variable {char : Char}

theorem toNat_lt_max (char : Char) : char.toNat < 0xD800 ∨ 0xE000 ≤ char.toNat ∧ char.toNat < 0x110000 := by
  have valid : char.toNat < 0xD800 ∨ 0xDFFF < char.toNat ∧ char.toNat < 0x110000 := char.valid
  omega

section Units

theorem unitsOf_eq (char : Char) : char.toNat < 0x10000 ∧ unitsOf char = [char.toNat] ∨
    0x10000 ≤ char.toNat ∧
      unitsOf char = [0xD800 + (char.toNat - 0x10000) / 0x400, 0xDC00 + (char.toNat - 0x10000) % 0x400] := by
  by_cases small : char.toNat < 0x10000
  · exact .inl ⟨small, if_pos small⟩
  · exact .inr ⟨Nat.le_of_not_lt small, if_neg small⟩

theorem unitsOf_large (large : 128 ≤ char.toNat) : ∀ unit ∈ unitsOf char, 128 ≤ unit := by
  intro unit member
  rcases unitsOf_eq char with ⟨-, units⟩ | ⟨-, units⟩
  · rw [units, List.mem_singleton] at member
    exact member ▸ large
  · rw [units, List.mem_cons, List.mem_singleton] at member
    omega

theorem synchronized_unitsOf : Synchronized unitsOf where
  notEmpty := by
    intro char
    rcases unitsOf_eq char with ⟨-, units⟩ | ⟨-, units⟩ <;> rw [units] <;> exact List.cons_ne_nil _ _
  first := by
    intro char other unit member same
    have range := toNat_lt_max char
    rcases unitsOf_eq other with ⟨-, units⟩ | ⟨-, units⟩
    · rw [units] at member
      cases member
    · rw [units, List.tail_cons, List.mem_singleton] at member
      rcases unitsOf_eq char with ⟨-, own⟩ | ⟨-, own⟩ <;> rw [own] at same <;>
        have head := Option.some.inj same <;> omega
  unique := by
    intro char other before after same
    have range := toNat_lt_max char
    have rangeToo := toNat_lt_max other
    refine Char.toNat_inj.mp ?_
    rcases unitsOf_eq char with ⟨small, units⟩ | ⟨large, units⟩ <;>
      rcases unitsOf_eq other with ⟨smallToo, own⟩ | ⟨largeToo, own⟩ <;>
      rw [units, own] at same <;> simp only [List.cons_append, List.nil_append, List.cons.injEq] at same <;> omega

end Units

section Bytes

/-- The bytes of the character with a value. -/
def byteValues (value : Nat) : List Nat :=
  if value ≤ 0x7F then [value]
  else if value ≤ 0x7FF then [value / 64 % 0x20 + 0xC0, value % 0x40 + 0x80]
  else if value ≤ 0xFFFF then [value / 4096 % 0x10 + 0xE0, value / 64 % 0x40 + 0x80, value % 0x40 + 0x80]
  else [value / 262144 % 0x08 + 0xF0, value / 4096 % 0x40 + 0x80, value / 64 % 0x40 + 0x80, value % 0x40 + 0x80]

theorem map_toNat_charBytes (char : Char) : (charBytes char).map Char.toNat = byteValues char.toNat := by
  have byte : ∀ {value : Nat}, value < 256 → (Char.ofNat (UInt8.ofNat value).toNat).toNat = value := by
    intro value small
    have same : (UInt8.ofNat value).toNat = value := by
      rw [UInt8.toNat_ofNat']
      exact Nat.mod_eq_of_lt small
    rw [same, toNat_ofNat_byte small]
  have value : char.val.toNat = char.toNat := rfl
  rw [charBytes, String.utf8EncodeChar, byteValues]
  simp only [value]
  split_ifs <;> simp only [List.map_cons, List.map_nil] <;> simp (disch := omega) only [byte]

theorem byteValues_head (value : Nat) : ∃ first more, byteValues value = first :: more ∧
    (first < 0x80 ∨ 0xC0 ≤ first) ∧ ∀ byte ∈ more, 0x80 ≤ byte ∧ byte < 0xC0 := by
  rw [byteValues]
  split_ifs
  · exact ⟨_, _, rfl, by omega, by simp⟩
  · exact ⟨_, _, rfl, by omega, by simp; omega⟩
  · exact ⟨_, _, rfl, by omega, by simp; omega⟩
  · exact ⟨_, _, rfl, by omega, by simp; omega⟩

private theorem byteValues_unique {value other : Nat} {before after : List Nat} (small : value < 0x110000)
    (smallToo : other < 0x110000) (same : byteValues value ++ before = byteValues other ++ after) : value = other := by
  simp only [byteValues] at same
  split_ifs at same <;> simp only [List.cons_append, List.nil_append, List.cons.injEq] at same <;> omega

theorem charBytes_small (small : char.toNat < 128) : charBytes char = [char] := by
  have values : (charBytes char).map Char.toNat = [char].map Char.toNat := by
    rw [map_toNat_charBytes, byteValues, if_pos (by omega)]
    rfl
  exact List.map_injective_iff.mpr (fun _ _ => Char.toNat_inj.mp) values

theorem charBytes_large (large : 128 ≤ char.toNat) : ∀ byte ∈ charBytes char, 128 ≤ byte.toNat := by
  intro byte member
  have inside : byte.toNat ∈ byteValues char.toNat := map_toNat_charBytes char ▸ List.mem_map_of_mem member
  rw [byteValues] at inside
  split_ifs at inside <;> simp only [List.mem_cons, List.not_mem_nil, or_false] at inside <;> omega

theorem synchronized_charBytes : Synchronized charBytes where
  notEmpty := by
    intro char none
    obtain ⟨first, more, values, -⟩ := byteValues_head char.toNat
    rw [← map_toNat_charBytes, none] at values
    cases values
  first := by
    intro char other byte member same
    obtain ⟨first, more, values, range, -⟩ := byteValues_head char.toNat
    obtain ⟨firstToo, moreToo, valuesToo, -, inside⟩ := byteValues_head other.toNat
    rw [← map_toNat_charBytes] at values valuesToo
    have begins : some first = some byte.toNat := by
      rw [← List.head?_cons (l := more), ← values, List.head?_map, same]
      rfl
    have listed : byte.toNat ∈ moreToo := by
      have tail : (charBytes other).tail.map Char.toNat = moreToo := by
        rw [List.map_tail, valuesToo]
        rfl
      exact tail ▸ List.mem_map_of_mem member
    have below := inside _ listed
    have equal := Option.some.inj begins
    omega
  unique := by
    intro char other before after same
    have range := toNat_lt_max char
    have rangeToo := toNat_lt_max other
    have values := congrArg (List.map Char.toNat) same
    rw [List.map_append, List.map_append, map_toNat_charBytes, map_toNat_charBytes] at values
    exact Char.toNat_inj.mp (byteValues_unique (by omega) (by omega) values)

end Bytes

end HieroRelay.Cache
