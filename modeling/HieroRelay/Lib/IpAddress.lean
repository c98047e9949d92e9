import Mathlib.Tactic.IntervalCases

/-! The texts of the addresses of both versions of the Internet Protocol. -/

namespace HieroRelay.Lib

def hexChars : List Char := "0123456789abcdefABCDEF".toList

structure IPv4Address where
  first : UInt8
  second : UInt8
  third : UInt8
  fourth : UInt8

def IPv4Address.text (address : IPv4Address) : List Char :=
  ['.'].intercalate ([address.first, address.second, address.third, address.fourth].map fun octet =>
    Nat.toDigits 10 octet.toNat)

/-- Up to four digits for sixteen bits. -/
structure HexGroup where
  digits : List Char
  notEmpty : digits ≠ []
  short : digits.length ≤ 4
  hex : ∀ digit ∈ digits, digit ∈ hexChars

/-- The groups before the double colon and those behind it, if there is one; the last two groups may
be written as an address of version four. The double colon stands for one group at least. -/
structure IPv6Address where
  left : List HexGroup
  right : Option (List HexGroup)
  embedded : Option IPv4Address
  whole : right = none → left.length + 2 * embedded.toList.length = 8
  shortened : ∀ groups ∈ right, left.length + groups.length + 2 * embedded.toList.length ≤ 7

/-- Pieces with colons between them. -/
def joinColons (pieces : List (List Char)) : List Char := [':'].intercalate pieces

def IPv6Address.text (address : IPv6Address) : List Char :=
  let last := address.embedded.toList.map IPv4Address.text
  match address.right with
  | none => joinColons (address.left.map HexGroup.digits ++ last)
  | some groups =>
      joinColons (address.left.map HexGroup.digits) ++ [':', ':'] ++ joinColons (groups.map HexGroup.digits ++ last)

inductive IpAddress where
  | v4 (address : IPv4Address)
  | v6 (address : IPv6Address)

def IpAddress.text : IpAddress → List Char
  | .v4 address => address.text
  | .v6 address => address.text

/-- The characters of addresses of both versions. -/
def addressChars : List Char := hexChars ++ [':', '.']

section Joined

variable {separator char : Char} {piece : List Char} {pieces : List (List Char)}

theorem mem_of_mem_intercalate (member : char ∈ [separator].intercalate pieces) :
    char = separator ∨ ∃ piece ∈ pieces, char ∈ piece := by
  induction pieces with
  | nil => cases member
  | cons piece rest ih =>
    cases rest with
    | nil => exact .inr ⟨piece, List.mem_cons_self, by rwa [List.intercalate_singleton] at member⟩
    | cons next rest =>
      rw [List.intercalate_cons_cons, List.mem_append, List.mem_append, List.mem_singleton] at member
      rcases member with (inside | same) | behind
      · exact .inr ⟨piece, List.mem_cons_self, inside⟩
      · exact .inl same
      · obtain same | ⟨other, found, inside⟩ := ih behind
        · exact .inl same
        · exact .inr ⟨other, List.mem_cons_of_mem _ found, inside⟩

private theorem length_intercalate_cons_le : ([separator].intercalate (piece :: pieces)).length ≤
    piece.length + 1 + ([separator].intercalate pieces).length := by
  cases pieces with
  | nil =>
    rw [List.intercalate_singleton]
    omega
  | cons next rest =>
    simp only [List.intercalate_cons_cons, List.length_append, List.length_singleton]
    omega

end Joined

private theorem octet_chars {octet : Nat} {char : Char} (member : char ∈ Nat.toDigits 10 octet) : char ∈ hexChars := by
  have digit := Nat.isDigit_of_mem_toDigits (by decide) (by decide) member
  have least : 48 ≤ char.toNat := (Char.isDigit_iff_toNat.mp digit).1
  have greatest : char.toNat ≤ 57 := (Char.isDigit_iff_toNat.mp digit).2
  rw [← Char.ofNat_toNat char]
  generalize char.toNat = number at least greatest
  interval_cases number <;> decide

theorem IPv4Address.text_chars (address : IPv4Address) {char : Char} (member : char ∈ address.text) :
    char ∈ hexChars ∨ char = '.' := by
  obtain same | ⟨piece, found, inside⟩ := mem_of_mem_intercalate member
  · exact .inr same
  · obtain ⟨octet, -, rfl⟩ := List.mem_map.mp found
    exact .inl (octet_chars inside)

theorem IPv4Address.length_text_le (address : IPv4Address) : address.text.length ≤ 15 := by
  have three : ∀ octet : UInt8, (Nat.toDigits 10 octet.toNat).length ≤ 3 := by
    intro octet
    have below := octet.toNat_lt
    exact (Nat.length_toDigits_le_iff (by decide) (by decide)).mpr (by omega)
  have first := three address.first
  have second := three address.second
  have third := three address.third
  have fourth := three address.fourth
  simp only [IPv4Address.text, List.map_cons, List.map_nil, List.intercalate_cons_cons, List.intercalate_singleton,
    List.length_append, List.length_singleton]
  omega

theorem IPv4Address.text_ne_nil (address : IPv4Address) : address.text ≠ [] := by
  simp [IPv4Address.text, List.intercalate_cons_cons]

theorem length_joinColons_le (groups : List HexGroup) (embedded : Option IPv4Address) :
    (joinColons (groups.map HexGroup.digits ++ embedded.toList.map IPv4Address.text)).length ≤
      5 * groups.length + 15 * embedded.toList.length := by
  induction groups with
  | nil =>
    cases embedded with
    | none => exact Nat.le_refl _
    | some address => simpa [joinColons] using address.length_text_le
  | cons group rest ih =>
    have step : (joinColons (group.digits :: (rest.map HexGroup.digits ++
        embedded.toList.map IPv4Address.text))).length ≤ _ := length_intercalate_cons_le
    have short := group.short
    rw [joinColons] at ih
    simp only [List.map_cons, List.cons_append, List.length_cons] at *
    omega

theorem joinColons_chars {groups : List HexGroup} {embedded : Option IPv4Address} {char : Char}
    (member : char ∈ joinColons (groups.map HexGroup.digits ++ embedded.toList.map IPv4Address.text)) :
    char ∈ addressChars := by
  obtain rfl | ⟨piece, found, inside⟩ := mem_of_mem_intercalate member
  · decide
  · rcases List.mem_append.mp found with inGroup | inAddress
    · obtain ⟨group, -, rfl⟩ := List.mem_map.mp inGroup
      exact List.mem_append_left _ (group.hex _ inside)
    · obtain ⟨address, -, rfl⟩ := List.mem_map.mp inAddress
      obtain digit | rfl := address.text_chars inside
      · exact List.mem_append_left _ digit
      · decide

theorem IPv6Address.colon_mem_text (address : IPv6Address) : ':' ∈ address.text := by
  obtain ⟨left, right, embedded, whole, shortened⟩ := address
  cases right with
  | some groups => simp [IPv6Address.text]
  | none =>
    have eight := whole rfl
    have few : embedded.toList.length ≤ 1 := Option.length_toList_le
    match left with
    | first :: second :: rest => simp [IPv6Address.text, joinColons, List.intercalate_cons_cons]
    | [_] | [] =>
      simp only [List.length_cons, List.length_nil] at eight
      omega

theorem IpAddress.text_chars (address : IpAddress) {char : Char} (member : char ∈ address.text) :
    char ∈ addressChars := by
  cases address with
  | v4 address =>
    obtain digit | rfl := address.text_chars member
    · exact List.mem_append_left _ digit
    · decide
  | v6 address =>
    obtain ⟨left, right, embedded, whole, shortened⟩ := address
    cases right with
    | none => exact joinColons_chars member
    | some groups =>
      rcases List.mem_append.mp member with before | behind
      · rcases List.mem_append.mp before with inLeft | colon
        · exact @joinColons_chars left none _ (by simpa using inLeft)
        · obtain rfl : char = ':' := by simpa using colon
          decide
      · exact joinColons_chars behind

theorem IpAddress.length_text_le (address : IpAddress) : address.text.length ≤ 45 := by
  cases address with
  | v4 address => exact Nat.le_trans address.length_text_le (by decide)
  | v6 address =>
    obtain ⟨left, right, embedded, whole, shortened⟩ := address
    cases right with
    | none =>
      have eight := whole rfl
      have few : embedded.toList.length ≤ 1 := Option.length_toList_le
      exact Nat.le_trans (length_joinColons_le left embedded) (by omega)
    | some groups =>
      have seven := shortened groups rfl
      have inLeft := length_joinColons_le left none
      have behind := length_joinColons_le groups embedded
      have few : embedded.toList.length ≤ 1 := Option.length_toList_le
      simp only [IpAddress.text, IPv6Address.text, List.length_append, Option.toList_none, List.map_nil,
        List.append_nil, List.length_nil, List.length_cons] at *
      omega

theorem IpAddress.text_ne_nil (address : IpAddress) : address.text ≠ [] := by
  cases address with
  | v4 address => exact address.text_ne_nil
  | v6 address => exact List.ne_nil_of_mem address.colon_mem_text

/-- Exactly the addresses of version six have a colon. -/
theorem IPv4Address.colon_not_mem_text (address : IPv4Address) : ':' ∉ address.text := by
  intro colon
  obtain digit | same := address.text_chars colon
  · exact absurd digit (by decide)
  · exact absurd same (by decide)

end HieroRelay.Lib
