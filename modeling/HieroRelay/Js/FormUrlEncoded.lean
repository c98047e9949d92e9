import HieroRelay.Js.Text
import Mathlib.Algebra.Order.Ring.Int
import Mathlib.Data.List.TakeWhile

/-! The names and values of a query, as `URLSearchParams` reads them from its text: sequences between
`&`, each cut at its first `=` and decoded. -/

namespace HieroRelay.Js.FormUrlEncoded

/-- A character as it stands, or the byte of a percent escape. -/
inductive Piece where
  | char (char : Char)
  | byte (byte : Nat)
  deriving DecidableEq, Repr

def Piece.isByte : Piece → Bool
  | .char _ => false
  | .byte _ => true

/-- `+` stands for a space. -/
def plusToSpace (char : Char) : Char := if char = '+' then ' ' else char

def pieces : List Char → List Piece
  | '%' :: high :: low :: rest =>
      if isHexDigit high && isHexDigit low then .byte (16 * hexDigitValue high + hexDigitValue low) :: pieces rest
      else .char '%' :: pieces (high :: low :: rest)
  | char :: rest => .char (plusToSpace char) :: pieces rest
  | [] => []

/-- The number of percent escapes in a text. -/
def escapes (text : List Char) : Nat := (pieces text).countP Piece.isByte

/-- A character of several bytes of which some are still to come, the next one within bounds. -/
structure Pending where
  needed : Nat
  value : Nat
  lower : Nat
  upper : Nat
  deriving DecidableEq, Repr

def replacement : Char := '\uFFFD'

/-- A byte at the beginning of a character. -/
def lead (byte : Nat) : List Char × Option Pending :=
  if byte < 0x80 then ([Char.ofNat byte], none)
  else if 0xC2 ≤ byte ∧ byte ≤ 0xDF then ([], some ⟨1, byte - 0xC0, 0x80, 0xBF⟩)
  else if 0xE0 ≤ byte ∧ byte ≤ 0xEF then
    ([], some ⟨2, byte - 0xE0, if byte = 0xE0 then 0xA0 else 0x80, if byte = 0xED then 0x9F else 0xBF⟩)
  else if 0xF0 ≤ byte ∧ byte ≤ 0xF4 then
    ([], some ⟨3, byte - 0xF0, if byte = 0xF0 then 0x90 else 0x80, if byte = 0xF4 then 0x8F else 0xBF⟩)
  else ([replacement], none)

/-- A byte that does not continue the character before it begins another one. -/
def byteStep : Option Pending → Nat → List Char × Option Pending
  | none, byte => lead byte
  | some pending, byte =>
      if pending.lower ≤ byte ∧ byte ≤ pending.upper then
        let value := 64 * pending.value + (byte - 0x80)
        if pending.needed = 1 then ([Char.ofNat value], none) else ([], some ⟨pending.needed - 1, value, 0x80, 0xBF⟩)
      else (replacement :: (lead byte).1, (lead byte).2)

/-- A character that is cut off. -/
def flush : Option Pending → List Char
  | none => []
  | some _ => [replacement]

def utf8Decode : Option Pending → List Piece → List Char
  | pending, [] => flush pending
  | pending, .char char :: rest => flush pending ++ char :: utf8Decode none rest
  | pending, .byte byte :: rest => (byteStep pending byte).1 ++ utf8Decode (byteStep pending byte).2 rest

def decode (text : List Char) : List Char := utf8Decode none (pieces text)

example : decode "%e2%82%ac+%E2%zz%41".toList = "€ \uFFFD%zzA".toList := by decide

/-- The name and the value of a sequence. -/
def readPair (sequence : List Char) : List Char × List Char :=
  (decode (sequence.takeWhile (· != '=')), decode (sequence.dropWhile (· != '=')).tail)

def readPairs (text : List Char) : List (List Char × List Char) :=
  ((text.splitOn '&').filter (· ≠ [])).map readPair

/-- `new URLSearchParams(text)` -/
def parse (text : List Char) : List (List Char × List Char) :=
  match text with
  | '?' :: rest => readPairs rest
  | text => readPairs text

example : parse "?a=1&&b=x=y&c".toList =
    [("a".toList, "1".toList), ("b".toList, "x=y".toList), ("c".toList, [])] := by decide

section Pieces

variable {char : Char} {text before rest : List Char}

theorem pieces_cons (plain : char ≠ '%') : pieces (char :: rest) = .char (plusToSpace char) :: pieces rest := by
  rw [pieces]
  intro high low other percent
  exact absurd percent plain

private theorem escapes_cons (plain : char ≠ '%') : escapes (char :: rest) = escapes rest := by
  rw [escapes, pieces_cons plain, List.countP_cons_of_neg Bool.false_ne_true]
  rfl

/-- An escape does not reach beyond a character that is no digit. -/
theorem pieces_append_cons (plain : char ≠ '%') (noDigit : isHexDigit char = false) (before rest : List Char) :
    pieces (before ++ char :: rest) = pieces before ++ .char (plusToSpace char) :: pieces rest := by
  induction before using pieces.induct with
  | case1 high low others hex ih =>
    rw [List.cons_append, List.cons_append, List.cons_append, pieces, if_pos hex, ih, pieces, if_pos hex]
    rfl
  | case2 high low others hex ih =>
    rw [List.cons_append, List.cons_append, List.cons_append, pieces, if_neg hex, pieces, if_neg hex,
      ← List.cons_append, ← List.cons_append, ih]
    rfl
  | case3 first others short ih =>
    have alone : pieces (first :: others) = .char (plusToSpace first) :: pieces others := by
      rw [pieces]
      exact short
    rw [alone, List.cons_append, List.cons_append, ← ih]
    by_cases percent : first = '%'
    · subst percent
      cases others with
      | nil =>
        cases rest with
        | nil => rfl
        | cons second rest =>
          rw [List.nil_append, pieces, noDigit, Bool.false_and, if_neg Bool.false_ne_true]
          rfl
      | cons second others =>
        cases others with
        | nil =>
          rw [List.singleton_append, pieces, noDigit, Bool.and_false, if_neg Bool.false_ne_true]
          rfl
        | cons third others => exact absurd rfl (short second third others rfl)
    · exact pieces_cons percent
  | case4 => exact pieces_cons plain

theorem escapes_append_cons (plain : char ≠ '%') (noDigit : isHexDigit char = false) (before rest : List Char) :
    escapes (before ++ char :: rest) = escapes before + escapes rest := by
  rw [escapes, pieces_append_cons plain noDigit, List.countP_append, List.countP_cons_of_neg Bool.false_ne_true]
  rfl

theorem escapes_append (plain : '%' ∉ before) : escapes (before ++ rest) = escapes rest := by
  induction before with
  | nil => rfl
  | cons char before ih =>
    rw [List.mem_cons, not_or] at plain
    rw [List.cons_append, escapes_cons (Ne.symm plain.1), ih plain.2]

theorem escapes_of_not_mem (plain : '%' ∉ text) : escapes text = 0 := by
  have all := @escapes_append text [] plain
  rwa [List.append_nil] at all

/-- Without an escape only `+` is read as another character. -/
theorem decode_of_escapes_eq_zero (none : escapes text = 0) : decode text = text.map plusToSpace := by
  rw [decode]
  induction text using pieces.induct with
  | case1 high low others hex ih =>
    rw [escapes, pieces, if_pos hex, List.countP_cons_of_pos rfl] at none
    cases none
  | case2 high low others hex ih =>
    rw [escapes, pieces, if_neg hex, List.countP_cons_of_neg (by decide)] at none
    rw [pieces, if_neg hex, utf8Decode, ih none]
    rfl
  | case3 first others short ih =>
    have alone : pieces (first :: others) = .char (plusToSpace first) :: pieces others := by
      rw [pieces]
      exact short
    rw [escapes, alone, List.countP_cons_of_neg Bool.false_ne_true] at none
    rw [alone, utf8Decode, ih none]
    rfl
  | case4 => rfl

end Pieces

/-- The characters from a `%` on, up to the next comma or `&`: escapes are among them, and none is
written anew where there are none. -/
def weight : Bool → List Char → Nat
  | _, [] => 0
  | begun, char :: rest =>
      if char = ',' ∨ char = '&' then weight false rest
      else if begun = true ∨ char = '%' then weight true rest + 1
      else weight false rest

section Weight

variable {char : Char} {text before rest : List Char} {begun target source : Bool} {pending : Option Pending}

theorem weight_mono (later : target = true → source = true) (text : List Char) :
    weight target text ≤ weight source text := by
  induction text generalizing target source with
  | nil => exact Nat.le_refl _
  | cons char rest ih =>
    rw [weight, weight]
    by_cases separator : char = ',' ∨ char = '&'
    · rw [if_pos separator, if_pos separator]
    · rw [if_neg separator, if_neg separator]
      by_cases first : target = true ∨ char = '%'
      · rw [if_pos first, if_pos (first.imp_left later)]
      · rw [if_neg first]
        split
        · exact Nat.le_succ_of_le (ih Bool.noConfusion)
        · exact Nat.le_refl _

theorem weight_append_separator (separator : char = ',' ∨ char = '&') (before rest : List Char) :
    weight begun (before ++ char :: rest) = weight begun before + weight false rest := by
  induction before generalizing begun with
  | nil => rw [List.nil_append, weight, weight, if_pos separator, Nat.zero_add]
  | cons first before ih =>
    rw [List.cons_append, weight, weight]
    split_ifs
    · exact ih
    · rw [ih, Nat.add_right_comm]
    · exact ih

/-- The parts of a text do not weigh more than the whole. -/
theorem weight_add_weight_le (later : target = true → source = true) (before rest : List Char) :
    weight target before + weight false rest ≤ weight source (before ++ rest) := by
  induction before generalizing target source with
  | nil =>
    rw [weight, Nat.zero_add]
    exact weight_mono Bool.noConfusion rest
  | cons char before ih =>
    rw [List.cons_append, weight, weight]
    by_cases separator : char = ',' ∨ char = '&'
    · rw [if_pos separator, if_pos separator]
      exact ih id
    · rw [if_neg separator, if_neg separator]
      by_cases first : target = true ∨ char = '%'
      · rw [if_pos first, if_pos (first.imp_left later), Nat.add_right_comm]
        exact Nat.succ_le_succ (ih id)
      · rw [if_neg first]
        split
        · exact Nat.le_succ_of_le (ih Bool.noConfusion)
        · exact ih id

theorem weight_append (plain : '%' ∉ before) (rest : List Char) :
    weight false (before ++ rest) = weight false rest := by
  induction before with
  | nil => rfl
  | cons char before ih =>
    rw [List.mem_cons, not_or] at plain
    rw [List.cons_append, weight, ih plain.2]
    split
    · rfl
    · rw [if_neg (by simp [Ne.symm plain.1])]

private theorem weight_append_le (before rest : List Char) :
    weight begun (before ++ rest) ≤ before.length + weight true rest := by
  induction before generalizing begun with
  | nil => exact (weight_mono (fun _ => rfl) rest).trans_eq (Nat.zero_add _).symm
  | cons char before ih =>
    have inner := @ih true
    have outer := @ih false
    rw [List.cons_append, weight, List.length_cons]
    split_ifs <;> omega

private theorem isHexDigit_separator (separator : char = ',' ∨ char = '&') : isHexDigit char = false := by
  obtain rfl | rfl := separator <;> decide

theorem weight_cons_hex (hex : isHexDigit char = true) (rest : List Char) :
    weight true (char :: rest) = weight true rest + 1 := by
  rw [weight, if_neg, if_pos (.inl rfl)]
  intro separator
  rw [isHexDigit_separator separator] at hex
  cases hex

/-- A character that is still to be written. -/
def owed (pending : Option Pending) : Nat := if pending.isSome then 1 else 0

private theorem length_lead (byte : Nat) : (lead byte).1.length + owed (lead byte).2 = 1 := by
  unfold lead
  split_ifs <;> rfl

private theorem length_byteStep_le (pending : Option Pending) (byte : Nat) :
    (byteStep pending byte).1.length + owed (byteStep pending byte).2 ≤ 1 + owed pending := by
  have begins := length_lead byte
  cases pending with
  | none => exact begins.le
  | some pending =>
    rw [byteStep]
    split_ifs
    · exact Nat.le_succ 1
    · exact Nat.le_succ 1
    · calc (lead byte).1.length + 1 + owed (lead byte).2 = 1 + 1 := by rw [Nat.add_right_comm, begins]
      _ ≤ 1 + owed (some pending) := Nat.le_refl _

theorem weight_flush_append_le (pending : Option Pending) (rest : List Char) :
    weight begun (flush pending ++ rest) ≤ owed pending + weight begun rest := by
  cases pending with
  | none => exact (Nat.zero_add _).ge
  | some pending =>
    rw [flush, List.singleton_append, weight, if_neg (by decide)]
    split
    · next counted =>
      cases begun with
      | true => exact (Nat.add_comm _ _).le
      | false => exact absurd counted (by decide)
    · exact (weight_mono Bool.noConfusion rest).trans (Nat.le_add_left _ _)

private theorem weight_plusToSpace_cons (begun : Bool) (char : Char) (rest : List Char) :
    weight begun (plusToSpace char :: rest) = weight begun (char :: rest) := by
  rw [plusToSpace]
  split
  · next plus =>
    subst plus
    simp [weight]
  · rfl

private theorem weight_cons_le {decoded : List Char} {count : Nat} (later : target = true → source = true)
    (bound : ∀ {target source : Bool}, (target = true → source = true) →
      weight target decoded + count ≤ weight source rest) (char : Char) :
    weight target (char :: decoded) + count ≤ weight source (char :: rest) := by
  rw [weight, weight]
  by_cases separator : char = ',' ∨ char = '&'
  · rw [if_pos separator, if_pos separator]
    exact bound id
  · rw [if_neg separator, if_neg separator]
    by_cases first : target = true ∨ char = '%'
    · rw [if_pos first, if_pos (first.imp_left later), Nat.add_right_comm]
      exact Nat.succ_le_succ (bound id)
    · rw [if_neg first]
      split
      · exact Nat.le_succ_of_le (bound Bool.noConfusion)
      · exact bound id

theorem weight_char_le (alone : pieces (char :: rest) = .char (plusToSpace char) :: pieces rest)
    (pending : Option Pending) (later : target = true → source = true)
    (bound : ∀ {target source : Bool}, (target = true → source = true) →
      weight target (utf8Decode none (pieces rest)) + escapes rest ≤ weight source rest + owed none) :
    weight target (utf8Decode pending (pieces (char :: rest))) + escapes (char :: rest) ≤
      weight source (char :: rest) + owed pending := by
  have counted : escapes (char :: rest) = escapes rest := by
    rw [escapes, alone, List.countP_cons_of_neg Bool.false_ne_true]
    rfl
  have flushed := @weight_flush_append_le target pending (plusToSpace char :: utf8Decode none (pieces rest))
  have kept := weight_cons_le later bound char
  rw [weight_plusToSpace_cons] at flushed
  rw [counted, alone, utf8Decode]
  omega

private theorem weight_utf8Decode_le (text : List Char) (pending : Option Pending)
    (later : target = true → source = true) :
    weight target (utf8Decode pending (pieces text)) + escapes text ≤ weight source text + owed pending := by
  induction text using pieces.induct generalizing target source pending with
  | case1 high low rest hex ih =>
    rw [Bool.and_eq_true] at hex
    have counted : escapes ('%' :: high :: low :: rest) = escapes rest + 1 := by
      rw [escapes, pieces, if_pos (by rw [hex.1, hex.2]; rfl), List.countP_cons_of_pos rfl]
      rfl
    have weighed : weight source ('%' :: high :: low :: rest) = weight true rest + 3 := by
      rw [weight, if_neg (by decide), if_pos (.inr rfl), weight_cons_hex hex.1, weight_cons_hex hex.2]
    have written := @weight_append_le target (byteStep pending (16 * hexDigitValue high + hexDigitValue low)).1
      (utf8Decode (byteStep pending (16 * hexDigitValue high + hexDigitValue low)).2 (pieces rest))
    have later := @ih true true (byteStep pending (16 * hexDigitValue high + hexDigitValue low)).2 id
    have short := length_byteStep_le pending (16 * hexDigitValue high + hexDigitValue low)
    rw [counted, weighed, pieces, if_pos (by rw [hex.1, hex.2]; rfl), utf8Decode]
    omega
  | case2 high low rest hex ih =>
    have alone : pieces ('%' :: high :: low :: rest) = .char '%' :: pieces (high :: low :: rest) := by
      rw [pieces, if_neg hex]
    exact weight_char_le alone pending later fun later => ih none later
  | case3 first rest short ih =>
    have alone : pieces (first :: rest) = .char (plusToSpace first) :: pieces rest := by
      rw [pieces]
      exact short
    exact weight_char_le alone pending later fun later => ih none later
  | case4 =>
    have flushed := @weight_flush_append_le target pending []
    rw [List.append_nil, weight, Nat.add_zero] at flushed
    rw [pieces, utf8Decode, weight, Nat.zero_add]
    exact flushed

/-- What is decoded weighs less than the text, by one for each escape at least. -/
theorem weight_decode_le (text : List Char) : weight false (decode text) + escapes text ≤ weight false text :=
  weight_utf8Decode_le text none id

end Weight

section Reading

variable {name value text : List Char}

@[simp] theorem readPairs_nil : readPairs [] = [] := rfl

theorem readPairs_append (before rest : List Char) :
    readPairs (before ++ '&' :: rest) = readPairs before ++ readPairs rest := by
  rw [readPairs, List.splitOn_append_cons_self, List.filter_append, List.map_append]
  rfl

theorem readPairs_of_not_mem (whole : '&' ∉ text) (filled : text ≠ []) : readPairs text = [readPair text] := by
  rw [readPairs, List.splitOn_eq_singleton whole, List.filter_cons_of_pos (by simpa using filled)]
  rfl

theorem readPair_append (plain : '=' ∉ name) (value : List Char) :
    readPair (name ++ '=' :: value) = (decode name, decode value) := by
  have inside : ∀ char ∈ name, (char != '=') = true := by
    intro char member
    rw [bne_iff_ne]
    rintro rfl
    exact plain member
  rw [readPair, List.takeWhile_append_of_pos inside, List.dropWhile_append_of_pos inside,
    List.takeWhile_cons_of_neg (by decide), List.dropWhile_cons_of_neg (by decide), List.append_nil, List.tail_cons]

/-- A text is a sequence, or a sequence in front of another text. -/
theorem sequences_induction {Holds : List Char → Prop} (one : ∀ text, '&' ∉ text → Holds text)
    (more : ∀ before rest, '&' ∉ before → Holds rest → Holds (before ++ '&' :: rest)) (text : List Char) :
    Holds text := by
  induction size : text.length using Nat.strong_induction_on generalizing text with
  | h size_ ih =>
    by_cases ends : '&' ∈ text
    · obtain ⟨before, rest, rfl, first⟩ := List.eq_append_cons_of_mem ends
      refine more before rest first (ih rest.length ?_ rest rfl)
      rw [← size, List.length_append, List.length_cons]
      omega
    · exact one text ends

def valuesWeight (pairs : List (List Char × List Char)) : Nat := (pairs.map fun pair => weight false pair.2).sum

theorem valuesWeight_append (front back : List (List Char × List Char)) :
    valuesWeight (front ++ back) = valuesWeight front + valuesWeight back := by
  rw [valuesWeight, List.map_append, List.sum_append]
  rfl

/-- A text without `=` is a name, otherwise it is the name, `=` and the value. -/
theorem name_value_cases (text : List Char) :
    ('=' ∉ text ∧ readPair text = (decode text, [])) ∨
      ∃ name value, text = name ++ '=' :: value ∧ readPair text = (decode name, decode value) := by
  by_cases equals : '=' ∈ text
  · obtain ⟨name, value, rfl, first⟩ := List.eq_append_cons_of_mem equals
    exact .inr ⟨name, value, rfl, readPair_append first value⟩
  · have inside : ∀ char ∈ text, (char != '=') = true := by
      intro char member
      rw [bne_iff_ne]
      rintro rfl
      exact equals member
    refine .inl ⟨equals, ?_⟩
    rw [readPair, List.takeWhile_eq_self_iff.mpr inside, List.dropWhile_eq_nil_iff.mpr inside]
    rfl

private theorem weight_readPair_le (text : List Char) : weight false
    (readPair text).2 + escapes text ≤ weight false text := by
  obtain ⟨-, read⟩ | ⟨name, value, rfl, read⟩ := name_value_cases text
  · rw [read, weight, Nat.zero_add]
    exact (Nat.le_add_left _ _).trans (weight_decode_le text)
  · have named := weight_decode_le name
    have valued := weight_decode_le value
    have parts := @weight_add_weight_le false false id name ('=' :: value)
    have cut : weight false ('=' :: value) = weight false value := by
      rw [weight, if_neg (by decide), if_neg (by decide)]
    rw [read, escapes_append_cons (by decide) (by decide)]
    calc weight false (decode value) + (escapes name + escapes value)
        ≤ weight false name + weight false ('=' :: value) := by omega
      _ ≤ weight false (name ++ '=' :: value) := parts

theorem valuesWeight_readPairs_le (text : List Char) :
    valuesWeight (readPairs text) + escapes text ≤ weight false text := by
  have single : ∀ text, '&' ∉ text → valuesWeight (readPairs text) + escapes text ≤ weight false text := by
    intro text whole
    by_cases empty : text = []
    · subst empty
      exact Nat.le_refl _
    · rw [readPairs_of_not_mem whole empty]
      exact weight_readPair_le text
  induction text using sequences_induction with
  | one text whole => exact single text whole
  | more before rest whole ih =>
    rw [readPairs_append, valuesWeight_append, escapes_append_cons (by decide) (by decide),
      weight_append_separator (.inr rfl)]
    have first := single before whole
    omega

theorem plusToSpace_ne (char : Char) : plusToSpace char ≠ '+' ∧ (plusToSpace char = '&' → char = '&') := by
  rw [plusToSpace]
  split
  · exact ⟨by decide, fun same => absurd same (by decide)⟩
  · next other => exact ⟨other, id⟩

/-- Without escapes no value is read that has `&` or `+` in it. -/
theorem plain_of_mem_readPairs (unescaped : escapes text = 0) :
    ∀ pair ∈ readPairs text, '&' ∉ pair.2 ∧ '+' ∉ pair.2 := by
  have decoded : ∀ value, '&' ∉ value → escapes value = 0 → '&' ∉ decode value ∧ '+' ∉ decode value := by
    intro value whole plain
    rw [decode_of_escapes_eq_zero plain]
    constructor
    · intro member
      obtain ⟨char, inside, same⟩ := List.mem_map.mp member
      exact whole ((plusToSpace_ne char).2 same ▸ inside)
    · intro member
      obtain ⟨char, -, same⟩ := List.mem_map.mp member
      exact (plusToSpace_ne char).1 same
  have single : ∀ text, '&' ∉ text → escapes text = 0 →
      ∀ pair ∈ readPairs text, '&' ∉ pair.2 ∧ '+' ∉ pair.2 := by
    intro text whole plain pair member
    by_cases empty : text = []
    · subst empty
      cases member
    · rw [readPairs_of_not_mem whole empty, List.mem_singleton] at member
      subst member
      obtain ⟨-, read⟩ | ⟨name, value, rfl, read⟩ := name_value_cases text
      · rw [read]
        exact ⟨List.not_mem_nil, List.not_mem_nil⟩
      · rw [escapes_append_cons (by decide) (by decide)] at plain
        rw [read]
        exact decoded value (fun inside => whole (by simp [inside])) (Nat.add_eq_zero_iff.mp plain).2
  induction text using sequences_induction with
  | one text whole => exact single text whole unescaped
  | more before rest whole ih =>
    rw [escapes_append_cons (by decide) (by decide), Nat.add_eq_zero_iff] at unescaped
    intro pair member
    rw [readPairs_append, List.mem_append] at member
    exact member.elim (single before whole unescaped.1 pair) (ih unescaped.2 pair)

end Reading

end HieroRelay.Js.FormUrlEncoded
