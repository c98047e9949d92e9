import HieroRelay.Cache.KeyCodes
import HieroRelay.Js.RegExp

/-! Patterns whose pieces mean the same to Redis and to the expression they are rewritten to: their
texts, and what Redis reads from them. -/

namespace HieroRelay.Cache

open HieroRelay.Js HieroRelay.Redis

inductive ClassItem where
  | one (char : Char)
  | escaped (char : Char)
  | range (first last : Char)
  deriving Repr, DecidableEq

inductive Piece where
  | literal (char : Char)
  | escaped (char : Char)
  | any
  | star
  | oneOf (negated : Bool) (items : List ClassItem)
  deriving Repr, DecidableEq

section Texts

def ClassItem.text : ClassItem → List Char
  | .one char => [char]
  | .escaped char => ['\\', char]
  | .range first last => [first, '-', last]

def itemsText (items : List ClassItem) : List Char := items.flatMap ClassItem.text

def classText (negated : Bool) (items : List ClassItem) : List Char :=
  '[' :: (if negated then ['^'] else []) ++ itemsText items ++ [']']

def Piece.text : Piece → List Char
  | .literal char => [char]
  | .escaped char => ['\\', char]
  | .any => ['?']
  | .star => ['*']
  | .oneOf negated items => classText negated items

def patternText (pieces : List Piece) : List Char := pieces.flatMap Piece.text

/-- What becomes of a piece in the text of the expression. -/
def Piece.regexText : Piece → List Char
  | .any => ['.']
  | .star => ['.', '*']
  | piece => piece.text

def regexText (pieces : List Piece) : List Char := pieces.flatMap Piece.regexText

end Texts

section Plain

/-- Behind a backslash the character stands for itself in an expression, too. -/
def selfEscaped (char : Char) : Bool :=
  char.toNat < 0x10000 && !char.isDigit && char ∉ "bBcdDfnrsStuvwWx".toList

/-- A character that means nothing else in a class, and is no wildcard. -/
def classChar (char : Char) : Bool := char.toNat < 128 && char ∉ [']', '\\', '*', '?']

/-- A single character is not taken for the beginning of a range, and a range is in order. -/
def ClassItem.plain (behind : List Char) : ClassItem → Bool
  | .one char => classChar char && behind.head? ≠ some '-'
  | .escaped char => selfEscaped char && char.toNat < 128 && behind.head? ≠ some '-'
  | .range first last => classChar first && classChar last && first ≤ last

def plainItems : List ClassItem → Bool
  | [] => true
  | item :: rest => item.plain (itemsText rest) && plainItems rest

/-- Whether an opening bracket stands at the end of the item. -/
def ClassItem.opens : ClassItem → Bool
  | .one char => char == '['
  | .range _ last => last == '['
  | .escaped _ => false

/-- The class ends with an exclamation mark behind an opening bracket. -/
def endsBang : (opened : Bool) → List ClassItem → Bool
  | _, [] => false
  | opened, [.one char] => opened && char == '!'
  | _, item :: rest => endsBang item.opens rest

/-- The characters that an expression takes for something else. -/
def literalChar (char : Char) : Bool := char ∉ "*?[\\^$.+()|".toList

def Piece.isWildcard : Piece → Bool
  | .any | .star => true
  | _ => false

/-- The piece means the same to both, in front of further ones. -/
def Piece.plain (behind : List Piece) : Piece → Bool
  | .literal char => literalChar char && !(char == '{' && (RegExp.bounds (Cache.regexText behind)).isSome)
  | .escaped char => selfEscaped char && !(char == '\\' && behind.head?.any Piece.isWildcard)
  | .any | .star => true
  | .oneOf negated items =>
      plainItems items && !endsBang (!negated) items && (negated || (itemsText items).head? ≠ some '^')

def plainPieces : List Piece → Bool
  | [] => true
  | piece :: rest => piece.plain rest && plainPieces rest

end Plain

section Parts

variable {negated : Bool} {items : List ClassItem} {ranges : List (Char × Char)} {after : List Char}

def ClassItem.bounds : ClassItem → Char × Char
  | .one char => (char, char)
  | .escaped char => (char, char)
  | .range first last => (first, last)

/-- What Redis reads from a piece. -/
def Piece.parts : Piece → List GlobPart
  | .literal char | .escaped char => (charBytes char).map .literal
  | .any => [.any]
  | .star => [.star]
  | .oneOf negated items => [.oneOf negated (items.map ClassItem.bounds)]

theorem classChar_iff {char : Char} :
    classChar char = true ↔ char.toNat < 128 ∧ char ≠ ']' ∧ char ≠ '\\' ∧ char ≠ '*' ∧ char ≠ '?' := by
  simp [classChar]

/-- Up to the end of the class the text begins as the items do. -/
theorem head_items_ne {mark : Char} (other : mark ≠ ']') (start : (itemsText items).head? ≠ some mark) :
    (itemsText items ++ ']' :: after).head? ≠ some mark := by
  cases text : itemsText items with
  | nil => exact fun same => other (Option.some.inj same).symm
  | cons first rest =>
    rw [text] at start
    exact start

private theorem globParts_items (plain : plainItems items = true) :
    globParts (some (negated, ranges)) (itemsText items ++ ']' :: after) =
      .oneOf negated (ranges ++ items.map ClassItem.bounds) :: globParts none after := by
  induction items generalizing ranges with
  | nil => simp [itemsText, globParts]
  | cons item rest ih =>
    rw [plainItems, Bool.and_eq_true] at plain
    have later := @ih (ranges ++ [item.bounds]) plain.2
    rw [List.append_assoc, List.singleton_append] at later
    rw [List.map_cons, ← later]
    cases item with
    | one char =>
      simp only [ClassItem.plain, Bool.and_eq_true, classChar_iff, decide_eq_true_eq] at plain
      obtain ⟨⟨⟨-, bracket, backslash, -⟩, behind⟩, -⟩ := plain
      have noDash := @head_items_ne rest after '-' (by decide) behind
      change globParts _ (char :: (itemsText rest ++ ']' :: after)) = _
      rw [globParts]
      · rfl
      · exact fun byte more same _ => backslash same
      · exact bracket
      · exact fun last more same => noDash (by rw [same]; rfl)
    | escaped char => rfl
    | range first last =>
      simp only [ClassItem.plain, Bool.and_eq_true, classChar_iff, decide_eq_true_eq] at plain
      obtain ⟨⟨⟨⟨-, bracket, backslash, -⟩, -⟩, ordered⟩, -⟩ := plain
      change globParts _ (first :: '-' :: last :: (itemsText rest ++ ']' :: after)) = _
      rw [globParts, if_pos ordered]
      · rfl
      · exact backslash
      · exact bracket

theorem classItem_small {item : ClassItem} (plain : item.plain rest = true) : ∀ char ∈ item.text, char.toNat < 128 := by
  cases item with
  | one char =>
    simp only [ClassItem.plain, Bool.and_eq_true, classChar_iff] at plain
    simpa [ClassItem.text] using plain.1.1
  | escaped char =>
    simp only [ClassItem.plain, Bool.and_eq_true, decide_eq_true_eq] at plain
    simpa [ClassItem.text] using plain.1.2
  | range first last =>
    simp only [ClassItem.plain, Bool.and_eq_true, classChar_iff] at plain
    simpa [ClassItem.text] using ⟨plain.1.1.1, plain.1.2.1⟩

private theorem itemsText_small (plain : plainItems items = true) : ∀ char ∈ itemsText items, char.toNat < 128 := by
  induction items with
  | nil => exact fun char member => nomatch member
  | cons item rest ih =>
    rw [plainItems, Bool.and_eq_true] at plain
    intro char member
    rcases List.mem_append.mp (show char ∈ item.text ++ itemsText rest from member) with own | later
    · exact classItem_small plain.1 char own
    · exact ih plain.2 char later

private theorem classText_small (plain : plainItems items = true) :
    ∀ char ∈ classText negated items, char.toNat < 128 := by
  intro char member
  simp only [classText, List.mem_append, List.mem_cons, List.not_mem_nil, or_false] at member
  rcases member with ((rfl | caret) | inside) | rfl
  · decide
  · cases negated with
    | false => cases caret
    | true => exact List.mem_singleton.mp caret ▸ by decide
  · exact itemsText_small plain char inside
  · decide

private theorem flatMap_charBytes_small {text : List Char} (small : ∀ char ∈ text, char.toNat < 128) :
    text.flatMap charBytes = text := by
  induction text with
  | nil => rfl
  | cons char rest ih =>
    rw [List.flatMap_cons, charBytes_small (small char List.mem_cons_self),
      ih fun other member => small other (List.mem_cons_of_mem _ member)]
    rfl

/-- What a byte of a pattern is, unless it stands for itself. -/
def globSpecials : List Char := ['*', '?', '[', '\\']

private theorem charBytes_ordinary {char : Char} (ordinary : char ∉ globSpecials) :
    ∀ byte ∈ charBytes char, byte ∉ globSpecials := by
  intro byte member
  by_cases small : char.toNat < 128
  · rw [charBytes_small small, List.mem_singleton] at member
    exact member ▸ ordinary
  · have large := charBytes_large (Nat.le_of_not_lt small) byte member
    intro special
    have checked : (globSpecials.all fun special => decide (special.toNat < 128)) = true := by decide
    have below := of_decide_eq_true (List.all_eq_true.mp checked byte special)
    omega

theorem globParts_word {word : List Char} (ordinary : ∀ byte ∈ word, byte ∉ globSpecials) :
    globParts none (word ++ after) = word.map .literal ++ globParts none after := by
  induction word with
  | nil => rfl
  | cons byte word ih =>
    have own := ordinary byte List.mem_cons_self
    rw [List.map_cons, List.cons_append, List.cons_append,
      ← ih fun other member => ordinary other (List.mem_cons_of_mem _ member),
      globParts]
    · exact fun same => own (same ▸ by decide)
    · exact fun same => own (same ▸ by decide)
    · exact fun more same _ => own (same ▸ by decide)
    · exact fun same => own (same ▸ by decide)
    · exact fun other more same _ => own (same ▸ by decide)

private theorem globParts_escaped (char : Char) :
    globParts none ('\\' :: (charBytes char ++ after)) = (charBytes char).map .literal ++ globParts none after := by
  by_cases small : char.toNat < 128
  · rw [charBytes_small small]
    rfl
  · obtain ⟨byte, word, own⟩ := List.exists_cons_of_ne_nil (synchronized_charBytes.notEmpty char)
    have ordinary : ∀ other ∈ word, other ∉ globSpecials := by
      intro other member
      have large := charBytes_large (Nat.le_of_not_lt small) other (own ▸ List.mem_cons_of_mem _ member)
      have checked : (globSpecials.all fun special => decide (special.toNat < 128)) = true := by decide
      intro special
      have below := of_decide_eq_true (List.all_eq_true.mp checked other special)
      omega
    rw [own]
    exact congrArg _ (globParts_word ordinary)

private theorem globParts_class (plain : (Piece.oneOf negated items).plain rest = true) :
    globParts none (classText negated items ++ after) =
      .oneOf negated (items.map ClassItem.bounds) :: globParts none after := by
  simp only [Piece.plain, Bool.and_eq_true] at plain
  obtain ⟨⟨inside, -⟩, start⟩ := plain
  have parts := @globParts_items negated items [] after inside
  rw [List.nil_append] at parts
  rw [← parts]
  cases negated with
  | true =>
    change globParts none ('[' :: '^' :: (itemsText items ++ [']'] ++ after)) = _
    rw [globParts, List.append_assoc]
    rfl
  | false =>
    change globParts none ('[' :: (itemsText items ++ [']'] ++ after)) = _
    rw [globParts, List.append_assoc]
    · rfl
    · have noCaret := @head_items_ne items after '^' (by decide) (by simpa using start)
      intro more same
      rw [List.append_assoc] at same
      exact noCaret (congrArg List.head? same)

theorem globParts_patternText {pieces : List Piece} (plain : plainPieces pieces = true) :
    globParts none ((patternText pieces).flatMap charBytes) = pieces.flatMap Piece.parts := by
  induction pieces with
  | nil => rfl
  | cons piece rest ih =>
    rw [plainPieces, Bool.and_eq_true] at plain
    have begins : (patternText (piece :: rest)).flatMap charBytes =
        piece.text.flatMap charBytes ++ (patternText rest).flatMap charBytes := List.flatMap_append
    rw [begins, List.flatMap_cons, ← ih plain.2]
    cases piece with
    | any => rfl
    | star => rfl
    | escaped char =>
      have text : ['\\', char].flatMap charBytes = '\\' :: charBytes char := by
        rw [List.flatMap_cons, charBytes_small (by decide), List.flatMap_cons, List.flatMap_nil, List.append_nil]
        rfl
      change globParts none (['\\', char].flatMap charBytes ++ _) = _
      rw [text]
      exact globParts_escaped char
    | literal char =>
      simp only [Piece.plain, literalChar, Bool.and_eq_true, decide_eq_true_eq] at plain
      have ordinary : char ∉ globSpecials := by
        intro special
        have checked : (globSpecials.all fun special => decide (special ∈ "*?[\\^$.+()|".toList)) = true := by decide
        exact plain.1.1 (of_decide_eq_true (List.all_eq_true.mp checked char special))
      change globParts none ([char].flatMap charBytes ++ _) = _
      rw [List.flatMap_singleton]
      exact globParts_word (charBytes_ordinary ordinary)
    | oneOf negated items =>
      have inside := plain.1
      simp only [Piece.plain, Bool.and_eq_true] at inside
      change globParts none ((classText negated items).flatMap charBytes ++ _) = _
      rw [flatMap_charBytes_small (classText_small inside.1.1), globParts_class plain.1]
      rfl

end Parts

end HieroRelay.Cache
