import HieroRelay.Cache.KeyPatterns
import HieroRelay.Cache.KeyRewriting

/-! What a pattern of plain pieces is rewritten to, and what the expression compiles to. -/

namespace HieroRelay.Cache

open HieroRelay.Js

section Rewriting

variable {negated opened : Bool} {items : List ClassItem} {char : Char} {after : List Char}

/-- The text with all the steps done. -/
abbrev rewritten (text : List Char) : List Char := stage ['*', '?', '['] specialChars text

theorem rewritten_char (loose : Loose char after) (star : char ≠ '*') (any : char ≠ '?') :
    rewritten (char :: after) = char :: rewritten after := by
  rw [rewritten, stage_loose loose]
  simp [wildcard, star, any]

/-- A backslash in front of a text leaves it as it is, unless it hides a wildcard. -/
theorem rewritten_backslash (noWildcard : ∀ next ∈ after.head?, next ≠ '*' ∧ next ≠ '?')
    (noBang : ¬ ['[', '!', ']'] <+: after) : rewritten ('\\' :: after) = '\\' :: rewritten after := by
  cases after with
  | nil => rfl
  | cons next rest =>
    obtain ⟨star, any⟩ := noWildcard next rfl
    by_cases listed : next ∈ specialChars
    · have loose : Loose next rest := ⟨fun same => absurd (same ▸ listed) (by decide), noBang⟩
      rw [rewritten, stage_escaped listed, escape, if_pos listed]
      exact congrArg _ (rewritten_char loose star any).symm
    · exact rewritten_char ⟨fun _ _ same => Option.some.inj same ▸ listed, by simp⟩ (by decide) (by decide)

/-- An escaped character stays as it is. -/
theorem rewritten_escaped (noWildcard : char = '\\' → ∀ next ∈ after.head?, next ≠ '*' ∧ next ≠ '?')
    (noBang : char = '\\' → ¬ ['[', '!', ']'] <+: after) :
    rewritten ('\\' :: char :: after) = '\\' :: char :: rewritten after := by
  by_cases listed : char ∈ specialChars
  · rw [rewritten, stage_escaped listed, escape, if_pos listed]
    rfl
  · have other : ∀ mark ∈ specialChars, char ≠ mark := fun mark member same => listed (same ▸ member)
    have first : Loose '\\' (char :: after) := ⟨fun _ _ same => Option.some.inj same ▸ listed, by simp⟩
    rw [rewritten_char first (by decide) (by decide)]
    by_cases backslash : char = '\\'
    · rw [backslash, rewritten_backslash (noWildcard backslash) (noBang backslash)]
    · have loose : Loose char after := by
        refine ⟨fun same => absurd same backslash, fun starts => ?_⟩
        exact other '[' (by decide) (List.cons_prefix_cons.mp starts).1.symm
      rw [rewritten_char loose (other '*' (by decide)) (other '?' (by decide))]

/-- An item begins neither with the end of the class nor with a wildcard. -/
theorem head_itemsText {item : ClassItem} (plain : plainItems (item :: items) = true) :
    ∃ first more, itemsText (item :: items) = first :: more ∧ first ≠ ']' ∧ first ≠ '*' ∧ first ≠ '?' := by
  rw [plainItems, Bool.and_eq_true] at plain
  cases item with
  | one char =>
    simp only [ClassItem.plain, Bool.and_eq_true, classChar_iff] at plain
    obtain ⟨⟨⟨-, bracket, -, wildcards⟩, -⟩, -⟩ := plain
    exact ⟨char, itemsText items, rfl, bracket, wildcards⟩
  | escaped char => exact ⟨'\\', char :: itemsText items, rfl, by decide, by decide, by decide⟩
  | range first last =>
    simp only [ClassItem.plain, Bool.and_eq_true, classChar_iff] at plain
    obtain ⟨⟨⟨⟨-, bracket, -, wildcards⟩, -⟩, -⟩, -⟩ := plain
    exact ⟨first, '-' :: last :: itemsText items, rfl, bracket, wildcards⟩

private theorem head_behind (plain : plainItems items = true) :
    ∀ next ∈ (itemsText items ++ ']' :: after).head?, next ≠ '*' ∧ next ≠ '?' := by
  intro next found
  cases items with
  | nil =>
    obtain rfl : ']' = next := Option.some.inj found
    decide
  | cons item rest =>
    obtain ⟨first, more, text, -, wildcards⟩ := head_itemsText plain
    rw [text] at found
    obtain rfl : first = next := Option.some.inj found
    exact wildcards

/-- Only one form of a class goes on with an exclamation mark and its end. -/
theorem items_of_bang (plain : plainItems items = true) (starts : ['!', ']'] <+: itemsText items ++ ']' :: after) :
    items = [.one '!'] := by
  cases items with
  | nil => exact absurd (List.cons_prefix_cons.mp starts).1 (by decide)
  | cons item rest =>
    cases item with
    | escaped char => exact absurd (List.cons_prefix_cons.mp starts).1 (by decide)
    | range first last =>
      exact absurd (List.cons_prefix_cons.mp (List.cons_prefix_cons.mp starts).2).1 (by decide)
    | one char =>
      obtain ⟨rfl, behind⟩ := List.cons_prefix_cons.mp starts
      cases rest with
      | nil => rfl
      | cons item rest =>
        rw [plainItems, Bool.and_eq_true] at plain
        obtain ⟨first, more, text, bracket, -⟩ := head_itemsText plain.2
        change [']'] <+: itemsText (item :: rest) ++ ']' :: after at behind
        rw [text] at behind
        exact absurd (List.cons_prefix_cons.mp behind).1.symm bracket

theorem endsBang_tail {item : ClassItem} (noBang : endsBang opened (item :: items) = false) :
    endsBang item.opens items = false := by
  cases items with
  | nil => rfl
  | cons next rest =>
    cases item <;> exact noBang

theorem not_bang_items (plain : plainItems items = true) (noBang : endsBang true items = false) :
    ¬ ['!', ']'] <+: itemsText items ++ ']' :: after := by
  intro starts
  rw [items_of_bang plain starts] at noBang
  cases noBang

private theorem not_bracket_bang (plain : plainItems items = true) (noBang : endsBang opened items = false) :
    ¬ ['[', '!', ']'] <+: itemsText items ++ ']' :: after := by
  intro starts
  cases items with
  | nil => exact absurd (List.cons_prefix_cons.mp starts).1 (by decide)
  | cons item rest =>
    cases item with
    | escaped char => exact absurd (List.cons_prefix_cons.mp starts).1 (by decide)
    | range first last =>
      exact absurd (List.cons_prefix_cons.mp (List.cons_prefix_cons.mp starts).2).1 (by decide)
    | one char =>
      obtain ⟨rfl, behind⟩ := List.cons_prefix_cons.mp starts
      rw [plainItems, Bool.and_eq_true] at plain
      exact not_bang_items plain.2 (endsBang_tail noBang) behind

/-- The items of a class stay as they are. -/
theorem rewritten_items (plain : plainItems items = true) (noBang : endsBang opened items = false) :
    rewritten (itemsText items ++ ']' :: after) = itemsText items ++ ']' :: rewritten after := by
  induction items generalizing opened with
  | nil => exact rewritten_char ⟨by simp, by simp⟩ (by decide) (by decide)
  | cons item rest ih =>
    have parts := plain
    rw [plainItems, Bool.and_eq_true] at parts
    have noBangRest := endsBang_tail noBang
    have later := ih parts.2 noBangRest
    cases item with
    | one char =>
      simp only [ClassItem.plain, Bool.and_eq_true, classChar_iff] at parts
      obtain ⟨⟨⟨-, -, backslash, star, any⟩, -⟩, plainRest⟩ := parts
      have loose : Loose char (itemsText rest ++ ']' :: after) := by
        refine ⟨fun same => absurd same backslash, fun starts => ?_⟩
        obtain ⟨rfl, behind⟩ := List.cons_prefix_cons.mp starts
        exact not_bang_items plainRest noBangRest behind
      exact (rewritten_char loose star any).trans (congrArg _ later)
    | escaped char =>
      have kept := @rewritten_escaped char (itemsText rest ++ ']' :: after) (fun _ => head_behind parts.2)
        (fun _ => not_bracket_bang parts.2 noBangRest)
      exact kept.trans (congrArg _ (congrArg _ later))
    | range first last =>
      simp only [ClassItem.plain, Bool.and_eq_true, classChar_iff] at parts
      obtain ⟨⟨⟨⟨-, -, backslash, star, any⟩, -, -, backslashToo, starToo, anyToo⟩, -⟩, plainRest⟩ := parts
      have loose : Loose last (itemsText rest ++ ']' :: after) := by
        refine ⟨fun same => absurd same backslashToo, fun starts => ?_⟩
        obtain ⟨rfl, behind⟩ := List.cons_prefix_cons.mp starts
        exact not_bang_items plainRest noBangRest behind
      have begins : Loose first ('-' :: last :: (itemsText rest ++ ']' :: after)) := by
        refine ⟨fun same => absurd same backslash, fun starts => ?_⟩
        exact absurd (List.cons_prefix_cons.mp (List.cons_prefix_cons.mp starts).2).1 (by decide)
      change rewritten (first :: '-' :: last :: (itemsText rest ++ ']' :: after)) = _
      rw [rewritten_char begins star any, rewritten_char ⟨by simp, by simp⟩ (by decide) (by decide),
        rewritten_char loose starToo anyToo, later]
      rfl

theorem classText_append (negated : Bool) (items : List ClassItem) (after : List Char) :
    classText negated items ++ after = '[' :: ((if negated then ['^'] else []) ++ (itemsText items ++ ']' :: after)) := by
  simp [classText]

/-- A class of the pattern is not the one of an exclamation mark. -/
theorem not_bang_class (plain : (Piece.oneOf negated items).plain pieces = true) :
    ¬ ['!', ']'] <+: (if negated then ['^'] else []) ++ (itemsText items ++ ']' :: after) := by
  simp only [Piece.plain, Bool.and_eq_true, Bool.not_eq_true'] at plain
  obtain ⟨⟨inside, noBang⟩, -⟩ := plain
  cases negated with
  | true => exact fun starts => absurd (List.cons_prefix_cons.mp starts).1 (by decide)
  | false => exact not_bang_items inside noBang

private theorem not_bang_pieces {pieces : List Piece} (plain : plainPieces pieces = true) :
    ¬ ['[', '!', ']'] <+: patternText pieces := by
  intro starts
  cases pieces with
  | nil => exact absurd starts (by simp [patternText])
  | cons piece rest =>
    rw [plainPieces, Bool.and_eq_true] at plain
    cases piece with
    | any => exact absurd (List.cons_prefix_cons.mp starts).1 (by decide)
    | star => exact absurd (List.cons_prefix_cons.mp starts).1 (by decide)
    | escaped char => exact absurd (List.cons_prefix_cons.mp starts).1 (by decide)
    | literal char =>
      obtain ⟨rfl, -⟩ := List.cons_prefix_cons.mp starts
      exact absurd plain.1 (by simp [Piece.plain, literalChar])
    | oneOf negated items =>
      change _ <+: classText negated items ++ patternText rest at starts
      rw [classText_append] at starts
      exact not_bang_class plain.1 (List.cons_prefix_cons.mp starts).2

/-- A pattern that does not begin with a wildcard. -/
theorem head_patternText {pieces : List Piece} (plain : plainPieces pieces = true)
    (noWildcard : pieces.head?.any Piece.isWildcard = false) :
    ∀ next ∈ (patternText pieces).head?, next ≠ '*' ∧ next ≠ '?' := by
  intro next found
  cases pieces with
  | nil => cases found
  | cons piece rest =>
    rw [plainPieces, Bool.and_eq_true] at plain
    cases piece with
    | any => cases noWildcard
    | star => cases noWildcard
    | escaped char => exact Option.some.inj found ▸ by decide
    | oneOf negated items => exact Option.some.inj found ▸ by decide
    | literal char =>
      obtain rfl : char = next := Option.some.inj found
      simp only [Piece.plain, literalChar, Bool.and_eq_true, decide_eq_true_eq] at plain
      obtain ⟨⟨other, -⟩, -⟩ := plain
      exact ⟨fun same => other (same ▸ by decide), fun same => other (same ▸ by decide)⟩

/-- What the steps make of a pattern. -/
theorem rewritten_patternText {pieces : List Piece} (plain : plainPieces pieces = true) :
    rewritten (patternText pieces) = regexText pieces := by
  induction pieces with
  | nil => rfl
  | cons piece rest ih =>
    rw [plainPieces, Bool.and_eq_true] at plain
    have later := ih plain.2
    cases piece with
    | any =>
      change rewritten ('?' :: patternText rest) = '.' :: regexText rest
      rw [rewritten, stage_loose ⟨by simp, by simp⟩, ← later]
      rfl
    | star =>
      change rewritten ('*' :: patternText rest) = '.' :: '*' :: regexText rest
      rw [rewritten, stage_loose ⟨by simp, by simp⟩, ← later]
      rfl
    | literal char =>
      simp only [Piece.plain, literalChar, Bool.and_eq_true, decide_eq_true_eq] at plain
      obtain ⟨⟨other, -⟩, -⟩ := plain
      have loose : Loose char (patternText rest) := by
        refine ⟨fun same => absurd (same ▸ by decide) other, fun starts => ?_⟩
        exact other ((List.cons_prefix_cons.mp starts).1 ▸ by decide)
      exact (rewritten_char loose (fun same => other (same ▸ by decide)) fun same => other (same ▸ by decide)).trans
        (congrArg _ later)
    | escaped char =>
      simp only [Piece.plain, Bool.and_eq_true, Bool.not_eq_true', Bool.and_eq_false_imp, beq_iff_eq] at plain
      obtain ⟨⟨-, noWildcard⟩, plainRest⟩ := plain
      have kept := @rewritten_escaped char (patternText rest)
        (fun same => head_patternText plainRest (noWildcard same)) fun _ => not_bang_pieces plainRest
      exact kept.trans (congrArg _ (congrArg _ later))
    | oneOf negated items =>
      have noBang := @not_bang_class negated items (patternText rest) rest plain.1
      simp only [Piece.plain, Bool.and_eq_true, Bool.not_eq_true'] at plain
      obtain ⟨⟨⟨inside, noBangItems⟩, -⟩, -⟩ := plain
      have body := @rewritten_items (!negated) items (patternText rest) inside noBangItems
      have bracket : Loose '[' ((if negated then ['^'] else []) ++ (itemsText items ++ ']' :: patternText rest)) :=
        ⟨fun same => absurd same (by decide), fun starts => noBang (List.cons_prefix_cons.mp starts).2⟩
      change rewritten (classText negated items ++ patternText rest) = classText negated items ++ regexText rest
      rw [classText_append, classText_append, rewritten_char bracket (by decide) (by decide)]
      cases negated with
      | false => exact congrArg _ (body.trans (by rw [later]; rfl))
      | true =>
        have caret : Loose '^' (itemsText items ++ ']' :: patternText rest) := ⟨by simp, by simp⟩
        change '[' :: rewritten ('^' :: (itemsText items ++ ']' :: patternText rest)) = _
        rw [rewritten_char caret (by decide) (by decide), body, later]
        rfl

end Rewriting

section Compilation

variable {negated : Bool} {items : List ClassItem} {char : Char} {rest : List Piece} {fuel : Nat} {after : List Char}

def ClassItem.units (item : ClassItem) : Nat × Nat := (item.bounds.1.toNat, item.bounds.2.toNat)

def classSet (negated : Bool) (items : List ClassItem) : CharSet := { negated, ranges := items.map ClassItem.units }

/-- A character of two units is one behind the other. -/
def literalRegex (char : Char) : Regex :=
  match unitsOf char with
  | [high, low] => .seq (.chars (.unit high)) (.chars (.unit low))
  | _ => .chars (.unit char.toNat)

/-- What a piece compiles to. -/
def Piece.regex : Piece → Regex
  | .literal char => literalRegex char
  | .escaped char => .chars (.unit char.toNat)
  | .any => .chars .dot
  | .star => .repeated (.chars .dot) 0 none
  | .oneOf negated items => .chars (classSet negated items)

def compiled : List Piece → Regex
  | [] => .empty
  | piece :: rest => .seq piece.regex (compiled rest)

theorem selfEscaped_lt (self : selfEscaped char = true) : char.toNat < 0x10000 := by
  simp only [selfEscaped, Bool.and_eq_true, decide_eq_true_eq] at self
  exact self.1.1

theorem escaped_of_selfEscaped (self : selfEscaped char = true) : RegExp.escaped char = .ok (.unit char.toNat) := by
  simp only [selfEscaped, Bool.and_eq_true, Bool.not_eq_true', decide_eq_true_eq] at self
  obtain ⟨⟨small, noDigit⟩, other⟩ := self
  have differs : ∀ mark ∈ "bBcdDfnrsStuvwWx".toList, char ≠ mark := fun mark member same => other (same ▸ member)
  have supported : (char.isDigit || decide (char ∈ ['b', 'B', 'c', 'u', 'x']) || decide (0x10000 ≤ char.toNat)) =
      false := by
    have unlisted : char ∉ ['b', 'B', 'c', 'u', 'x'] := by
      intro member
      have checked : (['b', 'B', 'c', 'u', 'x'].all (· ∈ "bBcdDfnrsStuvwWx".toList)) = true := by decide
      exact other (of_decide_eq_true (List.all_eq_true.mp checked char member))
    simp only [noDigit, unlisted, decide_false, Bool.or_false, Bool.false_or, decide_eq_false_iff_not]
    omega
  rw [RegExp.escaped]
  · rw [supported]
    rfl
  all_goals exact fun same => differs _ (by decide) same

theorem literal_ne {mark : Char} (plain : literalChar char = true) (listed : mark ∈ "*?[\\^$.+()|".toList) : char ≠ mark :=
  fun same => of_decide_eq_true plain (same ▸ listed)

theorem bounds_regexText (plain : plainPieces (.literal '{' :: rest) = true) : RegExp.bounds (regexText rest) = none := by
  simp only [plainPieces, Piece.plain, Bool.and_eq_true, Bool.not_eq_true', Bool.and_eq_false_imp] at plain
  exact Option.isSome_eq_false_iff.mp (plain.1.2 rfl) |> Option.isNone_iff_eq_none.mp

/-- No repetition begins with a piece. -/
theorem quantified_regexText (atom : Regex) (plain : plainPieces rest = true) :
    RegExp.quantified atom (regexText rest) = .ok (atom, regexText rest) := by
  cases rest with
  | nil => rfl
  | cons piece more =>
    cases piece with
    | literal char =>
      change RegExp.quantified atom (char :: regexText more) = .ok (atom, char :: regexText more)
      by_cases brace : char = '{'
      · subst brace
        rw [RegExp.quantified, bounds_regexText plain]
      · rw [plainPieces, Piece.plain, Bool.and_eq_true, Bool.and_eq_true] at plain
        rw [RegExp.quantified]
        · exact fun _ same => literal_ne plain.1.1 (by decide) (List.cons.inj same).1
        · exact fun _ same => literal_ne plain.1.1 (by decide) (List.cons.inj same).1
        · exact fun _ same => literal_ne plain.1.1 (by decide) (List.cons.inj same).1
        · exact fun _ same => brace (List.cons.inj same).1
    | _ => rfl

theorem classAtom_classChar {text : List Char} (plain : classChar char = true) :
    RegExp.classAtom (char :: text) = .ok (.unit char.toNat, text) := by
  rw [classChar_iff] at plain
  obtain ⟨small, -, backslash, -⟩ := plain
  rw [RegExp.classAtom, if_neg (by omega)]
  · exact fun next more same _ => backslash same
  · exact fun same _ => backslash same

private theorem rangeBetween_units {first last : Char} (ordered : first ≤ last) :
    RegExp.rangeBetween (.unit first.toNat) (.unit last.toNat) = .ok (first.toNat, last.toNat) := by
  have notBehind : ¬ last.toNat < first.toNat := Nat.not_lt.mpr ordered
  simp [RegExp.rangeBetween, CharSet.unit, notBehind]

/-- A character and the items behind it, before which no dash stands. -/
theorem classItems_single {text behind : List Char} {ranges : List (Nat × Nat)} (open_ : text.head? ≠ some ']')
    (atom : RegExp.classAtom text = .ok (.unit char.toNat, behind)) (noDash : behind.head? ≠ some '-')
    (others : RegExp.classItems fuel behind = .ok (ranges, after)) :
    RegExp.classItems (fuel + 1) text = .ok ((char.toNat, char.toNat) :: ranges, after) := by
  rw [RegExp.classItems, atom]
  · dsimp only [bind, Except.bind]
    split
    · exact absurd rfl noDash
    · exact absurd rfl noDash
    · rw [others]
      rfl
  · exact fun more same => open_ (congrArg List.head? same)

private theorem classItems_items (plain : plainItems items = true) (enough : (itemsText items).length < fuel) :
    RegExp.classItems fuel (itemsText items ++ ']' :: after) = .ok (items.map ClassItem.units, after) := by
  induction items generalizing fuel with
  | nil =>
    obtain ⟨less, rfl⟩ := Nat.exists_eq_succ_of_ne_zero (Nat.ne_of_gt (Nat.lt_of_le_of_lt (Nat.zero_le _) enough))
    rfl
  | cons item rest ih =>
    obtain ⟨less, rfl⟩ := Nat.exists_eq_succ_of_ne_zero (Nat.ne_of_gt (Nat.lt_of_le_of_lt (Nat.zero_le _) enough))
    rw [plainItems, Bool.and_eq_true] at plain
    have shorter : (itemsText rest).length < less := by
      have begins : itemsText (item :: rest) = item.text ++ itemsText rest := rfl
      have positive : 0 < item.text.length := by cases item <;> simp [ClassItem.text]
      rw [begins, List.length_append] at enough
      omega
    have later := ih plain.2 shorter
    cases item with
    | one char =>
      simp only [ClassItem.plain, Bool.and_eq_true, decide_eq_true_eq] at plain
      obtain ⟨⟨own, behind⟩, -⟩ := plain
      have open_ : char ≠ ']' := (classChar_iff.mp own).2.1
      exact classItems_single (fun same => open_ (Option.some.inj same)) (classAtom_classChar own)
        (head_items_ne (by decide) behind) later
    | escaped char =>
      simp only [ClassItem.plain, Bool.and_eq_true, decide_eq_true_eq] at plain
      obtain ⟨⟨own, behind⟩, -⟩ := plain
      have atom : RegExp.classAtom ('\\' :: char :: (itemsText rest ++ ']' :: after)) =
          .ok (.unit char.toNat, itemsText rest ++ ']' :: after) := by
        rw [RegExp.classAtom, escaped_of_selfEscaped own.1]
        rfl
      have begins : ('\\' :: char :: (itemsText rest ++ ']' :: after)).head? ≠ some ']' := by simp
      exact classItems_single begins atom (head_items_ne (by decide) behind) later
    | range first last =>
      simp only [ClassItem.plain, Bool.and_eq_true, decide_eq_true_eq] at plain
      obtain ⟨⟨⟨own, ownToo⟩, ordered⟩, -⟩ := plain
      have open_ : first ≠ ']' := (classChar_iff.mp own).2.1
      have inside : last ≠ ']' := (classChar_iff.mp ownToo).2.1
      change RegExp.classItems (less + 1) (first :: '-' :: last :: (itemsText rest ++ ']' :: after)) = _
      rw [RegExp.classItems, classAtom_classChar own]
      · dsimp only [bind, Except.bind]
        split
        · next same => exact absurd (List.cons.inj (List.cons.inj same).2).1 inside
        · next same =>
          rw [← (List.cons.inj same).2, classAtom_classChar ownToo]
          dsimp only
          rw [rangeBetween_units ordered]
          dsimp only
          rw [later]
          rfl
        · next noDash => exact absurd rfl (noDash _)
      · exact fun more same => open_ (List.cons.inj same).1

private theorem characterClass_class (plain : (Piece.oneOf negated items).plain rest = true) :
    RegExp.characterClass ((if negated then ['^'] else []) ++ (itemsText items ++ ']' :: after)) =
      .ok (classSet negated items, after) := by
  simp only [Piece.plain, Bool.and_eq_true] at plain
  obtain ⟨⟨inside, -⟩, start⟩ := plain
  have read : ∀ {fuel : Nat}, (itemsText items).length < fuel →
      RegExp.classItems fuel (itemsText items ++ ']' :: after) = .ok (items.map ClassItem.units, after) :=
    classItems_items inside
  have enough : (itemsText items).length < (itemsText items ++ ']' :: after).length + 1 := by
    rw [List.length_append]
    omega
  cases negated with
  | true =>
    change RegExp.characterClass ('^' :: (itemsText items ++ ']' :: after)) = _
    rw [RegExp.characterClass, read enough]
    rfl
  | false =>
    have noCaret := @head_items_ne items after '^' (by decide) (by simpa using start)
    change RegExp.characterClass (itemsText items ++ ']' :: after) = _
    rw [RegExp.characterClass, read enough]
    · rfl
    · exact fun more same => noCaret (congrArg List.head? same)

private theorem literal_regexText (plain : plainPieces rest = true) :
    RegExp.literal char (regexText rest) = .ok (literalRegex char, regexText rest) := by
  rw [RegExp.literal, literalRegex]
  rcases unitsOf_eq char with ⟨-, units⟩ | ⟨-, units⟩
  · rw [units]
    exact quantified_regexText _ plain
  · rw [units]
    dsimp only
    rw [quantified_regexText _ plain]
    rfl

private theorem term_literal (plain : plainPieces (.literal char :: rest) = true) :
    RegExp.term (fuel + 1) (char :: regexText rest) = .ok (literalRegex char, regexText rest) := by
  have parts := plain
  rw [plainPieces, Piece.plain, Bool.and_eq_true, Bool.and_eq_true] at parts
  obtain ⟨⟨own, -⟩, plainRest⟩ := parts
  have read := @literal_regexText char rest plainRest
  have backslash : char ≠ '\\' := literal_ne own (by decide)
  have paren : char ≠ '(' := literal_ne own (by decide)
  by_cases brace : char = '{'
  · subst brace
    rw [RegExp.term, bounds_regexText plain]
    exact read
  · rw [RegExp.term]
    · exact read
    · exact literal_ne own (by decide)
    · exact literal_ne own (by decide)
    · exact literal_ne own (by decide)
    · exact fun _ _ same _ => backslash same
    · exact fun same _ => backslash same
    · exact literal_ne own (by decide)
    · exact fun _ same _ => paren same
    · exact fun _ same _ => paren same
    · exact paren
    · exact literal_ne own (by decide)
    · exact literal_ne own (by decide)
    · exact literal_ne own (by decide)
    · exact brace

/-- No repetition is lazy. -/
theorem dropLazy_regexText (plain : plainPieces rest = true) : RegExp.dropLazy (regexText rest) = regexText rest := by
  cases rest with
  | nil => rfl
  | cons piece more =>
    cases piece with
    | literal char =>
      rw [plainPieces, Piece.plain, Bool.and_eq_true, Bool.and_eq_true] at plain
      change RegExp.dropLazy (char :: regexText more) = char :: regexText more
      rw [RegExp.dropLazy]
      exact fun _ same => literal_ne plain.1.1 (by decide) (List.cons.inj same).1
    | _ => rfl

private theorem term_piece {piece : Piece} (plain : plainPieces (piece :: rest) = true) :
    RegExp.term (fuel + 1) (regexText (piece :: rest)) = .ok (piece.regex, regexText rest) := by
  cases piece with
  | literal char => exact term_literal plain
  | any =>
    rw [plainPieces, Bool.and_eq_true] at plain
    exact quantified_regexText (.chars .dot) plain.2
  | star =>
    rw [plainPieces, Bool.and_eq_true] at plain
    change Except.ok (Regex.repeated (.chars .dot) 0 none, RegExp.dropLazy (regexText rest)) = _
    rw [dropLazy_regexText plain.2]
    rfl
  | escaped char =>
    rw [plainPieces, Piece.plain, Bool.and_eq_true, Bool.and_eq_true] at plain
    change RegExp.term (fuel + 1) ('\\' :: char :: regexText rest) = _
    rw [RegExp.term, escaped_of_selfEscaped plain.1.1]
    exact quantified_regexText (.chars (.unit char.toNat)) plain.2
  | oneOf negated items =>
    rw [plainPieces, Bool.and_eq_true] at plain
    change RegExp.term (fuel + 1) (classText negated items ++ regexText rest) = _
    rw [classText_append, RegExp.term, characterClass_class plain.1]
    exact quantified_regexText (.chars (classSet negated items)) plain.2

/-- Where a piece begins, no alternative ends. -/
theorem head_regexText_cons {piece : Piece} (plain : piece.plain rest = true) :
    ∃ first more, regexText (piece :: rest) = first :: more ∧ first ≠ '|' ∧ first ≠ ')' := by
  cases piece with
  | literal char =>
    rw [Piece.plain, Bool.and_eq_true] at plain
    exact ⟨char, regexText rest, rfl, literal_ne plain.1 (by decide), literal_ne plain.1 (by decide)⟩
  | _ => exact ⟨_, _, rfl, by decide, by decide⟩

private theorem alternative_pieces {pieces : List Piece} (plain : plainPieces pieces = true)
    (enough : pieces.length < fuel) :
    RegExp.alternative (fuel + 1) (regexText pieces) = .ok (compiled pieces, []) := by
  induction pieces generalizing fuel with
  | nil => rfl
  | cons piece rest ih =>
    obtain ⟨less, rfl⟩ := Nat.exists_eq_add_one_of_ne_zero (Nat.ne_of_gt (Nat.lt_of_le_of_lt (Nat.zero_le _) enough))
    have parts := plain
    rw [plainPieces, Bool.and_eq_true] at parts
    rw [List.length_cons] at enough
    have later := ih parts.2 (Nat.lt_of_succ_lt_succ enough)
    have read := @term_piece rest less piece plain
    obtain ⟨first, more, text, noBar, noParen⟩ := head_regexText_cons parts.1
    rw [text] at read ⊢
    rw [RegExp.alternative, read]
    · dsimp only [bind, Except.bind]
      rw [later]
      rfl
    · exact fun same => List.cons_ne_nil _ _ same
    · exact fun _ same => noBar (List.cons.inj same).1
    · exact fun _ same => noParen (List.cons.inj same).1

private theorem length_le_regexText (pieces : List Piece) : pieces.length ≤ (regexText pieces).length := by
  induction pieces with
  | nil => exact Nat.le_refl 0
  | cons piece rest ih =>
    have begins : regexText (piece :: rest) = piece.regexText ++ regexText rest := rfl
    have positive : 0 < piece.regexText.length := by
      cases piece <;> simp [Piece.regexText, Piece.text, classText]
    rw [begins, List.length_cons, List.length_append]
    omega

theorem new_regexText {pieces : List Piece} (plain : plainPieces pieces = true) :
    RegExp.new (regexText pieces) = .ok (compiled pieces) := by
  have enough : pieces.length < 4 * (regexText pieces).length + 2 := by
    have shorter := length_le_regexText pieces
    omega
  rw [RegExp.new, RegExp.disjunction, alternative_pieces plain enough]
  rfl

end Compilation

end HieroRelay.Cache
