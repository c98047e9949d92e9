import HieroRelay.Cache.KeyExpressions

/-! The keys that are found with a pattern of plain pieces: the expression is not bound to the ends of a
key, and a key is found as soon as some part of it matches. -/

namespace HieroRelay.Cache

open HieroRelay.Js HieroRelay.Redis HieroRelay.Lib

/-- The character means the same to both in a key: a wildcard does not stand for a line end here, and
what is counted is a single byte there. -/
def Piece.suits (char : Char) : Piece → Bool
  | .any => CharSet.dot.has char.toNat && char.toNat < 128
  | .star => CharSet.dot.has char.toNat
  | .oneOf true _ => char.toNat < 128
  | _ => true

def suitable (pieces : List Piece) (key : String) : Bool :=
  key.toList.all fun char => pieces.all fun piece => piece.suits char

section Steps

def Piece.step : Piece → Step Char
  | .literal char | .escaped char => .one (char == ·)
  | .any => .one fun _ => true
  | .star => .run
  | .oneOf negated items => .one (GlobPart.oneOf negated (items.map ClassItem.bounds)).has

def Piece.unitSteps : Piece → List (Step Nat)
  | .literal char | .escaped char => wordSteps (unitsOf char)
  | .any => [.one CharSet.dot.has]
  | .star => [.run]
  | .oneOf negated items => [.one (classSet negated items).has]

end Steps

section Codes

variable {negated : Bool} {items : List ClassItem} {pieces : List Piece} {char : Char} {among : Char → Prop}

private theorem bounds_small {rest : List Char} {item : ClassItem} (plain : item.plain rest = true) :
    item.bounds.2.toNat < 128 := by
  cases item with
  | one char => exact classItem_small plain char (List.mem_singleton.mpr rfl)
  | escaped char => exact classItem_small plain char (List.mem_cons_of_mem _ (List.mem_singleton.mpr rfl))
  | range first last => exact classItem_small plain last (by simp [ClassItem.text])

private theorem plain_of_mem {item : ClassItem} (plain : plainItems items = true) (member : item ∈ items) :
    ∃ rest, item.plain rest = true := by
  induction items with
  | nil => cases member
  | cons first rest ih =>
    rw [plainItems, Bool.and_eq_true] at plain
    rcases List.mem_cons.mp member with rfl | later
    · exact ⟨_, plain.1⟩
    · exact ih plain.2 later

theorem classSet_has_eq (items : List ClassItem) (unit : Nat) :
    (classSet negated items).has unit =
      ((items.any fun item => item.bounds.1.toNat ≤ unit && unit ≤ item.bounds.2.toNat) != negated) := by
  rw [CharSet.has, classSet, List.any_map]
  rfl

theorem classSet_has (items : List ClassItem) (char : Char) :
    (classSet negated items).has char.toNat = (GlobPart.oneOf negated (items.map ClassItem.bounds)).has char := by
  rw [classSet_has_eq, GlobPart.has, List.any_map]
  rfl

theorem classSet_large (plain : plainItems items = true) {unit : Nat} (large : 128 ≤ unit) :
    (classSet false items).has unit = false := by
  have none : (items.any fun item => item.bounds.1.toNat ≤ unit && unit ≤ item.bounds.2.toNat) = false := by
    rw [List.any_eq_false]
    intro item member inside
    obtain ⟨rest, own⟩ := plain_of_mem plain member
    have below := bounds_small own
    rw [Bool.and_eq_true, decide_eq_true_eq, decide_eq_true_eq] at inside
    omega
  rw [classSet_has_eq, none]
  rfl

/-- A class reads units as it reads characters. -/
theorem accepts_units (plain : plainItems items = true) (suits : (Piece.oneOf negated items).suits char = true) :
    Accepts unitsOf (classSet negated items).has (GlobPart.oneOf negated (items.map ClassItem.bounds)).has char := by
  by_cases small : char.toNat < 128
  · exact .inl ⟨char.toNat, unitsOf_of_lt (by omega), classSet_has items char⟩
  · have large := Nat.le_of_not_lt small
    cases negated with
    | true => exact absurd (of_decide_eq_true suits) small
    | false =>
      refine .inr ⟨?_, fun unit member => classSet_large plain (unitsOf_large large unit member)⟩
      rw [← classSet_has]
      exact classSet_large plain large

/-- A class reads bytes as it reads characters. -/
theorem accepts_bytes (plain : plainItems items = true) (suits : (Piece.oneOf negated items).suits char = true) :
    Accepts charBytes (GlobPart.oneOf negated (items.map ClassItem.bounds)).has
      (GlobPart.oneOf negated (items.map ClassItem.bounds)).has char := by
  by_cases small : char.toNat < 128
  · exact .inl ⟨char, charBytes_small small, rfl⟩
  · have large := Nat.le_of_not_lt small
    cases negated with
    | true => exact absurd (of_decide_eq_true suits) small
    | false =>
      refine .inr ⟨?_, fun byte member => ?_⟩
      · rw [← classSet_has]
        exact classSet_large plain large
      · rw [← classSet_has]
        exact classSet_large plain (charBytes_large large byte member)

private theorem coded_units (plain : plainPieces pieces = true)
    (suits : ∀ char, among char → ∀ piece ∈ pieces, piece.suits char = true) :
    Coded unitsOf among (pieces.map Piece.step) (pieces.flatMap Piece.unitSteps) := by
  induction pieces with
  | nil => exact .nil
  | cons piece rest ih =>
    rw [plainPieces, Bool.and_eq_true] at plain
    have own := fun char member => suits char member piece List.mem_cons_self
    have later := ih plain.2 fun char member other inside => suits char member other (List.mem_cons_of_mem _ inside)
    cases piece with
    | literal char => exact .char char later
    | escaped char => exact .char char later
    | star => exact .run later
    | any =>
      refine .one (fun char member => .inl ⟨char.toNat, ?_, ?_⟩) later
      · have single := own char member
        rw [Piece.suits, Bool.and_eq_true, decide_eq_true_eq] at single
        exact unitsOf_of_lt (by omega)
      · have single := own char member
        rw [Piece.suits, Bool.and_eq_true] at single
        exact single.1
    | oneOf negated items =>
      have inside := plain.1
      rw [Piece.plain, Bool.and_eq_true, Bool.and_eq_true] at inside
      exact .one (fun char member => accepts_units inside.1.1 (own char member)) later

private theorem coded_bytes (plain : plainPieces pieces = true)
    (suits : ∀ char, among char → ∀ piece ∈ pieces, piece.suits char = true) :
    Coded charBytes among (pieces.map Piece.step) ((pieces.flatMap Piece.parts).map GlobPart.step) := by
  induction pieces with
  | nil => exact .nil
  | cons piece rest ih =>
    rw [plainPieces, Bool.and_eq_true] at plain
    have own := fun char member => suits char member piece List.mem_cons_self
    have later := ih plain.2 fun char member other inside => suits char member other (List.mem_cons_of_mem _ inside)
    rw [List.flatMap_cons, List.map_append]
    cases piece with
    | literal char =>
      rw [Piece.parts, steps_literals]
      exact .char char later
    | escaped char =>
      rw [Piece.parts, steps_literals]
      exact .char char later
    | star => exact .run later
    | any =>
      refine .one (fun char member => .inl ⟨char, ?_, rfl⟩) later
      have single := own char member
      rw [Piece.suits, Bool.and_eq_true, decide_eq_true_eq] at single
      exact charBytes_small single.2
    | oneOf negated items =>
      have inside := plain.1
      rw [Piece.plain, Bool.and_eq_true, Bool.and_eq_true] at inside
      exact .one (fun char member => accepts_bytes inside.1.1 (own char member)) later

end Codes

section Found

variable {pieces : List Piece} {char : Char} {text : List Nat} {later : Regex.State} {atStart : Bool}

theorem mem_rests_literal : later ∈ (literalRegex char).rests (atStart, text) ↔
    ∃ after, text = unitsOf char ++ after ∧ later = (false, after) := by
  have unit : ∀ {unit value : Nat}, (CharSet.unit unit).has value = true ↔ value = unit := by
    intro unit value
    simp only [CharSet.unit, CharSet.has, List.any_cons, List.any_nil, Bool.or_false, Bool.bne_false, Bool.and_eq_true,
      decide_eq_true_eq]
    omega
  rcases unitsOf_eq char with ⟨-, units⟩ | ⟨-, units⟩ <;> rw [literalRegex, units]
  · simp [unit]
  · simp [unit]

/-- A rest is left behind a match where the steps match what stands before it. -/
theorem rests_compiled_iff (plain : plainPieces pieces = true)
    (dots : .star ∈ pieces → ∀ unit ∈ text, CharSet.dot.has unit = true) :
    (∃ later, later ∈ (compiled pieces).rests (atStart, text)) ↔
      matchSteps (pieces.flatMap Piece.unitSteps ++ [.run]) text = true := by
  induction pieces generalizing atStart text with
  | nil => exact iff_of_true ⟨_, List.mem_singleton_self _⟩ (matchSteps_run_iff.mpr ⟨text, [], by simp, rfl⟩)
  | cons piece rest ih =>
    rw [plainPieces, Bool.and_eq_true] at plain
    have dotsLater : ∀ {after : List Nat}, after <:+ text → .star ∈ rest → ∀ unit ∈ after, CharSet.dot.has unit = true :=
      fun ends member unit inside => dots (List.mem_cons_of_mem _ member) unit (ends.subset inside)
    -- what is left behind the piece is read by the others
    have behind : (∃ later, later ∈ (compiled (piece :: rest)).rests (atStart, text)) ↔
        ∃ middle ∈ piece.regex.rests (atStart, text), ∃ later, later ∈ (compiled rest).rests middle := by
      simp only [compiled, Regex.mem_rests_seq]
      constructor
      · rintro ⟨later, middle, first, second⟩
        exact ⟨middle, first, later, second⟩
      · rintro ⟨middle, first, later, second⟩
        exact ⟨later, middle, first, second⟩
    rw [behind, List.flatMap_cons, List.append_assoc]
    have word : ∀ char, (∃ middle ∈ (literalRegex char).rests (atStart, text),
          ∃ later, later ∈ (compiled rest).rests middle) ↔
        matchSteps (wordSteps (unitsOf char) ++ (rest.flatMap Piece.unitSteps ++ [.run])) text = true := by
      intro char
      rw [matchSteps_word_iff]
      constructor
      · rintro ⟨middle, read, left⟩
        obtain ⟨after, rfl, rfl⟩ := mem_rests_literal.mp read
        exact ⟨after, rfl, (ih plain.2 (dotsLater (List.suffix_append _ _))).mp left⟩
      · rintro ⟨after, rfl, matched⟩
        exact ⟨_, mem_rests_literal.mpr ⟨after, rfl, rfl⟩, (ih plain.2 (dotsLater (List.suffix_append _ _))).mpr matched⟩
    have single : ∀ set : CharSet,
        (∃ middle ∈ (Regex.chars set).rests (atStart, text), ∃ later, later ∈ (compiled rest).rests middle) ↔
          matchSteps (.one set.has :: (rest.flatMap Piece.unitSteps ++ [.run])) text = true := by
      intro set
      cases text with
      | nil => simp [Regex.rests, matchSteps]
      | cons unit after =>
        have left := @ih after false plain.2 (dotsLater (List.suffix_cons _ _))
        rw [matchSteps, Bool.and_eq_true, ← left]
        constructor
        · rintro ⟨middle, read, left⟩
          obtain ⟨unit, after, same, inside, rfl⟩ := Regex.mem_rests_chars.mp read
          cases same
          exact ⟨inside, left⟩
        · rintro ⟨inside, left⟩
          exact ⟨_, Regex.mem_rests_chars.mpr ⟨unit, after, rfl, inside, rfl⟩, left⟩
    cases piece with
    | literal char => exact word char
    | escaped char =>
      rw [Piece.plain, Bool.and_eq_true] at plain
      have same : literalRegex char = (Piece.escaped char).regex := by
        rw [literalRegex, unitsOf_of_lt (selfEscaped_lt plain.1.1)]
        rfl
      rw [← same]
      exact word char
    | any => exact single CharSet.dot
    | oneOf negated items => exact single (classSet negated items)
    | star =>
      have dot := dots List.mem_cons_self
      change (∃ middle ∈ (Regex.repeated (.chars .dot) 0 none).rests (atStart, text), _) ↔ matchSteps (.run :: _) text = true
      rw [matchSteps_run_iff]
      constructor
      · rintro ⟨middle, read, left⟩
        obtain ⟨before, after, rfl, -, -, -, rfl⟩ := (Regex.mem_rests_repeated_chars (by simp)).mp read
        exact ⟨before, after, rfl, (ih plain.2 (dotsLater (List.suffix_append _ _))).mp left⟩
      · rintro ⟨before, after, rfl, matched⟩
        refine ⟨_, (Regex.mem_rests_repeated_chars (by simp)).mpr ⟨before, after, rfl, ?_, Nat.zero_le _, by simp, rfl⟩, ?_⟩
        · exact List.all_eq_true.mpr fun unit inside => dot unit (List.mem_append_left _ inside)
        · exact (ih plain.2 (dotsLater (List.suffix_append _ _))).mpr matched

end Found

section Keys

variable {pieces : List Piece} {pattern key : String} {stored : List String}

/-- Some part of the key is matched. -/
def FoundInside (pattern key : String) : Prop :=
  ∃ part, part <:+: bytes key ∧ globMatch (globParts none (bytes pattern)) part = true

private theorem dot_units (suits : suitable pieces key = true) (star : .star ∈ pieces) :
    ∀ unit ∈ codeUnits key, CharSet.dot.has unit = true := by
  intro unit member
  obtain ⟨char, inside, own⟩ := List.mem_flatMap.mp member
  have dot : CharSet.dot.has char.toNat = true :=
    List.all_eq_true.mp (List.all_eq_true.mp suits char inside) .star star
  rcases unitsOf_eq char with ⟨-, units⟩ | ⟨-, units⟩
  · rw [units, List.mem_singleton] at own
    exact own ▸ dot
  · have range := toNat_lt_max char
    rw [units, List.mem_cons, List.mem_singleton] at own
    simp only [CharSet.has, CharSet.dot, lineTerminators, List.any_cons, List.any_nil]
    simp
    omega

/-- The expression is found in a key where some part of the key matches the pattern. -/
theorem test_compiled_iff (written : pattern.toList = patternText pieces) (plain : plainPieces pieces = true)
    (suits : suitable pieces key = true) : (compiled pieces).test key = true ↔ FoundInside pattern key := by
  have each : ∀ char ∈ key.toList, ∀ piece ∈ pieces, piece.suits char = true := fun char inside =>
    List.all_eq_true.mp (List.all_eq_true.mp suits char inside)
  have unitCoded := ((coded_units plain each).append (.run .nil)).run
  have byteCoded := ((coded_bytes plain each).append (.run .nil)).run
  have units := unitCoded.matchSteps_eq synchronized_unitsOf fun char inside => inside
  have inBytes := byteCoded.matchSteps_eq synchronized_charBytes fun char inside => inside
  have parts : globParts none (bytes pattern) = pieces.flatMap Piece.parts := by
    rw [bytes, written, globParts_patternText plain]
  have inside : FoundInside pattern key ↔
      matchSteps (.run :: ((pieces.flatMap Piece.parts).map GlobPart.step ++ [.run])) (bytes key) = true := by
    simp only [FoundInside, parts, globMatch_eq, matchSteps_inside_iff]
  rw [inside, bytes, inBytes, ← units, matchSteps_run_iff, Regex.test, Regex.found_iff]
  refine exists_congr fun before => exists_congr fun after => and_congr_right fun same => ?_
  exact rests_compiled_iff plain fun star unit inside =>
    dot_units suits star unit (same ▸ List.mem_append_right _ inside)

theorem FoundInside.of_matches (matched : matchesPattern pattern key = true) : FoundInside pattern key :=
  ⟨bytes key, List.infix_rfl, matched⟩

end Keys

end HieroRelay.Cache
