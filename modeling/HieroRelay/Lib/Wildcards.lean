import Mathlib.Data.List.Basic
import Mathlib.Data.List.Infix

/-! Patterns of single symbols and of runs of any symbols, and what they match when the symbols are
written in a code. -/

namespace HieroRelay.Lib

variable {α γ : Type}

inductive Step (α : Type) where
  | run
  | one (accepts : α → Bool)

/-- The whole text is matched. -/
def matchSteps : List (Step α) → List α → Bool
  | [], text => text.isEmpty
  | .run :: steps, text => text.tails.any (matchSteps steps)
  | .one _ :: _, [] => false
  | .one accepts :: steps, symbol :: rest => accepts symbol && matchSteps steps rest

/-- The symbols of a word, one after the other. -/
def wordSteps [BEq α] (word : List α) : List (Step α) := word.map fun symbol => .one (symbol == ·)

section Matching

variable {steps following : List (Step α)} {text : List α}

theorem matchSteps_run_iff : matchSteps (.run :: steps) text = true ↔
    ∃ before after, text = before ++ after ∧ matchSteps steps after = true := by
  rw [matchSteps, List.any_eq_true]
  constructor
  · rintro ⟨after, ends, matched⟩
    obtain ⟨before, same⟩ := (List.mem_tails _ _).mp ends
    exact ⟨before, after, same.symm, matched⟩
  · rintro ⟨before, after, same, matched⟩
    exact ⟨after, (List.mem_tails _ _).mpr ⟨before, same.symm⟩, matched⟩

theorem matchSteps_append_iff : matchSteps (steps ++ following) text = true ↔
    ∃ before after, text = before ++ after ∧ matchSteps steps before = true ∧ matchSteps following after = true := by
  induction steps generalizing text with
  | nil =>
    constructor
    · exact fun matched => ⟨[], text, rfl, rfl, matched⟩
    · rintro ⟨before, after, rfl, empty, matched⟩
      obtain rfl := List.isEmpty_iff.mp empty
      exact matched
  | cons step steps ih =>
    cases step with
    | run =>
      rw [List.cons_append, matchSteps_run_iff]
      constructor
      · rintro ⟨before, after, rfl, matched⟩
        obtain ⟨middle, last, rfl, first, second⟩ := ih.mp matched
        exact ⟨before ++ middle, last, (List.append_assoc _ _ _).symm, matchSteps_run_iff.mpr ⟨_, _, rfl, first⟩, second⟩
      · rintro ⟨before, after, rfl, first, second⟩
        obtain ⟨skipped, middle, rfl, matched⟩ := matchSteps_run_iff.mp first
        exact ⟨skipped, middle ++ after, List.append_assoc _ _ _, ih.mpr ⟨_, _, rfl, matched, second⟩⟩
    | one accepts =>
      cases text with
      | nil =>
        constructor
        · intro matched
          cases matched
        · rintro ⟨before, after, same, first, -⟩
          obtain ⟨rfl, -⟩ := List.append_eq_nil_iff.mp same.symm
          cases first
      | cons symbol rest =>
        rw [List.cons_append, matchSteps, Bool.and_eq_true]
        constructor
        · rintro ⟨accepted, matched⟩
          obtain ⟨before, after, rfl, first, second⟩ := ih.mp matched
          exact ⟨symbol :: before, after, rfl, by rw [matchSteps, accepted, first]; rfl, second⟩
        · rintro ⟨before, after, same, first, second⟩
          cases before with
          | nil => cases first
          | cons head before =>
            obtain ⟨rfl, rfl⟩ := List.cons.inj same
            rw [matchSteps, Bool.and_eq_true] at first
            exact ⟨first.1, ih.mpr ⟨before, after, rfl, first.2, second⟩⟩

/-- A part of the text is matched. -/
theorem matchSteps_inside_iff : matchSteps (.run :: (steps ++ [.run])) text = true ↔
    ∃ part, part <:+: text ∧ matchSteps steps part = true := by
  have all : ∀ text : List α, matchSteps [.run] text = true := fun text =>
    matchSteps_run_iff.mpr ⟨text, [], (List.append_nil _).symm, rfl⟩
  rw [matchSteps_run_iff]
  constructor
  · rintro ⟨before, rest, rfl, matched⟩
    obtain ⟨part, after, rfl, matched, -⟩ := matchSteps_append_iff.mp matched
    exact ⟨part, ⟨before, after, List.append_assoc _ _ _⟩, matched⟩
  · rintro ⟨part, ⟨before, after, rfl⟩, matched⟩
    exact ⟨before, part ++ after, List.append_assoc _ _ _, matchSteps_append_iff.mpr ⟨part, after, rfl, matched, all _⟩⟩

theorem matchSteps_word_iff [BEq α] [LawfulBEq α] {word : List α} : matchSteps (wordSteps word ++ steps) text = true ↔
    ∃ after, text = word ++ after ∧ matchSteps steps after = true := by
  induction word generalizing text with
  | nil => exact ⟨fun matched => ⟨text, rfl, matched⟩, fun ⟨_, same, matched⟩ => same ▸ matched⟩
  | cons symbol word ih =>
    change matchSteps (.one (symbol == ·) :: (wordSteps word ++ steps)) text = true ↔ _
    cases text with
    | nil => simp [matchSteps]
    | cons head rest =>
      rw [matchSteps, Bool.and_eq_true, beq_iff_eq]
      constructor
      · rintro ⟨rfl, matched⟩
        obtain ⟨after, rfl, later⟩ := ih.mp matched
        exact ⟨after, rfl, later⟩
      · rintro ⟨after, same, matched⟩
        obtain ⟨rfl, rfl⟩ := List.cons.inj same
        exact ⟨rfl, ih.mpr ⟨after, rfl, matched⟩⟩

end Matching

section Coding

/-- A code in which the first symbol of a word shows where it begins. -/
structure Synchronized (encode : γ → List α) : Prop where
  notEmpty : ∀ char, encode char ≠ []
  first : ∀ char other, ∀ symbol ∈ (encode other).tail, (encode char).head? ≠ some symbol
  unique : ∀ {char other before after}, encode char ++ before = encode other ++ after → char = other

/-- What is left of an encoded text begins with a word or inside of one. -/
theorem flatMap_split {encode : γ → List α} {text : List γ} {before after : List α}
    (same : text.flatMap encode = before ++ after) :
    ∃ first second word, text = first ++ second ∧ after = word ++ second.flatMap encode ∧
      (word = [] ∨ ∃ char ∈ text, word <:+ (encode char).tail) := by
  induction text generalizing before with
  | nil =>
    obtain ⟨-, rfl⟩ := List.append_eq_nil_iff.mp same.symm
    exact ⟨[], [], [], rfl, rfl, .inl rfl⟩
  | cons char rest ih =>
    rw [List.flatMap_cons] at same
    obtain ⟨more, rfl, later⟩ | ⟨word, inside, rfl⟩ := List.append_eq_append_iff.mp same
    · obtain ⟨first, second, word, rfl, rfl, place⟩ := ih later
      refine ⟨char :: first, second, word, rfl, rfl, place.imp_right ?_⟩
      rintro ⟨other, member, ends⟩
      exact ⟨other, List.mem_cons_of_mem _ member, ends⟩
    · cases before with
      | nil => exact ⟨[], char :: rest, [], rfl, by rw [List.flatMap_cons, inside]; rfl, .inl rfl⟩
      | cons head before =>
        refine ⟨[char], rest, word, rfl, rfl, .inr ⟨char, List.mem_cons_self, ?_⟩⟩
        rw [inside]
        exact List.suffix_append before word

/-- A symbol is accepted as the character is, which is one symbol, or else none of its symbols is. -/
def Accepts (encode : γ → List α) (accepts : α → Bool) (has : γ → Bool) (char : γ) : Prop :=
  (∃ symbol, encode char = [symbol] ∧ accepts symbol = has char) ∨
    has char = false ∧ ∀ symbol ∈ encode char, accepts symbol = false

/-- The steps over symbols are those over characters, some of which are given by their words. -/
inductive Coded [BEq α] [BEq γ] (encode : γ → List α) (among : γ → Prop) : List (Step γ) → List (Step α) → Prop
  | nil : Coded encode among [] []
  | run {steps codes} (rest : Coded encode among steps codes) : Coded encode among (.run :: steps) (.run :: codes)
  | one {steps codes accepts has} (agree : ∀ char, among char → Accepts encode accepts has char)
      (rest : Coded encode among steps codes) : Coded encode among (.one has :: steps) (.one accepts :: codes)
  | char {steps codes} (char : γ) (rest : Coded encode among steps codes) :
      Coded encode among (.one (char == ·) :: steps) (wordSteps (encode char) ++ codes)

variable [BEq α] [BEq γ] {encode : γ → List α} {among : γ → Prop}
  {steps following : List (Step γ)} {codes codesFollowing : List (Step α)}

theorem Coded.append (coded : Coded encode among steps codes) (later : Coded encode among following codesFollowing) :
    Coded encode among (steps ++ following) (codes ++ codesFollowing) := by
  induction coded with
  | nil => exact later
  | run rest ih => exact .run ih
  | one agree rest ih => exact .one agree ih
  | char char rest ih =>
    rw [List.append_assoc]
    exact .char char ih

variable [LawfulBEq α]

/-- The rest of a word in front of a text is matched by runs only. -/
theorem Coded.skip (code : Synchronized encode) (coded : Coded encode among steps codes) {char : γ} (suits : among char)
    {word text : List α} (ends : word <:+ (encode char).tail) (matched : matchSteps codes (word ++ text) = true) :
    matchSteps codes text = true := by
  induction coded generalizing word with
  | nil => exact List.isEmpty_iff.mpr (List.append_eq_nil_iff.mp (List.isEmpty_iff.mp matched)).2
  | run rest ih =>
    obtain ⟨before, after, same, later⟩ := matchSteps_run_iff.mp matched
    obtain ⟨more, rfl, rfl⟩ | ⟨more, rfl, rfl⟩ := List.append_eq_append_iff.mp same
    · exact matchSteps_run_iff.mpr ⟨more, after, rfl, later⟩
    · exact matchSteps_run_iff.mpr ⟨[], text, rfl, ih ((List.suffix_append _ _).trans ends) later⟩
  | one agree rest ih =>
    cases word with
    | nil => exact matched
    | cons symbol word =>
      have inside : symbol ∈ (encode char).tail := ends.subset List.mem_cons_self
      rw [List.cons_append, matchSteps, Bool.and_eq_true] at matched
      rcases agree char suits with ⟨only, single, -⟩ | ⟨-, refused⟩
      · rw [single] at inside
        cases inside
      · rw [refused symbol (List.mem_of_mem_tail inside)] at matched
        cases matched.1
  | char other rest ih =>
    cases word with
    | nil => exact matched
    | cons symbol word =>
      have inside : symbol ∈ (encode char).tail := ends.subset List.mem_cons_self
      obtain ⟨after, same, -⟩ := matchSteps_word_iff.mp matched
      obtain ⟨head, tail, own⟩ := List.exists_cons_of_ne_nil (code.notEmpty other)
      rw [own] at same
      obtain ⟨rfl, -⟩ := List.cons.inj same
      exact absurd (by rw [own]; rfl) (code.first other char symbol inside)

/-- An encoded text is matched as the text is. -/
theorem Coded.matchSteps_eq [LawfulBEq γ] (code : Synchronized encode) (coded : Coded encode among steps codes) {text : List γ}
    (suits : ∀ char ∈ text, among char) : matchSteps codes (text.flatMap encode) = matchSteps steps text := by
  rw [Bool.eq_iff_iff]
  induction coded generalizing text with
  | nil =>
    cases text with
    | nil => rfl
    | cons char rest => simp [matchSteps, code.notEmpty char]
  | run rest ih =>
    rw [matchSteps_run_iff, matchSteps_run_iff]
    constructor
    · rintro ⟨before, after, same, matched⟩
      obtain ⟨first, second, word, rfl, rfl, place⟩ := flatMap_split same
      have later := (@ih second fun char member => suits char (List.mem_append_right _ member)).mp
      rcases place with rfl | ⟨char, member, ends⟩
      · exact ⟨first, second, rfl, later matched⟩
      · exact ⟨first, second, rfl, later (rest.skip code (suits char member) ends matched)⟩
    · rintro ⟨first, second, rfl, matched⟩
      have later := (@ih second fun char member => suits char (List.mem_append_right _ member)).mpr matched
      exact ⟨first.flatMap encode, second.flatMap encode, List.flatMap_append, later⟩
  | one agree rest ih =>
    cases text with
    | nil => rfl
    | cons char text =>
      have later := @ih text fun char member => suits char (List.mem_cons_of_mem _ member)
      rcases agree char (suits char List.mem_cons_self) with ⟨symbol, single, same⟩ | ⟨none, refused⟩
      · rw [List.flatMap_cons, single, List.singleton_append, matchSteps, matchSteps, same, Bool.and_eq_true,
          Bool.and_eq_true, later]
      · obtain ⟨symbol, word, own⟩ := List.exists_cons_of_ne_nil (code.notEmpty char)
        rw [own] at refused
        rw [List.flatMap_cons, own, List.cons_append, matchSteps, matchSteps, none, refused symbol List.mem_cons_self,
          Bool.false_and, Bool.false_and]
  | char other rest ih =>
    rw [matchSteps_word_iff]
    cases text with
    | nil => simp [matchSteps, code.notEmpty other]
    | cons char text =>
      have later := @ih text fun char member => suits char (List.mem_cons_of_mem _ member)
      rw [List.flatMap_cons, matchSteps, Bool.and_eq_true, beq_iff_eq, ← later]
      constructor
      · rintro ⟨after, same, matched⟩
        obtain rfl := code.unique same
        obtain rfl := List.append_cancel_left same
        exact ⟨rfl, matched⟩
      · rintro ⟨rfl, matched⟩
        exact ⟨_, rfl, matched⟩

end Coding

end HieroRelay.Lib
