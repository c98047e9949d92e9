import HieroRelay.Js.CodeUnits
import Mathlib.Data.List.Basic
import Mathlib.Data.List.Infix

/-! `replace` with a pattern that is looked for everywhere in a text. -/

namespace HieroRelay.Js

/-- What is matched at the start of a text behind a character: the length of the match, and what
takes its place. -/
abbrev Finder := Option Char → List Char → Option (Nat × List Char)

/-- Characters that were matched are passed. -/
def replaceFrom (find : Finder) : (passed : Nat) → Option Char → List Char → List Char
  | _, _, [] => []
  | passed + 1, _, char :: rest => replaceFrom find passed (some char) rest
  | 0, behind, char :: rest =>
      match find behind (char :: rest) with
      | some (length, replacement) => replacement ++ replaceFrom find (length - 1) (some char) rest
      | none => char :: replaceFrom find 0 (some char) rest

def replaceAll (find : Finder) (text : List Char) : List Char := replaceFrom find 0 none text

/-- A pattern of plain characters. -/
def literally (needle replacement : List Char) : Finder := fun _ text =>
  if needle <+: text then some (needle.length, replacement) else none

/-- The same with a look behind: no backslash stands in front. -/
def unescaped (needle replacement : List Char) : Finder := fun behind text =>
  if behind ≠ some '\\' ∧ needle <+: text then some (needle.length, replacement) else none

section Rules

variable {find : Finder} {behind : Option Char} {char : Char} {needle replacement block text : List Char}

theorem replaceFrom_pass (missed : find behind (char :: text) = none) :
    replaceFrom find 0 behind (char :: text) = char :: replaceFrom find 0 (some char) text := by
  rw [replaceFrom, missed]

private theorem replaceFrom_passed (block text : List Char) (last : Char) :
    replaceFrom find (block.length + 1) behind (block ++ last :: text) = replaceFrom find 0 (some last) text := by
  induction block generalizing behind with
  | nil => rfl
  | cons char rest ih => exact ih

theorem replaceFrom_match {block : List Char} {last : Char}
    (found : find behind (block ++ last :: text) = some (block.length + 1, replacement)) :
    replaceFrom find 0 behind (block ++ last :: text) = replacement ++ replaceFrom find 0 (some last) text := by
  cases block with
  | nil =>
    rw [List.nil_append] at found ⊢
    rw [replaceFrom, found]
    rfl
  | cons char rest =>
    rw [List.cons_append] at found ⊢
    rw [replaceFrom, found]
    exact congrArg _ (replaceFrom_passed rest text last)

/-- Without a look behind it does not matter what stands in front. -/
theorem replaceFrom_literally (passed : Nat) (behind : Option Char) (text : List Char) :
    replaceFrom (literally needle replacement) passed behind text =
      replaceFrom (literally needle replacement) passed none text := by
  cases text with
  | nil => cases passed <;> rfl
  | cons char rest => cases passed <;> rfl

theorem replaceAll_literally_match (notEmpty : needle ≠ []) :
    replaceAll (literally needle replacement) (needle ++ text) =
      replacement ++ replaceAll (literally needle replacement) text := by
  obtain ⟨block, last, rfl⟩ : ∃ block last, needle = block ++ [last] :=
    ⟨_, _, (List.dropLast_append_getLast notEmpty).symm⟩
  have found : literally (block ++ [last]) replacement none (block ++ last :: text) =
      some (block.length + 1, replacement) := by
    rw [literally, if_pos ⟨text, by simp⟩, List.length_append]
    rfl
  rw [replaceAll, List.append_assoc, List.singleton_append, replaceFrom_match found, replaceFrom_literally]
  rfl

theorem replaceAll_literally_pass (missed : ¬ needle <+: char :: text) :
    replaceAll (literally needle replacement) (char :: text) = char :: replaceAll (literally needle replacement) text := by
  rw [replaceAll, replaceFrom_pass (if_neg missed), replaceFrom_literally]
  rfl

/-- A block in which no match begins stays as it is. -/
theorem replaceAll_literally_block (missed : ∀ tail, tail <:+ block → tail ≠ [] → ¬ needle <+: tail ++ text) :
    replaceAll (literally needle replacement) (block ++ text) = block ++ replaceAll (literally needle replacement) text := by
  induction block with
  | nil => rfl
  | cons char rest ih =>
    have first : ¬ needle <+: char :: (rest ++ text) := missed _ List.suffix_rfl (List.cons_ne_nil _ _)
    rw [List.cons_append, replaceAll_literally_pass first,
      ih fun tail ends => missed tail (ends.trans (List.suffix_cons _ _))]
    rfl

/-- Where matches are replaced by themselves, nothing changes. -/
theorem replaceFrom_self (passed : Nat) (behind : Option Char) (same : ∀ tail, tail <:+ text → ∀ behind length replacement,
    find behind tail = some (length, replacement) → 0 < length ∧ replacement = tail.take length) :
    replaceFrom find passed behind text = text.drop passed := by
  induction text generalizing passed behind with
  | nil => cases passed <;> rfl
  | cons char rest ih =>
    have later := fun tail (ends : tail <:+ rest) => same tail (ends.trans (List.suffix_cons _ _))
    cases passed with
    | succ passed => exact ih passed (some char) later
    | zero =>
      rw [replaceFrom]
      split
      · next length replacement found =>
        obtain ⟨positive, rfl⟩ := same _ List.suffix_rfl _ _ _ found
        rw [ih _ _ later]
        obtain ⟨less, rfl⟩ := Nat.exists_eq_succ_of_ne_zero positive.ne'
        simp
      · rw [ih 0 _ later]
        rfl

theorem replaceAll_self (same : ∀ tail, tail <:+ text → ∀ behind length replacement,
    find behind tail = some (length, replacement) → 0 < length ∧ replacement = tail.take length) :
    replaceAll find text = text := replaceFrom_self 0 none same

/-- A block in which no match begins, whatever stands around it, stays as it is. -/
theorem replaceFrom_block {last : Char}
    (missed : ∀ char ∈ block ++ [last], ∀ behind rest, find behind (char :: rest) = none) :
    replaceFrom find 0 behind (block ++ last :: text) = block ++ last :: replaceFrom find 0 (some last) text := by
  induction block generalizing behind with
  | nil => exact replaceFrom_pass (missed last List.mem_cons_self _ _)
  | cons char rest ih =>
    rw [List.cons_append, replaceFrom_pass (missed char List.mem_cons_self _ _),
      ih fun other member => missed other (List.mem_cons_of_mem _ member)]
    rfl

theorem unescaped_eq_none {first : Char} (other : char ≠ first) :
    unescaped (first :: needle) replacement behind (char :: text) = none :=
  if_neg fun found => other (List.cons_prefix_cons.mp found.2).1.symm

theorem replaceFrom_unescaped_pass {first : Char} (other : char ≠ first) :
    replaceFrom (unescaped (first :: needle) replacement) 0 behind (char :: text) =
      char :: replaceFrom (unescaped (first :: needle) replacement) 0 (some char) text :=
  replaceFrom_pass (unescaped_eq_none other)

end Rules

end HieroRelay.Js
