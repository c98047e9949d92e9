import HieroRelay.Cache.LocalKeys

/-! What the steps on the text of a pattern amount to: one pass, where no placeholder is in the
pattern itself. -/

namespace HieroRelay.Cache

open HieroRelay.Js

section Placeholders

variable {special char : Char}

def escapedNames : List (List Char) := specialChars.map escapedName

private theorem escapedName_mem (special : Char) : escapedName special ∈ escapedNames := by
  unfold escapedName
  split <;> decide

private theorem escapedName_chars (member : char ∈ escapedName special) :
    char ≠ '\\' ∧ char ∉ specialChars ∧ char ≠ '.' := by
  have checked : (escapedNames.all fun name => name.all fun char =>
      decide (char ≠ '\\' ∧ char ∉ specialChars ∧ char ≠ '.')) = true := by decide
  exact of_decide_eq_true (List.all_eq_true.mp (List.all_eq_true.mp checked _ (escapedName_mem special)) char member)

theorem placeholder_chars (member : char ∈ placeholder special) : char ≠ '\\' ∧ char ∉ specialChars ∧ char ≠ '.' := by
  have forms : char = '_' ∨ char ∈ escapedName special := by
    simp only [placeholder, List.cons_append, List.mem_cons, List.mem_append, List.not_mem_nil, or_false] at member
    grind
  rcases forms with rfl | inside
  · decide
  · exact escapedName_chars inside

end Placeholders

section Escapes

variable {hidden rest : List Char} {special char : Char}

/-- The escaped characters of a list are hidden by placeholders. -/
def conceal (hidden : List Char) : List Char → List Char
  | '\\' :: char :: rest =>
      if char ∈ hidden then placeholder char ++ conceal hidden rest else '\\' :: conceal hidden (char :: rest)
  | char :: rest => char :: conceal hidden rest
  | [] => []

private theorem conceal_nil (text : List Char) : conceal [] text = text := by
  fun_induction conceal [] text with
  | case1 char rest inside ih => cases inside
  | case2 char rest outside ih => rw [ih]
  | case3 char rest plain ih => rw [ih]
  | case4 => rfl

theorem conceal_char (plain : char ≠ '\\') : conceal hidden (char :: rest) = char :: conceal hidden rest := by
  rw [conceal]
  intro next more same
  exact absurd same plain

theorem conceal_escaped : conceal hidden ('\\' :: char :: rest) =
    if char ∈ hidden then placeholder char ++ conceal hidden rest else '\\' :: conceal hidden (char :: rest) := by
  rw [conceal]

/-- What a text begins with, if it is no placeholder. -/
theorem head_conceal (text : List Char) :
    ∀ first ∈ (conceal hidden text).head?, first = '_' ∨ text.head? = some first := by
  intro first found
  fun_cases conceal hidden text with
  | case1 char rest inside =>
    rw [conceal_escaped, if_pos inside] at found
    exact .inl (Option.some.inj found).symm
  | case2 char rest outside =>
    rw [conceal_escaped, if_neg outside] at found
    exact .inr found
  | case3 char rest plain =>
    rw [conceal] at found
    · exact .inr found
    · exact plain
  | case4 => cases found

/-- One more special character is hidden where it is escaped. -/
theorem replaceAll_conceal (listed : special ∈ specialChars) (text : List Char) :
    replaceAll (literally ['\\', special] (placeholder special)) (conceal hidden text) =
      conceal (hidden ++ [special]) text := by
  have notBackslash : special ≠ '\\' := by
    rintro rfl
    exact absurd listed (by decide)
  have notUnderscore : special ≠ '_' := by
    rintro rfl
    exact absurd listed (by decide)
  fun_induction conceal (hidden ++ [special]) text with
  | case1 char rest inside ih =>
    by_cases before : char ∈ hidden
    · rw [conceal_escaped, if_pos before, replaceAll_literally_block, ih]
      intro tail ends notEmpty starts
      cases tail with
      | nil => exact notEmpty rfl
      | cons first more =>
        have same := (List.cons_prefix_cons.mp starts).1
        exact (placeholder_chars (ends.subset List.mem_cons_self)).1 same.symm
    · obtain rfl : char = special := by simpa [before] using inside
      rw [conceal_escaped, if_neg before, conceal_char notBackslash, ← ih]
      exact @replaceAll_literally_match ['\\', char] _ _ (List.cons_ne_nil _ _)
  | case2 char rest outside ih =>
    rw [List.mem_append, not_or, List.mem_singleton] at outside
    rw [conceal_escaped, if_neg outside.1, replaceAll_literally_pass, ih]
    intro starts
    obtain ⟨more, found⟩ := (List.cons_prefix_cons.mp starts).2
    have first : special ∈ (conceal hidden (char :: rest)).head? := by simp [← found]
    rcases head_conceal _ _ first with same | same
    · exact notUnderscore same
    · exact outside.2 (Option.some.inj same)
  | case3 char rest plain ih =>
    have same : conceal hidden (char :: rest) = char :: conceal hidden rest := by
      rw [conceal]
      exact plain
    rw [same, replaceAll_literally_pass, ih]
    intro starts
    obtain ⟨rfl, behind⟩ := List.cons_prefix_cons.mp starts
    cases rest with
    | nil => exact absurd behind (by simp [conceal])
    | cons next more => exact plain next more rfl rfl
  | case4 => rfl

private theorem hideEscapes_eq (pattern : List Char) : hideEscapes pattern = conceal specialChars pattern := by
  have start := @replaceAll_conceal [] '*' (by decide) pattern
  rw [conceal_nil] at start
  simp only [hideEscapes, specialChars, List.foldl_cons, List.foldl_nil, start]
  rw [replaceAll_conceal (by decide), replaceAll_conceal (by decide), replaceAll_conceal (by decide)]
  rfl

end Escapes

section Stages

variable {done shown rest : List Char} {special char : Char}

def wildcard (done : List Char) (char : Char) : List Char :=
  if char ∈ done ∧ char = '*' then ['.', '*'] else if char ∈ done ∧ char = '?' then ['.'] else [char]

def escape (shown : List Char) (special : Char) : List Char :=
  if special ∈ shown then ['\\', special] else placeholder special

/-- A text on the way to the regular expression: some of the wildcards are rewritten, and some of
the escaped characters are shown again. -/
def stage (done shown : List Char) : List Char → List Char
  | '\\' :: char :: rest =>
      if char ∈ specialChars then escape shown char ++ stage done shown rest else '\\' :: stage done shown (char :: rest)
  | '[' :: '!' :: ']' :: rest => '[' :: (if '[' ∈ done then '^' else '!') :: ']' :: stage done shown rest
  | char :: rest => wildcard done char ++ stage done shown rest
  | [] => []

/-- A character with which neither an escape nor the class of an exclamation mark begins. -/
structure Loose (char : Char) (rest : List Char) : Prop where
  escape : char = '\\' → ∀ next ∈ rest.head?, next ∉ specialChars
  bang : ¬ ['[', '!', ']'] <+: char :: rest

theorem stage_escaped (listed : special ∈ specialChars) :
    stage done shown ('\\' :: special :: rest) = escape shown special ++ stage done shown rest := by
  rw [stage, if_pos listed]

theorem stage_bang : stage done shown ('[' :: '!' :: ']' :: rest) =
    '[' :: (if '[' ∈ done then '^' else '!') :: ']' :: stage done shown rest := by
  rw [stage]

theorem wildcard_of_not_mem (absent : char ∉ done) : wildcard done char = [char] := by simp [wildcard, absent]

theorem wildcard_cases (done : List Char) (char : Char) : (char = '*' ∧ wildcard done char = ['.', '*']) ∨
    (char = '?' ∧ wildcard done char = ['.']) ∨ wildcard done char = [char] := by
  unfold wildcard
  split_ifs with star any
  · exact .inl ⟨star.2, rfl⟩
  · exact .inr (.inl ⟨any.2, rfl⟩)
  · exact .inr (.inr rfl)

theorem stage_loose (loose : Loose char rest) :
    stage done shown (char :: rest) = wildcard done char ++ stage done shown rest := by
  by_cases backslash : char = '\\'
  · subst backslash
    cases rest with
    | nil => rfl
    | cons next more =>
      have other : next ∉ specialChars := loose.escape rfl next rfl
      rw [stage, if_neg other]
      simp [wildcard]
  · rw [stage]
    · exact fun next more same => absurd same backslash
    · rintro more rfl rfl
      exact loose.bang ⟨more, rfl⟩

/-- A text begins with an escape, the class of an exclamation mark, or another character. -/
theorem pattern_induction {motive : List Char → Prop} (nil : motive [])
    (escaped : ∀ special rest, special ∈ specialChars → motive rest → motive ('\\' :: special :: rest))
    (bang : ∀ rest, motive rest → motive ('[' :: '!' :: ']' :: rest))
    (loose : ∀ char rest, Loose char rest → motive rest → motive (char :: rest)) (text : List Char) : motive text := by
  fun_induction stage [] [] text with
  | case1 char rest listed ih => exact escaped char rest listed ih
  | case2 char rest other ih => exact loose _ _ ⟨fun _ => by simpa using other, by simp⟩ ih
  | case3 rest ih => exact bang rest ih
  | case4 char rest noEscape noBang ih =>
    refine loose char rest ⟨?_, ?_⟩ ih
    · rintro rfl next found
      cases rest with
      | nil => cases found
      | cons head more => exact absurd rfl (noEscape head more rfl)
    · rintro ⟨more, same⟩
      cases same
      exact noBang more rfl rfl
  | case5 => exact nil

private theorem conceal_eq_stage (text : List Char) : conceal specialChars text = stage [] [] text := by
  induction text using pattern_induction with
  | nil => rfl
  | escaped special rest listed ih =>
    rw [conceal_escaped, if_pos listed, stage_escaped listed, ih]
    rfl
  | bang rest ih =>
    rw [conceal_char (by decide), conceal_char (by decide), conceal_char (by decide), ih, stage_bang]
    rfl
  | loose char rest loose ih =>
    have same : conceal specialChars (char :: rest) = char :: conceal specialChars rest := by
      by_cases backslash : char = '\\'
      · subst backslash
        cases rest with
        | nil => rfl
        | cons next more => rw [conceal_escaped, if_neg (loose.escape rfl next rfl)]
      · exact conceal_char backslash
    rw [same, ih, stage_loose loose]
    rfl

/-- The first character is one of a placeholder, of an escape or of a wildcard, or it is that of the text. -/
theorem head_stage (text : List Char) :
    ∀ first ∈ (stage done shown text).head?, first ∈ ['_', '\\', '.'] ∨ text.head? = some first := by
  intro first found
  cases text using pattern_induction with
  | nil => cases found
  | escaped special rest listed =>
    rw [stage_escaped listed, escape] at found
    split at found
    · exact .inl (Option.some.inj found ▸ by decide)
    · exact .inl (Option.some.inj found ▸ by decide)
  | bang rest =>
    rw [stage_bang] at found
    exact .inr found
  | loose char rest loose =>
    rw [stage_loose loose, wildcard] at found
    split_ifs at found
    · exact .inl (Option.some.inj found ▸ by decide)
    · exact .inl (Option.some.inj found ▸ by decide)
    · exact .inr found

/-- Nothing is left that is escaped. -/
theorem replaceAll_escapedSpecial (text : List Char) :
    replaceAll escapedSpecial (stage [] [] text) = stage [] [] text := by
  have missed : ∀ (char : Char) behind rest, char ≠ '\\' → escapedSpecial behind (char :: rest) = none := by
    intro char behind rest other
    unfold escapedSpecial
    split
    · next same => exact absurd (List.cons.inj same).1 other
    · rfl
  have pass : ∀ behind, replaceFrom escapedSpecial 0 behind (stage [] [] text) = stage [] [] text := by
    induction text using pattern_induction with
    | nil => exact fun _ => rfl
    | escaped special rest listed ih =>
      intro behind
      have block : escape [] special = '_' :: '_' :: escapedName special ++ ['_'] ++ ['_'] := by
        simp [escape, placeholder]
      rw [stage_escaped listed, block, List.append_assoc, List.singleton_append, replaceFrom_block, ih]
      intro char member
      rw [← block] at member
      exact fun behind rest => missed char behind rest (placeholder_chars member).1
    | bang rest ih =>
      intro behind
      rw [stage_bang, replaceFrom_pass (missed _ _ _ (by decide)), replaceFrom_pass (missed _ _ _ (by decide)),
        replaceFrom_pass (missed _ _ _ (by decide)), ih]
    | loose char rest loose ih =>
      intro behind
      rw [stage_loose loose, wildcard_of_not_mem List.not_mem_nil, List.singleton_append, replaceFrom_pass, ih]
      by_cases backslash : char = '\\'
      · subst backslash
        unfold escapedSpecial
        split
        · next special more same =>
          have first : special ∈ (stage [] [] rest).head? := by simp [(List.cons.inj same).2]
          refine if_neg fun listed => ?_
          rcases head_stage rest special first with mark | next
          · simp only [List.mem_cons, List.not_mem_nil, or_false] at mark
            rcases mark with rfl | rfl | rfl <;> exact absurd listed (by decide)
          · exact loose.escape rfl special next listed
        · rfl
      · exact missed _ _ _ backslash
  exact pass none

/-- Classes are replaced by themselves. -/
theorem replaceAll_bracketed (text : List Char) : replaceAll bracketed text = text := by
  apply replaceAll_self
  intro tail ends behind length replacement found
  unfold bracketed at found
  split at found
  · next rest =>
    dsimp only at found
    split at found
    · next closed =>
      obtain ⟨rfl, rfl⟩ := Prod.mk.inj (Option.some.inj found)
      generalize same : rest.takeWhile (fun char => char != ']' && char != '\\') = inner at closed
      have inner_prefix : inner <+: rest := same ▸ List.takeWhile_prefix _
      obtain ⟨behind, rfl⟩ := inner_prefix
      rw [List.drop_left] at closed
      obtain ⟨more, rfl⟩ := List.head?_eq_some_iff.mp closed.2
      refine ⟨Nat.succ_pos _, ?_⟩
      simp [List.take_length_add_append]
    · cases found
  · cases found

/-- A placeholder is passed by every search for one of the special characters. -/
theorem replaceFrom_placeholder {first : Char} (isSpecial : first ∈ specialChars) (needle replacement : List Char)
    (behind : Option Char) (escaped : Char) (rest : List Char) :
    replaceFrom (unescaped (first :: needle) replacement) 0 behind (escape [] escaped ++ rest) =
      escape [] escaped ++ replaceFrom (unescaped (first :: needle) replacement) 0 (some '_') rest := by
  have block : escape [] escaped = '_' :: '_' :: escapedName escaped ++ ['_'] ++ ['_'] := by
    simp [escape, placeholder]
  rw [block, List.append_assoc, List.singleton_append, replaceFrom_block]
  · simp
  · intro char member behind rest
    rw [← block] at member
    exact unescaped_eq_none fun same => (placeholder_chars member).2.1 (same ▸ isSpecial)

/-- One more wildcard is rewritten where no backslash stands in front. -/
theorem replaceFrom_wildcard (listed : special ∈ ['*', '?']) (fresh : special ∉ done) (text : List Char) :
    ∀ behind, (behind = some '\\' → ∀ next ∈ text.head?, next ∉ specialChars) →
      replaceFrom (unescaped [special] (wildcard [special] special)) 0 behind (stage done [] text) =
        stage (done ++ [special]) [] text := by
  have isSpecial : special ∈ specialChars := List.mem_append_left ['[', ']'] listed
  induction text using pattern_induction with
  | nil => exact fun _ _ => rfl
  | escaped escaped rest listed ih =>
    intro behind _
    rw [stage_escaped listed, stage_escaped listed, replaceFrom_placeholder isSpecial,
      ih _ fun same => absurd (Option.some.inj same) (by decide)]
  | bang rest ih =>
    intro behind _
    have other : '[' ≠ special ∧ '^' ≠ special ∧ '!' ≠ special ∧ ']' ≠ special := by
      simp only [List.mem_cons, List.not_mem_nil, or_false] at listed
      rcases listed with rfl | rfl <;> decide
    have middle : (if '[' ∈ done ++ [special] then '^' else '!') = if '[' ∈ done then '^' else '!' := by
      simp [other.1]
    have middle_ne : (if '[' ∈ done then '^' else '!') ≠ special := by
      split
      · exact other.2.1
      · exact other.2.2.1
    rw [stage_bang, stage_bang, replaceFrom_unescaped_pass other.1, replaceFrom_unescaped_pass middle_ne,
      replaceFrom_unescaped_pass other.2.2.2, ih _ (fun same => absurd (Option.some.inj same) (by decide)), middle]
  | loose char rest loose ih =>
    intro behind sheltered
    rw [stage_loose loose, stage_loose loose]
    by_cases here : char = special
    · subst here
      have found : unescaped [char] (wildcard [char] char) behind ([] ++ char :: stage done [] rest) =
          some (1, wildcard [char] char) := by
        refine if_pos ⟨fun backslash => sheltered backslash char rfl isSpecial, ?_⟩
        exact ⟨_, rfl⟩
      have written : wildcard (done ++ [char]) char = wildcard [char] char := by simp [wildcard]
      rw [wildcard_of_not_mem fresh, List.singleton_append, written]
      refine (replaceFrom_match found).trans (congrArg _ (ih _ fun same => ?_))
      rw [Option.some.inj same] at isSpecial
      exact absurd isSpecial (by decide)
    · have same : wildcard (done ++ [special]) char = wildcard done char := by simp [wildcard, here]
      have dot : '.' ≠ special := by
        rintro rfl
        exact absurd isSpecial (by decide)
      rw [same]
      rcases wildcard_cases done char with ⟨rfl, written⟩ | ⟨rfl, written⟩ | written
      · rw [written]
        change replaceFrom _ 0 behind ('.' :: '*' :: stage done [] rest) = '.' :: '*' :: _
        rw [replaceFrom_unescaped_pass dot, replaceFrom_unescaped_pass here,
          ih _ fun same => absurd (Option.some.inj same) (by decide)]
        rfl
      · rw [written]
        change replaceFrom _ 0 behind ('.' :: stage done [] rest) = '.' :: _
        rw [replaceFrom_unescaped_pass dot, ih _ fun same => absurd (Option.some.inj same) (by decide)]
        rfl
      · rw [written]
        change replaceFrom _ 0 behind (char :: stage done [] rest) = char :: _
        rw [replaceFrom_unescaped_pass here, ih _ fun same => loose.escape (Option.some.inj same)]
        rfl

/-- A word that no placeholder, escape or wildcard has a part of. -/
structure Solid (word : List Char) : Prop where
  chars : ∀ char ∈ word, char ∉ ['\\', '.', '[']
  noPair : ¬ ['_', '_'] <:+: word
  last : word.getLast? ≠ some '_'

/-- Whether a word is solid. -/
def isSolid (word : List Char) : Bool :=
  word.all (fun char => char != '\\' && char != '.' && char != '[') &&
    word.tails.all (fun tail => !(['_', '_'].isPrefixOf tail)) && word.getLast? != some '_'

private theorem solid_of_isSolid {word : List Char} (checked : isSolid word = true) : Solid word := by
  simp only [isSolid, Bool.and_eq_true, List.all_eq_true, bne_iff_ne, Bool.not_eq_true'] at checked
  obtain ⟨⟨chars, noPair⟩, last⟩ := checked
  refine ⟨fun char member => by simpa [and_assoc] using chars char member, ?_, last⟩
  rintro ⟨before, after, same⟩
  have ends : ['_', '_'] ++ after ∈ word.tails :=
    (List.mem_tails _ _).mpr ⟨before, (List.append_assoc _ _ _).symm.trans same⟩
  have starts : ['_', '_'].isPrefixOf (['_', '_'] ++ after) = true := List.isPrefixOf_iff_prefix.mpr (List.prefix_append _ _)
  exact absurd starts (by rw [noPair _ ends]; decide)

theorem Solid.tail {word : List Char} (solid : Solid (char :: word)) : Solid word where
  chars := fun other member => solid.chars other (List.mem_cons_of_mem _ member)
  noPair := fun pair => solid.noPair (pair.trans (List.suffix_cons _ _).isInfix)
  last := by
    intro last
    refine solid.last ?_
    rw [List.getLast?_cons, last]
    rfl

/-- A word is found in a stage only where it is in the text. -/
theorem prefix_of_stage {word : List Char} (solid : Solid word) (starts : word <+: stage done shown rest) :
    word <+: rest := by
  induction word generalizing rest with
  | nil => exact List.nil_prefix
  | cons first word ih =>
    have letter := solid.chars first List.mem_cons_self
    cases rest using pattern_induction with
    | nil => exact absurd starts (by simp [stage])
    | escaped special rest listed =>
      rw [stage_escaped listed, escape] at starts
      split at starts
      · exact absurd (List.cons_prefix_cons.mp starts).1 (by grind)
      · obtain ⟨rfl, behind⟩ := List.cons_prefix_cons.mp starts
        cases word with
        | nil => exact absurd rfl solid.last
        | cons second word =>
          obtain ⟨rfl, -⟩ := List.cons_prefix_cons.mp behind
          exact absurd ⟨[], word, rfl⟩ solid.noPair
    | bang rest =>
      rw [stage_bang] at starts
      exact absurd (List.cons_prefix_cons.mp starts).1 (by grind)
    | loose char rest loose =>
      rw [stage_loose loose] at starts
      rcases wildcard_cases done char with ⟨-, written⟩ | ⟨-, written⟩ | written
      · rw [written] at starts
        exact absurd (List.cons_prefix_cons.mp starts).1 (by grind)
      · rw [written] at starts
        exact absurd (List.cons_prefix_cons.mp starts).1 (by grind)
      · rw [written] at starts
        obtain ⟨rfl, behind⟩ := List.cons_prefix_cons.mp starts
        exact List.cons_prefix_cons.mpr ⟨rfl, ih solid.tail behind⟩

/-- The class of an exclamation mark becomes one that matches everything. -/
theorem replaceFrom_bang (fresh : '[' ∉ done) (text : List Char) :
    ∀ behind, (behind = some '\\' → ∀ next ∈ text.head?, next ∉ specialChars) →
      replaceFrom (unescaped ['[', '!', ']'] ['[', '^', ']']) 0 behind (stage done [] text) =
        stage (done ++ ['[']) [] text := by
  induction text using pattern_induction with
  | nil => exact fun _ _ => rfl
  | escaped escaped rest listed ih =>
    intro behind _
    rw [stage_escaped listed, stage_escaped listed, replaceFrom_placeholder (by decide),
      ih _ fun same => absurd (Option.some.inj same) (by decide)]
  | bang rest ih =>
    intro behind sheltered
    have found : unescaped ['[', '!', ']'] ['[', '^', ']'] behind (['[', '!'] ++ ']' :: stage done [] rest) =
        some (3, ['[', '^', ']']) := by
      refine if_pos ⟨fun backslash => sheltered backslash '[' rfl (by decide), ?_⟩
      exact ⟨_, rfl⟩
    rw [stage_bang, stage_bang, if_neg fresh, if_pos (by simp)]
    exact (replaceFrom_match found).trans (congrArg _ (ih _ fun same => absurd (Option.some.inj same) (by decide)))
  | loose char rest loose ih =>
    intro behind sheltered
    rw [stage_loose loose, stage_loose loose]
    have same : wildcard (done ++ ['[']) char = wildcard done char := by
      simp only [wildcard]
      grind
    rw [same]
    rcases wildcard_cases done char with ⟨rfl, written⟩ | ⟨rfl, written⟩ | written
    · rw [written]
      change replaceFrom _ 0 behind ('.' :: '*' :: stage done [] rest) = '.' :: '*' :: _
      rw [replaceFrom_unescaped_pass (by decide), replaceFrom_unescaped_pass (by decide),
        ih _ fun same => absurd (Option.some.inj same) (by decide)]
      rfl
    · rw [written]
      change replaceFrom _ 0 behind ('.' :: stage done [] rest) = '.' :: _
      rw [replaceFrom_unescaped_pass (by decide), ih _ fun same => absurd (Option.some.inj same) (by decide)]
      rfl
    · rw [written]
      change replaceFrom _ 0 behind (char :: stage done [] rest) = char :: _
      rw [replaceFrom_pass, ih _ fun same => loose.escape (Option.some.inj same)]
      · rfl
      · refine if_neg fun found => loose.bang ?_
        obtain ⟨first, behind⟩ := List.cons_prefix_cons.mp found.2
        exact List.cons_prefix_cons.mpr ⟨first, prefix_of_stage (solid_of_isSolid (by decide)) behind⟩

private theorem rewriteWildcards_eq (text : List Char) :
    rewriteWildcards (stage [] [] text) = stage ['*', '?', '['] [] text := by
  have none : ∀ {first : List Char}, (none : Option Char) = some '\\' → ∀ next ∈ first.head?, next ∉ specialChars :=
    fun same => nomatch same
  have star := @replaceFrom_wildcard [] '*' (by decide) (by decide) text _ none
  have any := @replaceFrom_wildcard ['*'] '?' (by decide) (by decide) text _ none
  have bang := @replaceFrom_bang ['*', '?'] (by decide) text _ none
  rw [rewriteWildcards, replaceAll_escapedSpecial, replaceAll_bracketed]
  simp only [replaceAll]
  exact (congrArg _ ((congrArg _ star).trans any)).trans bang

/-- The placeholder is read at the start of a text with hidden escapes. -/
def reads (special : Char) (before : List Char) (shown rest : List Char) : Bool :=
  (placeholder special).isPrefixOf (before ++ stage [] shown rest)

/-- While the escapes of a character are shown again, after others, its placeholder is read where it
was not put: where a character of the pattern stands, or with the end of another placeholder. -/
def mistakes (special : Char) (shown : List Char) : List Char → Bool
  | '\\' :: char :: rest =>
      if char ∈ specialChars then
        (char ∉ shown && char != special && (reads special ['_'] shown rest || reads special ['_', '_'] shown rest)) ||
          mistakes special shown rest
      else mistakes special shown (char :: rest)
  | char :: rest => reads special [char] shown rest || mistakes special shown rest
  | [] => false

/-- Something in the pattern is taken for a placeholder. -/
def mistaken (pattern : List Char) : Bool :=
  mistakes '*' [] pattern || mistakes '?' ['*'] pattern || mistakes '[' ['*', '?'] pattern ||
    mistakes ']' ['*', '?', '['] pattern

example : mistaken "ESCAPED_STAR".toList = false ∧ mistaken "__ESCAPED_STAR__".toList = true ∧
    mistaken "\\*ESCAPED_QUESTION__".toList = false ∧ mistaken "\\?ESCAPED_STAR__".toList = true := by
  decide +kernel

private theorem mistakes_escaped (listed : special ∈ specialChars) {other : Char} (apart : special ∉ shown)
    (differs : special ≠ other)
    (never : mistakes other shown ('\\' :: special :: rest) = false) :
    reads other ['_'] shown rest = false ∧ reads other ['_', '_'] shown rest = false := by
  simp only [mistakes, if_pos listed, apart, Bool.or_eq_false_iff, Bool.and_eq_false_iff] at never
  simpa [differs] using never.1

private theorem mistakes_of_escaped {other : Char} (listed : special ∈ specialChars)
    (never : mistakes other shown ('\\' :: special :: rest) = false) : mistakes other shown rest = false := by
  rw [mistakes, if_pos listed, Bool.or_eq_false_iff] at never
  exact never.2

theorem mistakes_char (plain : char ≠ '\\') :
    mistakes special shown (char :: rest) = (reads special [char] shown rest || mistakes special shown rest) := by
  rw [mistakes]
  exact fun next more same => absurd same plain

private theorem mistakes_loose (loose : Loose char rest) (never : mistakes special shown (char :: rest) = false) :
    mistakes special shown rest = false ∧ (char = '_' → reads special ['_'] shown rest = false) := by
  by_cases backslash : char = '\\'
  · subst backslash
    refine ⟨?_, fun same => absurd same (by decide)⟩
    cases rest with
    | nil => rfl
    | cons next more =>
      rwa [mistakes, if_neg (loose.escape rfl next rfl)] at never
  · rw [mistakes_char backslash, Bool.or_eq_false_iff] at never
    exact ⟨never.2, fun same => same ▸ never.1⟩

theorem prefix_append_congr {block first second word : List Char}
    (same : ∀ tail, tail <:+ word → (tail <+: first ↔ tail <+: second)) :
    word <+: block ++ first ↔ word <+: block ++ second := by
  induction block generalizing word with
  | nil => exact same word List.suffix_rfl
  | cons char block ih =>
    cases word with
    | nil => simp
    | cons letter word =>
      rw [List.cons_append, List.cons_append, List.cons_prefix_cons, List.cons_prefix_cons,
        ih fun tail ends => same tail (ends.trans (List.suffix_cons _ _))]

/-- No rewriting of wildcards makes or breaks a word. -/
theorem prefix_stage_iff {word : List Char} (letters : ∀ char ∈ word, char ≠ '\\' ∧ char ∉ specialChars ∧ char ≠ '.') :
    word <+: stage done shown rest ↔ word <+: stage [] shown rest := by
  induction rest using pattern_induction generalizing word with
  | nil => exact Iff.rfl
  | escaped special rest listed ih =>
    rw [stage_escaped listed, stage_escaped listed]
    exact prefix_append_congr fun tail ends => ih fun char member => letters char (ends.subset member)
  | bang rest ih =>
    cases word with
    | nil => simp
    | cons first word =>
      have other : first ≠ '[' := fun same => (letters first List.mem_cons_self).2.1 (same ▸ by decide)
      rw [stage_bang, stage_bang, List.cons_prefix_cons, List.cons_prefix_cons]
      exact iff_of_false (fun starts => other starts.1) fun starts => other starts.1
  | loose char rest loose ih =>
    rw [stage_loose loose, stage_loose loose, wildcard_of_not_mem List.not_mem_nil]
    have kept := @prefix_append_congr [char] _ _ word fun tail ends =>
      ih fun char member => letters char (ends.subset member)
    cases word with
    | nil => simp
    | cons first word =>
      obtain ⟨-, unlisted, noDot⟩ := letters first List.mem_cons_self
      rcases wildcard_cases done char with ⟨rfl, written⟩ | ⟨rfl, written⟩ | written
      · rw [written]
        exact iff_of_false (fun starts => noDot (List.cons_prefix_cons.mp starts).1)
          fun starts => unlisted ((List.cons_prefix_cons.mp starts).1 ▸ by decide)
      · rw [written]
        exact iff_of_false (fun starts => noDot (List.cons_prefix_cons.mp starts).1)
          fun starts => unlisted ((List.cons_prefix_cons.mp starts).1 ▸ by decide)
      · rw [written]
        exact kept

theorem not_prefix_of_reads {before : List Char} (never : reads special before shown rest = false) :
    ¬ placeholder special <+: before ++ stage done shown rest := by
  have same : placeholder special <+: before ++ stage done shown rest ↔
      placeholder special <+: before ++ stage [] shown rest :=
    prefix_append_congr fun tail ends => prefix_stage_iff fun char member => placeholder_chars (ends.subset member)
  rw [same, ← List.isPrefixOf_iff_prefix]
  exact Bool.eq_false_iff.mp never

/-- No other placeholder begins inside of one. -/
theorem no_placeholder_inside {other : Char} (listed : special ∈ specialChars) (listedToo : other ∈ specialChars)
    (differs : other ≠ special) (one : reads special ['_'] shown rest = false)
    (two : reads special ['_', '_'] shown rest = false) {tail : List Char} (ends : tail <:+ placeholder other)
    (notEmpty : tail ≠ []) : ¬ placeholder special <+: tail ++ stage done shown rest := by
  have checked : (specialChars.all fun special => specialChars.all fun other => (placeholder other).tails.all fun tail =>
      decide (other ≠ special → tail = [] ∨ tail = ['_'] ∨ tail = ['_', '_'] ∨
        ¬ placeholder special <+: tail ∧ ¬ tail <+: placeholder special)) = true := by
    decide
  have forms := of_decide_eq_true (List.all_eq_true.mp (List.all_eq_true.mp (List.all_eq_true.mp checked special listed)
    other listedToo) tail ((List.mem_tails _ _).mpr ends)) differs
  rcases forms with rfl | rfl | rfl | ⟨short, long⟩
  · exact absurd rfl notEmpty
  · exact not_prefix_of_reads one
  · exact not_prefix_of_reads two
  · intro starts
    rcases List.prefix_or_prefix_of_prefix starts (List.prefix_append tail _) with first | second
    · exact short first
    · exact long second

/-- One more special character is shown again. -/
theorem replaceAll_stage (listed : special ∈ specialChars) (fresh : special ∉ shown) (text : List Char)
    (never : mistakes special shown text = false) :
    replaceAll (literally (placeholder special) ['\\', special]) (stage done shown text) =
      stage done (shown ++ [special]) text := by
  have pass : ∀ {char : Char} {text : List Char}, char ≠ '_' →
      replaceAll (literally (placeholder special) ['\\', special]) (char :: text) =
        char :: replaceAll (literally (placeholder special) ['\\', special]) text :=
    fun other => replaceAll_literally_pass fun starts => other (List.cons_prefix_cons.mp starts).1.symm
  induction text using pattern_induction with
  | nil => rfl
  | escaped escaped rest listedToo ih =>
    have later := ih (mistakes_of_escaped listedToo never)
    rw [stage_escaped listedToo, stage_escaped listedToo]
    by_cases same : escaped = special
    · subst same
      have hidden : escape shown escaped = placeholder escaped := if_neg fresh
      have written : escape (shown ++ [escaped]) escaped = ['\\', escaped] := if_pos (by simp)
      have notEmpty : placeholder escaped ≠ [] := List.cons_ne_nil _ _
      rw [hidden, written, replaceAll_literally_match notEmpty, later]
    · have unchanged : escape (shown ++ [special]) escaped = escape shown escaped := by simp [escape, same]
      rw [unchanged]
      by_cases inside : escaped ∈ shown
      · have underscore : escaped ≠ '_' := by
          rintro rfl
          exact absurd listedToo (by decide)
        have written : escape shown escaped = ['\\', escaped] := if_pos inside
        rw [written]
        change replaceAll _ ('\\' :: escaped :: stage done shown rest) = '\\' :: escaped :: _
        rw [pass (by decide), pass underscore, later]
        rfl
      · have hidden : escape shown escaped = placeholder escaped := if_neg inside
        obtain ⟨one, two⟩ := mistakes_escaped listedToo inside same never
        rw [hidden, replaceAll_literally_block, later]
        exact fun tail ends notEmpty => no_placeholder_inside listed listedToo same one two ends notEmpty
  | bang rest ih =>
    rw [mistakes_char (by decide), mistakes_char (by decide), mistakes_char (by decide)] at never
    simp only [Bool.or_eq_false_iff] at never
    have later := ih never.2.2.2
    have middle : (if '[' ∈ done then '^' else '!') ≠ '_' := by split <;> decide
    rw [stage_bang, stage_bang, pass (by decide), pass middle, pass (by decide), later]
  | loose char rest loose ih =>
    obtain ⟨behind, notHere⟩ := mistakes_loose loose never
    have later := ih behind
    rw [stage_loose loose, stage_loose loose]
    rcases wildcard_cases done char with ⟨-, written⟩ | ⟨-, written⟩ | written
    · rw [written]
      change replaceAll _ ('.' :: '*' :: stage done shown rest) = '.' :: '*' :: _
      rw [pass (by decide), pass (by decide), later]
      rfl
    · rw [written]
      change replaceAll _ ('.' :: stage done shown rest) = '.' :: _
      rw [pass (by decide), later]
      rfl
    · rw [written]
      change replaceAll _ (char :: stage done shown rest) = char :: _
      by_cases underscore : char = '_'
      · subst underscore
        have missed : ¬ placeholder special <+: '_' :: stage done shown rest := not_prefix_of_reads (notHere rfl)
        rw [replaceAll_literally_pass missed, later]
        rfl
      · rw [pass underscore, later]
        rfl

/-- All the steps: what is not escaped is rewritten, and the rest stays as it is. -/
theorem regexPattern_eq {pattern : List Char} (never : mistaken pattern = false) :
    regexPattern pattern = stage ['*', '?', '['] specialChars pattern := by
  simp only [mistaken, Bool.or_eq_false_iff] at never
  obtain ⟨⟨⟨star, any⟩, opening⟩, closing⟩ := never
  rw [regexPattern, hideEscapes_eq, conceal_eq_stage, rewriteWildcards_eq]
  simp only [showEscapes, specialChars, List.foldl_cons, List.foldl_nil]
  rw [replaceAll_stage (by decide) (by decide) _ star, List.nil_append, replaceAll_stage (by decide) (by decide) _ any,
    List.singleton_append, replaceAll_stage (by decide) (by decide) _ opening, List.cons_append, List.cons_append,
    List.nil_append, replaceAll_stage (by decide) (by decide) _ closing]
  rfl

end Stages

end HieroRelay.Cache
