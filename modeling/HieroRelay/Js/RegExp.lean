import HieroRelay.Js.CodeUnits

/-! Regular expressions without flags: the text of a pattern, what it compiles to, and the test
whether it is found in a text. Groups are not captured, and what looks around or back is left out. -/

namespace HieroRelay.Js

/-- Code units from ranges, or the others. -/
structure CharSet where
  negated : Bool
  ranges : List (Nat × Nat)
  deriving Repr, DecidableEq

def CharSet.has (set : CharSet) (unit : Nat) : Bool :=
  (set.ranges.any fun range => range.1 ≤ unit && unit ≤ range.2) != set.negated

def CharSet.unit (unit : Nat) : CharSet := { negated := false, ranges := [(unit, unit)] }

/-- What the dot does not match: `\n`, `\r`, `\u2028` and `\u2029`. -/
def lineTerminators : List (Nat × Nat) := [(10, 10), (13, 13), (0x2028, 0x2029)]

def CharSet.dot : CharSet := { negated := true, ranges := lineTerminators }

inductive Regex where
  | empty
  | chars (set : CharSet)
  | start
  | finish
  | seq (first second : Regex)
  | alt (first second : Regex)
  | repeated (body : Regex) (least : Nat) (most : Option Nat)
  deriving Repr, DecidableEq

namespace Regex

/-- The rest of a text, and whether it is the whole text. -/
abbrev State := Bool × List Nat

/-- The rests after the repetitions of a step, each of which reads on once the least count is reached. -/
def iterate (step : State → List State) : (fuel least : Nat) → Option Nat → State → List State
  | 0, least, _, state => if least = 0 then [state] else []
  | fuel + 1, 0, most, state =>
      state :: if most = some 0 then [] else
        ((step state).filter fun later => later.2.length < state.2.length).flatMap
          (iterate step fuel 0 (most.map (· - 1)))
  | fuel + 1, least + 1, most, state => (step state).flatMap (iterate step fuel least (most.map (· - 1)))

/-- What may be left behind a match at the start of the rest. -/
def rests : Regex → State → List State
  | empty, state => [state]
  | chars set, (_, unit :: rest) => if set.has unit then [(false, rest)] else []
  | chars _, (_, []) => []
  | start, state => if state.1 then [state] else []
  | finish, state => if state.2 = [] then [state] else []
  | seq first second, state => (first.rests state).flatMap second.rests
  | alt first second, state => first.rests state ++ second.rests state
  | repeated body least most, state => iterate body.rests (least + state.2.length) least most state

/-- Whether a match starts somewhere. -/
def found (regex : Regex) (atStart : Bool) : List Nat → Bool
  | [] => !(regex.rests (atStart, [])).isEmpty
  | unit :: rest => !(regex.rests (atStart, unit :: rest)).isEmpty || regex.found false rest

/-- `regex.test(text)` -/
def test (regex : Regex) (text : String) : Bool := regex.found true (codeUnits text)

end Regex

/-- A pattern that is refused, or one of those that are left out. -/
inductive RegExpFault where
  | syntaxError
  | unsupported
  deriving Repr, DecidableEq

namespace RegExp

def digitRange : Nat × Nat := ('0'.toNat, '9'.toNat)

def wordRanges : List (Nat × Nat) :=
  [('a'.toNat, 'z'.toNat), ('A'.toNat, 'Z'.toNat), digitRange, ('_'.toNat, '_'.toNat)]

def spaceRanges : List (Nat × Nat) :=
  [(9, 13), (0x20, 0x20), (0xA0, 0xA0), (0x1680, 0x1680), (0x2000, 0x200A), (0x2028, 0x2029), (0x202F, 0x202F),
    (0x205F, 0x205F), (0x3000, 0x3000), (0xFEFF, 0xFEFF)]

/-- The character behind a backslash. -/
def escaped (char : Char) : Except RegExpFault CharSet :=
  match char with
  | 'd' => .ok { negated := false, ranges := [digitRange] }
  | 'D' => .ok { negated := true, ranges := [digitRange] }
  | 'w' => .ok { negated := false, ranges := wordRanges }
  | 'W' => .ok { negated := true, ranges := wordRanges }
  | 's' => .ok { negated := false, ranges := spaceRanges }
  | 'S' => .ok { negated := true, ranges := spaceRanges }
  | 't' => .ok (.unit 9)
  | 'n' => .ok (.unit 10)
  | 'v' => .ok (.unit 11)
  | 'f' => .ok (.unit 12)
  | 'r' => .ok (.unit 13)
  | char =>
      if char.isDigit || char ∈ ['b', 'B', 'c', 'u', 'x'] || 0x10000 ≤ char.toNat then .error .unsupported
      else .ok (.unit char.toNat)

/-- One character of a class. -/
def classAtom : List Char → Except RegExpFault (CharSet × List Char)
  | '\\' :: char :: rest => do return (← escaped char, rest)
  | ['\\'] => .error .syntaxError
  | char :: rest => if 0x10000 ≤ char.toNat then .error .unsupported else .ok (.unit char.toNat, rest)
  | [] => .error .syntaxError

/-- The range between two characters, each of which must be a single one. -/
def rangeBetween : CharSet → CharSet → Except RegExpFault (Nat × Nat)
  | ⟨false, [(first, last)]⟩, ⟨false, [(lowest, highest)]⟩ =>
      if first ≠ last || lowest ≠ highest then .error .unsupported
      else if highest < first then .error .syntaxError
      else .ok (first, highest)
  | _, _ => .error .unsupported

/-- What a character of a class, that is no complement, adds to it. -/
def plainRanges : CharSet → Except RegExpFault (List (Nat × Nat))
  | ⟨false, ranges⟩ => .ok ranges
  | ⟨true, _⟩ => .error .unsupported

/-- The rest of a class after its bracket and its circumflex. -/
def classItems : (fuel : Nat) → List Char → Except RegExpFault (List (Nat × Nat) × List Char)
  | 0, _ => .error .unsupported
  | _ + 1, ']' :: rest => .ok ([], rest)
  | fuel + 1, text => do
      let (first, rest) ← classAtom text
      match rest with
      | '-' :: ']' :: after => return ((← plainRanges first) ++ [('-'.toNat, '-'.toNat)], after)
      | '-' :: rest =>
          let (second, rest) ← classAtom rest
          let range ← rangeBetween first second
          let (ranges, rest) ← classItems fuel rest
          return (range :: ranges, rest)
      | rest =>
          let ranges ← plainRanges first
          let (others, rest) ← classItems fuel rest
          return (ranges ++ others, rest)

def characterClass : List Char → Except RegExpFault (CharSet × List Char)
  | '^' :: rest => do
      let (ranges, rest) ← classItems (rest.length + 1) rest
      return ({ negated := true, ranges }, rest)
  | rest => do
      let (ranges, rest) ← classItems (rest.length + 1) rest
      return ({ negated := false, ranges }, rest)

def decimal (digits : List Char) : Nat := digits.foldl (fun value digit => 10 * value + (digit.toNat - '0'.toNat)) 0

/-- The bounds between braces, where they are the ones of a repetition. -/
def bounds (text : List Char) : Option (Nat × Option Nat × List Char) :=
  let digits := text.takeWhile Char.isDigit
  if digits = [] then none
  else
    match text.dropWhile Char.isDigit with
    | '}' :: rest => some (decimal digits, some (decimal digits), rest)
    | ',' :: '}' :: rest => some (decimal digits, none, rest)
    | ',' :: rest =>
        let others := rest.takeWhile Char.isDigit
        match others, rest.dropWhile Char.isDigit with
        | _ :: _, '}' :: rest => some (decimal digits, some (decimal others), rest)
        | _, _ => none
    | _ => none

/-- A repetition is also found if it prefers fewer. -/
def dropLazy : List Char → List Char
  | '?' :: rest => rest
  | rest => rest

/-- The repetition that follows an atom. -/
def quantified (atom : Regex) : List Char → Except RegExpFault (Regex × List Char)
  | '*' :: rest => .ok (.repeated atom 0 none, dropLazy rest)
  | '+' :: rest => .ok (.repeated atom 1 none, dropLazy rest)
  | '?' :: rest => .ok (.repeated atom 0 (some 1), dropLazy rest)
  | '{' :: rest =>
      match bounds rest with
      | some (least, most, after) =>
          if most.any (· < least) then .error .syntaxError else .ok (.repeated atom least most, dropLazy after)
      | none => .ok (atom, '{' :: rest)
  | rest => .ok (atom, rest)

/-- A character that stands for itself; of the two units of one beyond the basic plane the
second is repeated. -/
def literal (char : Char) (rest : List Char) : Except RegExpFault (Regex × List Char) :=
  match unitsOf char with
  | [high, low] => do
      let (second, rest) ← quantified (.chars (.unit low)) rest
      return (.seq (.chars (.unit high)) second, rest)
  | _ => quantified (.chars (.unit char.toNat)) rest

mutual

def disjunction : (fuel : Nat) → List Char → Except RegExpFault (Regex × List Char)
  | 0, _ => .error .unsupported
  | fuel + 1, text => do
      let (first, rest) ← alternative fuel text
      match rest with
      | '|' :: rest =>
          let (second, rest) ← disjunction fuel rest
          return (.alt first second, rest)
      | rest => return (first, rest)

def alternative : (fuel : Nat) → List Char → Except RegExpFault (Regex × List Char)
  | 0, _ => .error .unsupported
  | fuel + 1, text =>
      match text with
      | [] | '|' :: _ | ')' :: _ => .ok (.empty, text)
      | text => do
          let (first, rest) ← term fuel text
          let (second, rest) ← alternative fuel rest
          return (.seq first second, rest)

def term : (fuel : Nat) → List Char → Except RegExpFault (Regex × List Char)
  | 0, _ => .error .unsupported
  | fuel + 1, text =>
      match text with
      | '^' :: rest => .ok (.start, rest)
      | '$' :: rest => .ok (.finish, rest)
      | '.' :: rest => quantified (.chars .dot) rest
      | '\\' :: char :: rest => do quantified (.chars (← escaped char)) rest
      | ['\\'] => .error .syntaxError
      | '[' :: rest => do
          let (set, rest) ← characterClass rest
          quantified (.chars set) rest
      | '(' :: '?' :: ':' :: rest => group fuel rest
      | '(' :: '?' :: _ => .error .unsupported
      | '(' :: rest => group fuel rest
      | '*' :: _ | '+' :: _ | '?' :: _ => .error .syntaxError
      | '{' :: rest => if (bounds rest).isSome then .error .syntaxError else literal '{' rest
      | char :: rest => literal char rest
      | [] => .error .syntaxError

def group : (fuel : Nat) → List Char → Except RegExpFault (Regex × List Char)
  | 0, _ => .error .unsupported
  | fuel + 1, text => do
      let (body, rest) ← disjunction fuel text
      match rest with
      | ')' :: rest => quantified body rest
      | _ => .error .syntaxError

end

/-- `new RegExp(pattern)` -/
def new (pattern : List Char) : Except RegExpFault Regex := do
  let (regex, rest) ← disjunction (4 * pattern.length + 4) pattern
  if rest = [] then return regex else throw .syntaxError

/-- `new RegExp(pattern).test(text)`, of a pattern that compiles. -/
def testPattern (pattern text : String) : Bool :=
  match new pattern.toList with
  | .ok regex => regex.test text
  | .error _ => false

end RegExp

/-! What is left behind a match, by the form of the expression. -/

namespace Regex

variable {first second regex : Regex} {set : CharSet} {state later : State} {atStart : Bool} {text : List Nat}

@[simp] theorem rests_empty : empty.rests state = [state] := rfl

@[simp] theorem mem_rests_seq :
    later ∈ (seq first second).rests state ↔ ∃ middle ∈ first.rests state, later ∈ second.rests middle := by
  rw [rests, List.mem_flatMap]

@[simp] theorem mem_rests_alt :
    later ∈ (alt first second).rests state ↔ later ∈ first.rests state ∨ later ∈ second.rests state := by
  rw [rests, List.mem_append]

@[simp] theorem mem_rests_start : later ∈ start.rests state ↔ state.1 = true ∧ later = state := by
  rw [rests]
  split
  · next begins => simp [begins]
  · next inside => simp [inside]

@[simp] theorem mem_rests_finish : later ∈ finish.rests state ↔ state.2 = [] ∧ later = state := by
  rw [rests]
  split
  · next ended => simp [ended]
  · next more => simp [more]

@[simp] theorem mem_rests_chars :
    later ∈ (chars set).rests (atStart, text) ↔
      ∃ unit rest, text = unit :: rest ∧ set.has unit = true ∧ later = (false, rest) := by
  cases text with
  | nil => simp [rests]
  | cons unit rest =>
    rw [rests]
    split
    · next inside => simp [inside]
    · next outside =>
        have refused : set.has unit = false := by simpa using outside
        simp [refused]

section Repeated

variable {unit : Nat} {after word : List Nat} {least : Nat} {most : Option Nat}

/-- The text begins with a word of the class and of a length within the bounds, behind which it goes on. -/
def ReadsWord (set : CharSet) (least : Nat) (most : Option Nat) (atStart : Bool) (text : List Nat) (later : State) :
    Prop :=
  ∃ word rest, text = word ++ rest ∧ word.all set.has = true ∧ least ≤ word.length ∧
    (∀ bound, most = some bound → word.length ≤ bound) ∧ later = (atStart && word.isEmpty, rest)

theorem readsWord_nil : ReadsWord set least most atStart [] later ↔ least = 0 ∧ later = (atStart, []) := by
  constructor
  · rintro ⟨word, rest, same, -, long, -, rfl⟩
    obtain ⟨rfl, rfl⟩ := List.append_eq_nil_iff.mp same.symm
    exact ⟨Nat.le_zero.mp long, by simp⟩
  · rintro ⟨rfl, rfl⟩
    exact ⟨[], [], rfl, rfl, Nat.le_refl 0, fun _ _ => Nat.zero_le _, by simp⟩

/-- The bound of a word is one more than that of the word behind its first character. -/
theorem pred_bound_iff (open_ : most ≠ some 0) (length : Nat) :
    (∀ bound, most.map (· - 1) = some bound → length ≤ bound) ↔ ∀ bound, most = some bound → length + 1 ≤ bound := by
  cases most with
  | none => simp
  | some most =>
    have positive : most ≠ 0 := fun zero => open_ (congrArg some zero)
    simp only [Option.map_some, Option.some.injEq, forall_eq']
    omega

/-- A word that is not empty has a first character of the class. -/
theorem readsWord_cons (open_ : most ≠ some 0) :
    ReadsWord set (least + 1) most atStart (unit :: after) later ↔
      set.has unit = true ∧ ReadsWord set least (most.map (· - 1)) false after later := by
  constructor
  · rintro ⟨word, rest, same, whole, long, bounded, rfl⟩
    cases word with
    | nil => cases long
    | cons head word =>
      obtain ⟨rfl, rfl⟩ := List.cons.inj same
      rw [List.all_cons, Bool.and_eq_true] at whole
      exact ⟨whole.1, word, rest, rfl, whole.2, Nat.le_of_succ_le_succ long, (pred_bound_iff open_ _).mpr bounded, by simp⟩
  · rintro ⟨inside, word, rest, rfl, whole, long, bounded, rfl⟩
    exact ⟨unit :: word, rest, rfl, by simp [inside, whole], Nat.succ_le_succ long, (pred_bound_iff open_ _).mp bounded,
      by simp⟩

/-- A word may be empty, or it has a first character. -/
theorem readsWord_zero : ReadsWord set 0 most atStart text later ↔
    later = (atStart, text) ∨ ReadsWord set 1 most atStart text later := by
  constructor
  · rintro ⟨word, rest, rfl, whole, -, bounded, rfl⟩
    cases word with
    | nil => exact .inl (by simp)
    | cons head word => exact .inr ⟨head :: word, rest, rfl, whole, Nat.succ_le_succ (Nat.zero_le _), bounded, rfl⟩
  · rintro (rfl | ⟨word, rest, same, whole, -, bounded, last⟩)
    · exact ⟨[], text, rfl, rfl, Nat.le_refl 0, fun _ _ => Nat.zero_le _, by simp⟩
    · exact ⟨word, rest, same, whole, Nat.zero_le _, bounded, last⟩

private theorem not_readsWord_one : ¬ReadsWord set 1 (some 0) atStart text later := by
  rintro ⟨word, rest, -, -, long, bounded, -⟩
  have short := bounded 0 rfl
  omega

theorem mem_flatMap_chars {follow : State → List State} :
    later ∈ ((chars set).rests (atStart, unit :: after)).flatMap follow ↔
      set.has unit = true ∧ later ∈ follow (false, after) := by
  rw [rests]
  split
  · next inside => simp [inside]
  · next outside => simp [outside]

theorem mem_iterate_nil {fuel : Nat} (bounded : least ≤ fuel) :
    later ∈ iterate (chars set).rests fuel least most (atStart, []) ↔ least = 0 ∧ later = (atStart, []) := by
  have none : (chars set).rests (atStart, []) = [] := rfl
  cases fuel with
  | zero =>
    obtain rfl := Nat.le_zero.mp bounded
    rw [iterate, if_pos rfl, List.mem_singleton]
    simp
  | succ fuel =>
    cases least with
    | zero =>
      have last : (if most = some 0 then ([] : List State) else []) = [] := ite_self _
      rw [iterate, none, List.filter_nil, List.flatMap_nil, last, List.mem_singleton]
      simp
    | succ least =>
      rw [iterate, none, List.flatMap_nil]
      simp

/-- A repeated character reads a part of the text, as long as the bounds allow. -/
theorem mem_iterate_chars {fuel : Nat} (enough : least + text.length ≤ fuel)
    (ordered : ∀ bound, most = some bound → least ≤ bound) :
    later ∈ iterate (chars set).rests fuel least most (atStart, text) ↔ ReadsWord set least most atStart text later := by
  induction fuel generalizing least most atStart text with
  | zero =>
    obtain ⟨rfl, empty⟩ : least = 0 ∧ text.length = 0 := by omega
    obtain rfl := List.length_eq_zero_iff.mp empty
    rw [mem_iterate_nil (Nat.le_refl 0), readsWord_nil]
  | succ fuel ih =>
    cases text with
    | nil => rw [mem_iterate_nil (Nat.le_of_add_right_le enough), readsWord_nil]
    | cons unit after =>
      rw [List.length_cons] at enough
      cases least with
      | zero =>
        have shorter : ((chars set).rests (atStart, unit :: after)).filter
            (fun later => later.2.length < (unit :: after).length) = (chars set).rests (atStart, unit :: after) := by
          rw [List.filter_eq_self]
          intro read member
          obtain ⟨unit, after, same, -, rfl⟩ := mem_rests_chars.mp member
          cases same
          simp
        rw [iterate, shorter, List.mem_cons, readsWord_zero]
        refine or_congr_right ?_
        by_cases full : most = some 0
        · subst full
          rw [if_pos rfl]
          exact iff_of_false List.not_mem_nil not_readsWord_one
        · rw [if_neg full, mem_flatMap_chars, readsWord_cons full, ih (by omega) fun _ _ => Nat.zero_le _]
      | succ least =>
        have open_ : most ≠ some 0 := fun closed => absurd (ordered 0 closed) (Nat.not_succ_le_zero _)
        rw [iterate, mem_flatMap_chars, readsWord_cons open_, ih (by omega) ((pred_bound_iff open_ least).mpr ordered)]

end Repeated

theorem mem_rests_repeated_chars {least : Nat} {most : Option Nat}
    (ordered : ∀ bound, most = some bound → least ≤ bound) :
    later ∈ (repeated (chars set) least most).rests (atStart, text) ↔
      ∃ word rest, text = word ++ rest ∧ word.all set.has = true ∧ least ≤ word.length ∧
        (∀ bound, most = some bound → word.length ≤ bound) ∧ later = (atStart && word.isEmpty, rest) := by
  rw [rests]
  exact mem_iterate_chars (Nat.le_refl _) ordered

theorem found_iff : regex.found atStart text = true ↔
    ∃ before after, text = before ++ after ∧ ∃ later, later ∈ regex.rests (atStart && before.isEmpty, after) := by
  have here : ∀ state, (!(regex.rests state).isEmpty) = true ↔ ∃ later, later ∈ regex.rests state := by
    intro state
    cases regex.rests state <;> simp
  induction text generalizing atStart with
  | nil =>
    rw [found, here]
    constructor
    · intro match_
      exact ⟨[], [], rfl, by simpa using match_⟩
    · rintro ⟨before, after, same, match_⟩
      obtain ⟨rfl, rfl⟩ := List.append_eq_nil_iff.mp same.symm
      simpa using match_
  | cons unit rest ih =>
    rw [found, Bool.or_eq_true, here]
    refine (or_congr_right ih).trans ?_
    constructor
    · rintro (match_ | ⟨before, after, rfl, match_⟩)
      · exact ⟨[], _, rfl, by simpa using match_⟩
      · exact ⟨unit :: before, after, rfl, by simpa using match_⟩
    · rintro ⟨before, after, same, match_⟩
      cases before with
      | nil =>
        obtain rfl := same
        exact .inl (by simpa using match_)
      | cons head before =>
        obtain ⟨rfl, rfl⟩ := List.cons.inj same
        exact .inr ⟨before, after, rfl, by simpa using match_⟩

/-- An expression that begins with the start is found nowhere else. -/
theorem test_start_iff {text : String} :
    (seq start regex).test text = true ↔ ∃ later, later ∈ regex.rests (true, codeUnits text) := by
  rw [test, found_iff]
  constructor
  · rintro ⟨before, after, same, later, match_⟩
    obtain ⟨middle, begins, match_⟩ := mem_rests_seq.mp match_
    obtain ⟨first, rfl⟩ := mem_rests_start.mp begins
    have none : before.isEmpty = true := first
    obtain rfl := List.isEmpty_iff.mp none
    rw [same]
    exact ⟨later, by simpa using match_⟩
  · rintro ⟨later, match_⟩
    exact ⟨[], _, rfl, later, mem_rests_seq.mpr ⟨_, mem_rests_start.mpr ⟨rfl, rfl⟩, match_⟩⟩

end Regex

end HieroRelay.Js
