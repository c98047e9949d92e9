import HieroRelay.Mirror.QueryTexts
import Mathlib.Data.List.Induction

/-! When a query gives back the pairs that were set: what the object holds at one key after all calls, and
what is read of it. -/

namespace HieroRelay.Mirror.Query

open HieroRelay.Js
open HieroRelay.Js.FormUrlEncoded
open HieroRelay.Lib

variable {key : Text} {value : Value} {values : List Value} {calls : List Call}

section OneKey

/-- A key under which an object can hold a value. -/
def Settable (key : Text) : Prop := key ≠ [] ∧ key ≠ "__proto__".toList

instance (key : Text) : Decidable (Settable key) := inferInstanceAs (Decidable (_ ∧ _))

/-- What is stored when a value is set where another one is held. -/
def nextValue (key : Text) (held : Option Value) (value : Value) : Value :=
  match truthyText key held with
  | none => value
  | some text => .scalar (.string (text ++ '&' :: key ++ '=' :: value.text))

private theorem write_eq (params : Params) (key : Text) (value : Value) :
    write params key value = if key = "__proto__".toList then params else params.assign key value := rfl

/-- A call changes nothing but what is held at its key. -/
theorem get_setQueryParam (params : Params) (other : Text) (value : Value) (key : Text) :
    (setQueryParam params other value).get key =
      if other = key ∧ value.given = true ∧ Settable key then some (nextValue key (params.get key) value)
      else params.get key := by
  have written : setQueryParam params other value =
      if other ≠ [] ∧ value.given = true then write params other (nextValue other (params.get other) value)
      else params := by
    rw [setQueryParam, nextValue]
    cases truthyText other (params.get other) <;> rfl
  rw [written, write_eq]
  by_cases taken : other ≠ [] ∧ value.given = true
  · rw [if_pos taken]
    by_cases prototype : other = "__proto__".toList
    · rw [if_pos prototype, if_neg]
      rintro ⟨rfl, -, settable⟩
      exact settable.2 prototype
    · rw [if_neg prototype, Table.get_assign]
      by_cases same : key = other
      · subst same
        rw [if_pos rfl, if_pos ⟨rfl, taken.2, taken.1, prototype⟩]
      · rw [if_neg same, if_neg fun also => same also.1.symm]
  · rw [if_neg taken, if_neg]
    rintro ⟨rfl, given, settable⟩
    exact taken ⟨settable.1, given⟩

/-- The values that calls set at a key. -/
def valuesOf (key : Text) (calls : List Call) : List Value :=
  (calls.filter fun call => call.1 = key ∧ call.2.given = true).map Prod.snd

theorem valuesOf_cons (key other : Text) (value : Value) (rest : List Call) :
    valuesOf key ((other, value) :: rest) =
      if other = key ∧ value.given = true then value :: valuesOf key rest else valuesOf key rest := by
  rw [valuesOf, List.filter_cons]
  by_cases taken : other = key ∧ value.given = true
  · rw [if_pos (decide_eq_true taken), if_pos taken]
    rfl
  · rw [if_neg (by simpa using taken), if_neg taken]
    rfl

/-- What an object holds after values were set at a key. -/
def heldAfter (key : Text) (values : List Value) : Option Value :=
  values.foldl (fun held value => some (nextValue key held value)) none

theorem heldAfter_concat (key : Text) (values : List Value) (value : Value) :
    heldAfter key (values ++ [value]) = some (nextValue key (heldAfter key values) value) := by
  rw [heldAfter, List.foldl_append]
  rfl

theorem get_afterCalls (calls : List Call) (key : Text) :
    (afterCalls calls).get key = if Settable key then heldAfter key (valuesOf key calls) else none := by
  have run : ∀ (calls : List Call) (params : Params),
      (calls.foldl (fun params call => setQueryParam params call.1 call.2) params).get key =
        if Settable key then
          (valuesOf key calls).foldl (fun held value => some (nextValue key held value)) (params.get key)
        else params.get key := by
    intro calls
    induction calls with
    | nil => exact fun params => (ite_self _).symm
    | cons call rest ih =>
      obtain ⟨other, value⟩ := call
      intro params
      rw [List.foldl_cons, ih, get_setQueryParam, valuesOf_cons]
      by_cases settable : Settable key
      · rw [if_pos settable, if_pos settable]
        by_cases taken : other = key ∧ value.given = true
        · rw [if_pos ⟨taken.1, taken.2, settable⟩, if_pos taken]
          rfl
        · rw [if_neg fun also => taken ⟨also.1, also.2.1⟩, if_neg taken]
      · rw [if_neg settable, if_neg settable, if_neg fun also => settable also.2.2]
  exact run calls Table.empty

/-- Texts that are written behind each other, each further one under the key anew. -/
def chain (key : Text) : List Text → Text
  | [] => []
  | first :: rest => first ++ (rest.map fun text => key ++ '=' :: text).flatMap ('&' :: ·)

theorem chain_append {texts : List Text} (filled : texts ≠ []) (key text : Text) :
    chain key (texts ++ [text]) = chain key texts ++ '&' :: key ++ '=' :: text := by
  cases texts with
  | nil => exact absurd rfl filled
  | cons first rest => simp [chain]

theorem nextValue_of_truthy {held : Value} (truthy : held.truthy = true) (value : Value) :
    nextValue key (some held) value = .scalar (.string (held.text ++ '&' :: key ++ '=' :: value.text)) := by
  rw [nextValue, truthyText, if_pos truthy]

private theorem nextValue_of_falsy {held : Value} (falsy : held.truthy = false) (value : Value) :
    nextValue key (some held) value = value := by
  rw [nextValue, truthyText, if_neg (by rw [falsy]; exact Bool.false_ne_true)]

/-- A chain of two texts or more is held as a string that is truthy. -/
theorem truthy_chain {texts : List Text} (several : 2 ≤ texts.length) :
    (Value.scalar (.string (chain key texts))).truthy = true := by
  cases texts with
  | nil => cases several
  | cons first rest =>
    cases rest with
    | nil => exact absurd several (Nat.lt_irrefl 1)
    | cons second rest => simp [Value.truthy, Scalar.truthy, chain]

/-- The values behind the last falsy one in front are held, as texts if there are several. -/
theorem heldAfter_cases (plain : inheritedText key = none) (filled : values ≠ []) :
    ∃ dropped kept, values = dropped ++ kept ∧ (∀ value ∈ dropped, value.truthy = false) ∧
      ((∃ value, kept = [value] ∧ heldAfter key values = some value) ∨
        (2 ≤ kept.length ∧ (∀ first ∈ kept.head?, first.truthy = true) ∧
          heldAfter key values = some (.scalar (.string (chain key (kept.map Value.text)))))) := by
  induction values using List.reverseRecOn with
  | nil => exact absurd rfl filled
  | append_singleton values value ih =>
    by_cases first : values = []
    · subst first
      refine ⟨[], [value], rfl, fun _ member => absurd member List.not_mem_nil, .inl ⟨value, rfl, ?_⟩⟩
      rw [heldAfter_concat, nextValue, heldAfter, List.foldl_nil, truthyText, plain]
    · obtain ⟨dropped, kept, rfl, falsy, ⟨held, rfl, before⟩ | ⟨several, truthy, before⟩⟩ := ih first
      · by_cases kept : held.truthy = true
        · refine ⟨dropped, [held, value], by simp, falsy, .inr ⟨Nat.le_refl 2, ?_, ?_⟩⟩
          · rintro _ ⟨⟩
            exact kept
          · rw [heldAfter_concat, before, nextValue_of_truthy kept]
            simp [chain]
        · rw [Bool.not_eq_true] at kept
          refine ⟨dropped ++ [held], [value], rfl, ?_, .inl ⟨value, rfl, ?_⟩⟩
          · intro other member
            obtain listed | same := List.mem_append.mp member
            · exact falsy other listed
            · exact List.mem_singleton.mp same ▸ kept
          · rw [heldAfter_concat, before, nextValue_of_falsy kept]
      · have long : kept ≠ [] := by
          rintro rfl
          cases several
        refine ⟨dropped, kept ++ [value], List.append_assoc _ _ _, falsy, .inr ⟨?_, ?_, ?_⟩⟩
        · rw [List.length_append]
          omega
        · rwa [List.head?_append_of_ne_nil _ long]
        · rw [heldAfter_concat, before, nextValue_of_truthy (truthy_chain (by rwa [List.length_map])), List.map_append,
            List.map_singleton, chain_append (by simpa using long)]
          rfl

/-- Under an inherited name everything is written behind what is inherited. -/
theorem heldAfter_of_inherits {text : Text} (inherits : inheritedText key = some text) (filled : values ≠ []) :
    heldAfter key values = some (.scalar (.string (chain key (text :: values.map Value.text)))) := by
  induction values using List.reverseRecOn with
  | nil => exact absurd rfl filled
  | append_singleton values value ih =>
    rw [heldAfter_concat, List.map_append, List.map_singleton, ← List.cons_append, chain_append (List.cons_ne_nil _ _)]
    by_cases first : values = []
    · subst first
      rw [nextValue, heldAfter, List.foldl_nil, truthyText, inherits, List.map_nil, chain, List.map_nil,
        List.flatMap_nil, List.append_nil]
    · have several : 2 ≤ (text :: values.map Value.text).length := by
        rw [List.length_cons, List.length_map]
        exact Nat.succ_le_succ (List.length_pos_iff.mpr first)
      rw [ih first, nextValue_of_truthy (truthy_chain several)]
      rfl

end OneKey

section Elements

theorem Value.elements_of_not_given (skipped : value.given = false) : value.elements = [] := by
  cases value with
  | undefined => rfl
  | null => rfl
  | scalar scalar =>
    cases scalar with
    | string text =>
      cases text with
      | nil => rfl
      | cons char rest => cases skipped
    | number number => cases skipped
    | boolean value => cases skipped
  | array elements => cases skipped

/-- A value that is given is a scalar, which is its only element, or an array. -/
theorem Value.elements_cases (given : value.given = true) :
    (∃ scalar, value = .scalar scalar ∧ value.elements = [scalar.text]) ∨
      ∃ elements, value = .array elements ∧ value.elements = elements.map Scalar.text := by
  cases value with
  | undefined => cases given
  | null => cases given
  | scalar scalar =>
    refine .inl ⟨scalar, rfl, ?_⟩
    cases scalar with
    | string text =>
      cases text with
      | nil => cases given
      | cons char rest => rfl
    | number number => rfl
    | boolean value => rfl
  | array elements => exact .inr ⟨elements, rfl, rfl⟩

theorem Value.text_of_elements {text : Text} (given : value.given = true) (single : value.elements = [text]) :
    value.text = text := by
  obtain ⟨scalar, rfl, elements⟩ | ⟨elements, rfl, rest⟩ := Value.elements_cases given
  · rw [elements] at single
    exact List.head_eq_of_cons_eq single
  · rw [rest] at single
    have joined : [','].intercalate (elements.map Scalar.text) = text := by
      rw [single, List.intercalate_singleton]
    exact joined

/-- A falsy value that is given is the number zero, no number or false. -/
theorem Value.elements_of_falsy (given : value.given = true) (falsy : value.truthy = false) :
    ∃ text, value.elements = [text] ∧ ',' ∉ text ∧ text ≠ [] := by
  cases value with
  | undefined => cases given
  | null => cases given
  | scalar scalar =>
    cases scalar with
    | string text =>
      cases text with
      | nil => cases given
      | cons char rest => simp [Value.truthy, Scalar.truthy] at falsy
    | number number =>
      cases number with
      | nan => exact ⟨"NaN".toList, rfl, by decide, by decide⟩
      | infinite negative => cases falsy
      | zero => exact ⟨['0'], rfl, by decide, by decide⟩
      | finite decimal => cases falsy
    | boolean value =>
      cases value with
      | true => cases falsy
      | false => exact ⟨"false".toList, rfl, by decide, by decide⟩
  | array elements => cases falsy

/-- A measure of texts by which a comma between two of them counts as one. -/
structure CountsCommas (measure : Text → Nat) : Prop where
  empty : measure [] = 0
  comma : ∀ before rest, measure (before ++ ',' :: rest) = measure before + measure rest + 1

theorem countsCommas_count : CountsCommas (List.count ',') := by
  refine ⟨rfl, fun before rest => ?_⟩
  rw [List.count_append, List.count_cons_self, Nat.add_assoc]

private theorem countsCommas_length : CountsCommas List.length := by
  refine ⟨rfl, fun before rest => ?_⟩
  rw [List.length_append, List.length_cons, Nat.add_assoc]

/-- The commas that are written between the elements of the values. -/
def commas (values : List Value) : Nat := (values.map fun value => value.elements.length - 1).sum

theorem commas_cons (value : Value) (rest : List Value) :
    commas (value :: rest) = value.elements.length - 1 + commas rest := by
  rw [commas, List.map_cons, List.sum_cons]
  rfl

variable {measure : Text → Nat}

theorem CountsCommas.intercalate (counts : CountsCommas measure) (texts : List Text) :
    measure ([','].intercalate texts) = (texts.map measure).sum + (texts.length - 1) := by
  cases texts with
  | nil => exact counts.empty
  | cons first rest =>
    rw [intercalate_cons_eq]
    induction rest generalizing first with
    | nil => rw [List.flatMap_nil, List.append_nil]; rfl
    | cons second rest ih =>
      rw [List.flatMap_cons, List.cons_append, counts.comma, ih]
      simp only [List.map_cons, List.sum_cons, List.length_cons]
      omega

theorem CountsCommas.text (counts : CountsCommas measure) (given : value.given = true) :
    measure value.text = (value.elements.map measure).sum + (value.elements.length - 1) := by
  obtain ⟨scalar, rfl, elements⟩ | ⟨elements, rfl, rest⟩ := Value.elements_cases given
  · rw [elements]
    exact (Nat.add_zero _).symm
  · rw [rest]
    exact counts.intercalate _

theorem CountsCommas.texts (counts : CountsCommas measure) (given : ∀ value ∈ values, value.given = true) :
    ((values.map Value.text).map measure).sum = ((values.flatMap Value.elements).map measure).sum + commas values := by
  induction values with
  | nil => rfl
  | cons value rest ih =>
    have first := counts.text (given value List.mem_cons_self)
    have later := ih fun other member => given other (List.mem_cons_of_mem _ member)
    rw [List.map_cons, List.map_cons, List.sum_cons, first, later, List.flatMap_cons, List.map_append, List.sum_append,
      commas_cons]
    omega

/-- Without commas there are no more elements than values, and as many only if each value is one. -/
theorem length_elements_le (none : commas values = 0) :
    (values.flatMap Value.elements).length ≤ values.length ∧
      (values.length ≤ (values.flatMap Value.elements).length → ∀ value ∈ values, value.elements.length = 1) := by
  induction values with
  | nil => exact ⟨Nat.le_refl _, fun _ _ member => absurd member List.not_mem_nil⟩
  | cons value rest ih =>
    rw [commas_cons, Nat.add_eq_zero_iff] at none
    have later := ih none.2
    rw [List.flatMap_cons, List.length_append, List.length_cons]
    refine ⟨by omega, fun all => ?_⟩
    rw [List.forall_mem_cons]
    exact ⟨by omega, later.2 (by omega)⟩

private theorem map_text_eq (given : ∀ value ∈ values, value.given = true)
    (single : ∀ value ∈ values, value.elements.length = 1) :
    values.map Value.text = values.flatMap Value.elements := by
  induction values with
  | nil => rfl
  | cons value rest ih =>
    rw [List.forall_mem_cons] at given single
    obtain ⟨text, elements⟩ := List.length_eq_one_iff.mp single.1
    rw [List.map_cons, List.flatMap_cons, ih given.2 single.2, elements, Value.text_of_elements given.1 elements]
    rfl

end Elements

section Pairs

/-- The values of the pairs with a key. -/
def valuesAt (key : Text) (pairs : List (Text × Text)) : List Text := (pairs.filter (·.1 = key)).map Prod.snd

theorem valuesAt_append (key : Text) (front back : List (Text × Text)) :
    valuesAt key (front ++ back) = valuesAt key front ++ valuesAt key back := by
  rw [valuesAt, List.filter_append, List.map_append]
  rfl

theorem valuesAt_map (key : Text) (texts : List Text) : valuesAt key (texts.map (key, ·)) = texts := by
  rw [valuesAt, List.filter_eq_self.mpr (by simp), List.map_map]
  exact List.map_id texts

private theorem valuesAt_map_of_ne {other : Text} (different : other ≠ key) (texts : List Text) :
    valuesAt key (texts.map (other, ·)) = [] := by
  rw [valuesAt, List.filter_eq_nil_iff.mpr (by simp [different]), List.map_nil]

theorem count_valuesAt (key text : Text) (pairs : List (Text × Text)) :
    (valuesAt key pairs).count text = pairs.count (key, text) := by
  induction pairs with
  | nil => rfl
  | cons pair rest ih =>
    obtain ⟨other, value⟩ := pair
    rw [List.count_cons, ← ih, valuesAt, List.filter_cons]
    by_cases same : other = key
    · subst same
      rw [if_pos (by simp), List.map_cons, List.count_cons]
      simp [valuesAt]
    · rw [if_neg (by simpa using same), if_neg (by simp [same])]
      rfl

/-- Lists have the same pairs if they have the same values at each key. -/
theorem perm_iff_valuesAt (pairs others : List (Text × Text)) :
    pairs.Perm others ↔ ∀ key, (valuesAt key pairs).Perm (valuesAt key others) := by
  constructor
  · exact fun same key => (same.filter _).map _
  · intro same
    rw [List.perm_iff_count]
    rintro ⟨key, text⟩
    rw [← count_valuesAt, ← count_valuesAt]
    exact (same key).count_eq text

private theorem valuesAt_setPairs (key : Text) (calls : List Call) :
    valuesAt key (setPairs calls) = (valuesOf key calls).flatMap Value.elements := by
  induction calls with
  | nil => rfl
  | cons call rest ih =>
    obtain ⟨other, value⟩ := call
    rw [setPairs, List.flatMap_cons, valuesAt_append, valuesOf_cons, ← setPairs, ih]
    by_cases same : other = key
    · subst same
      rw [valuesAt_map]
      by_cases given : value.given = true
      · rw [if_pos ⟨rfl, given⟩, List.flatMap_cons]
      · rw [if_neg fun also => given also.2, Value.elements_of_not_given (Bool.not_eq_true _ ▸ given), List.nil_append]
    · rw [valuesAt_map_of_ne same, if_neg fun also => same also.1, List.nil_append]

/-- What is read at a key is what is read of the entry of the key. -/
theorem valuesAt_entries (params : Params) {pairs : Text × Value → List (Text × Text)}
    (own : ∀ entry ∈ params.entries, ∀ pair ∈ pairs entry, pair.1 = entry.1) (key : Text) :
    valuesAt key (params.entries.flatMap pairs) =
      ((params.get key).map fun value => valuesAt key (pairs (key, value))).getD [] := by
  obtain ⟨entries, distinct⟩ := params
  induction entries with
  | nil => rfl
  | cons entry rest ih =>
    obtain ⟨other, value⟩ := entry
    have apart := List.nodup_cons.mp distinct
    have later := ih apart.2 fun entry member => own entry (List.mem_cons_of_mem _ member)
    have looked : Table.get ⟨(other, value) :: rest, distinct⟩ key =
        if key = other then some value else Table.get ⟨rest, apart.2⟩ key :=
      Table.lookup_cons_eq_ite key other value rest
    rw [List.flatMap_cons, valuesAt_append, later, looked]
    by_cases same : key = other
    · subst same
      have absent : Table.get ⟨rest, apart.2⟩ key = none := by
        rw [← Option.not_isSome_iff_eq_none, ← Table.mem_keys_iff]
        exact apart.1
      rw [absent, if_pos rfl]
      exact List.append_nil _
    · have none : valuesAt key (pairs (other, value)) = [] := by
        rw [valuesAt, List.filter_eq_nil_iff.mpr, List.map_nil]
        intro pair member
        rw [own (other, value) List.mem_cons_self pair member]
        simpa using Ne.symm same
      rw [none, if_neg same, List.nil_append]

end Pairs

section Comparison

/-- The values that are set at a key are kept: one value at most, or values of one element each, the first
of them truthy; none under a name that objects inherit, and no element where nothing can be held. -/
def Kept (key : Text) (values : List Value) : Prop :=
  if ¬Settable key then ∀ value ∈ values, value.elements = []
  else if (inheritedText key).isSome then values = []
  else values.length ≤ 1 ∨
    (∀ first ∈ values.head?, first.truthy = true) ∧ ∀ value ∈ values, value.elements.length = 1

variable {dropped kept : List Value}

/-- What is dropped is at least one element, none of them with a comma. -/
theorem dropped_eq_nil (given : ∀ value ∈ dropped, value.given = true)
    (falsy : ∀ value ∈ dropped, value.truthy = false) :
    ((dropped.flatMap Value.elements).map (List.count ',')).sum = 0 ∧
      (((dropped.flatMap Value.elements).map List.length).sum = 0 → dropped = []) ∧
      (dropped.flatMap Value.elements = [] → dropped = []) := by
  induction dropped with
  | nil => exact ⟨rfl, fun _ => rfl, fun _ => rfl⟩
  | cons value rest ih =>
    rw [List.forall_mem_cons] at given falsy
    obtain ⟨text, elements, noComma, filled⟩ := Value.elements_of_falsy given.1 falsy.1
    have later := ih given.2 falsy.2
    rw [List.flatMap_cons, elements, List.singleton_append, List.map_cons, List.map_cons, List.sum_cons, List.sum_cons,
      later.1, List.count_eq_zero.mpr noComma]
    refine ⟨rfl, fun none => absurd (Nat.add_eq_zero_iff.mp none).1 ?_, fun none => ?_⟩
    · rwa [List.length_eq_zero_iff]
    · cases none

theorem sum_of_perm {texts others : List Text} (same : texts.Perm others) (measure : Text → Nat) :
    (texts.map measure).sum = (others.map measure).sum := (same.map measure).sum_nat

theorem dropped_of_truthy (falsy : ∀ value ∈ dropped, value.truthy = false)
    (truthy : ∀ first ∈ (dropped ++ kept).head?, first.truthy = true) : dropped = [] := by
  cases dropped with
  | nil => rfl
  | cons value rest =>
    have first := truthy value rfl
    rw [falsy value List.mem_cons_self] at first
    cases first

/-- The last value alone is held. -/
theorem single_perm_iff (given : ∀ other ∈ dropped, other.given = true)
    (falsy : ∀ other ∈ dropped, other.truthy = false) :
    value.elements.Perm ((dropped ++ [value]).flatMap Value.elements) ↔
      (dropped ++ [value]).length ≤ 1 ∨ (∀ first ∈ (dropped ++ [value]).head?, first.truthy = true) ∧
        ∀ other ∈ dropped ++ [value], other.elements.length = 1 := by
  have none : value.elements.Perm ((dropped ++ [value]).flatMap Value.elements) ↔ dropped = [] := by
    constructor
    · intro same
      apply (dropped_eq_nil given falsy).2.2
      have lengths := same.length_eq
      rw [List.flatMap_append, List.length_append, List.flatMap_singleton] at lengths
      rw [← List.length_eq_zero_iff]
      omega
    · rintro rfl
      rw [List.nil_append, List.flatMap_singleton]
  rw [none]
  constructor
  · rintro rfl
    exact .inl (Nat.le_refl 1)
  · rintro (few | ⟨truthy, -⟩)
    · rw [List.length_append, List.length_singleton] at few
      exact List.length_eq_zero_iff.mp (by omega)
    · exact dropped_of_truthy falsy truthy

/-- Several values are held as texts. -/
theorem several_perm_iff (given : ∀ value ∈ dropped ++ kept, value.given = true)
    (falsy : ∀ value ∈ dropped, value.truthy = false) (several : 2 ≤ kept.length)
    (truthy : ∀ first ∈ kept.head?, first.truthy = true) :
    (kept.map Value.text).Perm ((dropped ++ kept).flatMap Value.elements) ↔
      (dropped ++ kept).length ≤ 1 ∨ (∀ first ∈ (dropped ++ kept).head?, first.truthy = true) ∧
        ∀ value ∈ dropped ++ kept, value.elements.length = 1 := by
  rw [List.forall_mem_append] at given
  constructor
  · intro same
    right
    have compared : ∀ {measure : Text → Nat}, CountsCommas measure →
        commas kept = ((dropped.flatMap Value.elements).map measure).sum := by
      intro measure counts
      have sums := sum_of_perm same measure
      rw [counts.texts given.2, List.flatMap_append, List.map_append, List.sum_append] at sums
      omega
    have gone := dropped_eq_nil given.1 falsy
    have none : commas kept = 0 := (compared countsCommas_count).trans gone.1
    have empty : dropped = [] := gone.2.1 ((compared countsCommas_length).symm.trans none)
    subst empty
    refine ⟨truthy, (length_elements_le none).2 ?_⟩
    have lengths := same.length_eq
    rw [List.length_map] at lengths
    exact lengths.le
  · rintro (few | ⟨first, single⟩)
    · rw [List.length_append] at few
      omega
    · have empty := dropped_of_truthy falsy first
      subst empty
      rw [List.nil_append, map_text_eq given.2 single]

/-- Behind a text that was not set the values are never alone. -/
theorem not_inherited_perm (given : ∀ value ∈ values, value.given = true) (text : Text) :
    ¬(text :: values.map Value.text).Perm (values.flatMap Value.elements) := by
  intro same
  have sums := sum_of_perm same (List.count ',')
  rw [List.map_cons, List.sum_cons, countsCommas_count.texts given] at sums
  have none : commas values = 0 := by omega
  have lengths := same.length_eq
  rw [List.length_cons, List.length_map] at lengths
  have bound := (length_elements_le none).1
  omega

end Comparison

section Reading

variable {text : Text} {texts : List Text} {held : Value}

theorem decode_plain (noPlus : '+' ∉ text) (unescaped : escapes text = 0) : decode text = text := by
  have same : text.map plusToSpace = text.map id := by
    refine List.map_congr_left fun char member => if_neg ?_
    rintro rfl
    exact noPlus member
  rw [decode_of_escapes_eq_zero unescaped, same, List.map_id]

theorem readPairs_plain (plain : PlainKey key) (plainText : PlainText text) :
    readPairs (key ++ '=' :: text) = [(key, text)] := by
  have whole : '&' ∉ key ++ '=' :: text := by
    simp [plain.1, plainText.1]
  rw [readPairs_of_not_mem whole (by simp), readPair_append plain.2.1, decode_plain plainText.2.1 plainText.2.2,
    decode_plain plain.2.2.1 (escapes_of_not_mem plain.2.2.2)]

theorem flatMap_readPairs_plain (plain : PlainKey key) (plainTexts : ∀ text ∈ texts, PlainText text) :
    (texts.map fun text => key ++ '=' :: text).flatMap readPairs = texts.map (key, ·) := by
  induction texts with
  | nil => rfl
  | cons text rest ih =>
    rw [List.forall_mem_cons] at plainTexts
    rw [List.map_cons, List.flatMap_cons, readPairs_plain plain plainTexts.1, ih plainTexts.2]
    rfl

theorem readPairs_chain (plain : PlainKey key) (plainTexts : ∀ text ∈ texts, PlainText text) (filled : texts ≠ []) :
    readPairs (key ++ '=' :: chain key texts) = texts.map (key, ·) := by
  cases texts with
  | nil => exact absurd rfl filled
  | cons first rest =>
    rw [chain, ← List.cons_append, ← List.append_assoc, readPairs_append_flatMap,
      ← flatMap_readPairs_plain plain plainTexts]
    rfl

private theorem plainText_intercalate (plainTexts : ∀ text ∈ texts, PlainText text) : PlainText
    ([','].intercalate texts) := by
  have unmarked : ∀ {mark : Char}, mark ≠ ',' → (∀ text ∈ texts, mark ∉ text) → mark ∉ [','].intercalate texts := by
    intro mark other none
    cases texts with
    | nil => exact List.not_mem_nil
    | cons first rest =>
      rw [List.forall_mem_cons] at none
      rw [intercalate_cons_eq, List.mem_append, not_or, List.mem_flatMap]
      refine ⟨none.1, ?_⟩
      rintro ⟨text, listed, member⟩
      exact (List.mem_cons.mp member).elim other (none.2 text listed)
  refine ⟨unmarked (by decide) fun text member => (plainTexts text member).1,
    unmarked (by decide) fun text member => (plainTexts text member).2.1, ?_⟩
  rw [additive_escapes.intercalate (.inl rfl), List.sum_eq_zero_iff_forall_eq_nat]
  intro count member
  obtain ⟨text, listed, rfl⟩ := List.mem_map.mp member
  exact (plainTexts text listed).2.2

private theorem plainText_text (given : value.given = true) (plainTexts : ∀ text ∈ value.elements, PlainText text) :
    PlainText value.text := by
  obtain ⟨scalar, rfl, elements⟩ | ⟨elements, rfl, rest⟩ := Value.elements_cases given
  · exact plainTexts _ (elements ▸ List.mem_singleton_self _)
  · exact plainText_intercalate plainTexts

private theorem plainText_inherited (plain : PlainKey key) (inherits : inheritedText key = some text) :
    PlainText text :=
  ⟨not_mem_inheritedText (by decide) plain.1 inherits, not_mem_inheritedText (by decide) plain.2.2.1 inherits,
    escapes_of_not_mem (not_mem_inheritedText (by decide) plain.2.2.2 inherits)⟩

/-- A value that is held as it was set gives back its elements. -/
theorem readPairs_additionalString (plain : PlainKey key) (given : value.given = true)
    (plainTexts : ∀ text ∈ value.elements, PlainText text) :
    readPairs (additionalString key value) = value.elements.map (key, ·) := by
  obtain ⟨scalar, rfl, elements⟩ | ⟨elements, rfl, rest⟩ := Value.elements_cases given
  · rw [elements] at plainTexts ⊢
    exact readPairs_plain plain (plainTexts _ (List.mem_singleton_self _))
  · rw [rest] at plainTexts ⊢
    rw [← flatMap_readPairs_plain plain plainTexts, List.map_map]
    exact readPairs_intercalate _

/-- What is read of what is held are the elements that were set exactly if they are kept. -/
theorem read_heldAfter (plain : PlainKey key) (settable : Settable key) (given : ∀ value ∈ values, value.given = true)
    (plainTexts : ∀ value ∈ values, ∀ text ∈ value.elements, PlainText text)
    (stored : heldAfter key values = some held) :
    ∃ texts : List Text, readPairs (additionalString key held) = texts.map (key, ·) ∧
      (texts.Perm (values.flatMap Value.elements) ↔ Kept key values) := by
  have filled : values ≠ [] := by
    rintro rfl
    cases stored
  have plainText : ∀ value ∈ values, PlainText value.text := fun value member =>
    plainText_text (given value member) (plainTexts value member)
  have plainMap : ∀ {kept : List Value}, (∀ value ∈ kept, value ∈ values) →
      ∀ text ∈ kept.map Value.text, PlainText text := by
    intro kept part text member
    obtain ⟨value, listed, rfl⟩ := List.mem_map.mp member
    exact plainText value (part value listed)
  rw [Kept, if_neg (not_not.mpr settable)]
  cases inherits : inheritedText key with
  | some text =>
    rw [heldAfter_of_inherits inherits filled] at stored
    cases stored
    refine ⟨text :: values.map Value.text, readPairs_chain plain ?_ (List.cons_ne_nil _ _), ?_⟩
    · rw [List.forall_mem_cons]
      exact ⟨plainText_inherited plain inherits, plainMap fun _ => id⟩
    · rw [Option.isSome_some, if_pos rfl]
      exact iff_of_false (not_inherited_perm given text) filled
  | none =>
    rw [Option.isSome_none, if_neg Bool.false_ne_true]
    obtain ⟨dropped, kept, rfl, falsy, ⟨value, rfl, last⟩ | ⟨several, truthy, texts⟩⟩ := heldAfter_cases inherits filled
    · rw [last] at stored
      cases stored
      have member : held ∈ dropped ++ [held] := List.mem_append_right _ (List.mem_singleton_self _)
      exact ⟨held.elements, readPairs_additionalString plain (given held member) (plainTexts held member),
        single_perm_iff (fun other listed => given other (List.mem_append_left _ listed)) falsy⟩
    · rw [texts] at stored
      cases stored
      have some : kept.map Value.text ≠ [] := by
        intro none
        rw [List.map_eq_nil_iff.mp none] at several
        cases several
      exact ⟨kept.map Value.text,
        readPairs_chain plain (plainMap fun _ listed => List.mem_append_right _ listed) some,
        several_perm_iff given falsy several truthy⟩

end Reading

section Calls

variable {held : Value}

theorem given_of_mem_valuesOf (member : value ∈ valuesOf key calls) : (key, value) ∈ calls ∧ value.given = true := by
  obtain ⟨⟨other, _⟩, listed, rfl⟩ := List.mem_map.mp member
  obtain ⟨called, taken⟩ := List.mem_filter.mp listed
  obtain ⟨same, given⟩ := of_decide_eq_true taken
  exact ⟨same ▸ called, given⟩

private theorem mem_setPairs {text : Text} (member : value ∈ valuesOf key calls) (inside : text ∈ value.elements) :
    (key, text) ∈ setPairs calls :=
  List.mem_flatMap.mpr ⟨(key, value), (given_of_mem_valuesOf member).1, List.mem_map_of_mem inside⟩

private theorem heldAfter_eq_none_iff : heldAfter key values = none ↔ values = [] := by
  constructor
  · intro none
    induction values using List.reverseRecOn with
    | nil => rfl
    | append_singleton values value ih =>
      rw [heldAfter_concat] at none
      cases none
  · rintro rfl
    rfl

private theorem kept_nil (key : Text) : Kept key [] := by
  rw [Kept]
  split_ifs
  · rfl
  · exact .inl (Nat.zero_le 1)
  · exact fun _ member => absurd member List.not_mem_nil

variable (plain : ∀ call ∈ calls, PlainKey call.1) (plainTexts : ∀ pair ∈ setPairs calls, PlainText pair.2)
include plain plainTexts

theorem read_entry (found : (afterCalls calls).get key = some held) :
    ∃ texts : List Text, readPairs (additionalString key held) = texts.map (key, ·) ∧
      (texts.Perm ((valuesOf key calls).flatMap Value.elements) ↔ Kept key (valuesOf key calls)) := by
  have plainKey : PlainKey key := plain_key_of_mem plain (Table.mem_entries_iff.mpr found)
  rw [get_afterCalls] at found
  split_ifs at found with settable
  exact read_heldAfter plainKey settable (fun value member => (given_of_mem_valuesOf member).2)
    (fun value member text inside => plainTexts _ (mem_setPairs member inside)) found

private theorem read_key_iff (key : Text) :
    List.Perm
        ((((afterCalls calls).get key).map fun value => valuesAt key (readPairs (additionalString key value))).getD [])
        ((valuesOf key calls).flatMap Value.elements) ↔
      Kept key (valuesOf key calls) := by
  cases found : (afterCalls calls).get key with
  | some held =>
    obtain ⟨texts, read, same⟩ := read_entry plain plainTexts found
    rw [Option.map_some, Option.getD_some, read, valuesAt_map, same]
  | none =>
    rw [Option.map_none, Option.getD_none, List.nil_perm, List.flatMap_eq_nil_iff]
    rw [get_afterCalls] at found
    split_ifs at found with settable
    · rw [heldAfter_eq_none_iff.mp found]
      exact iff_of_true (fun _ member => absurd member List.not_mem_nil) (kept_nil key)
    · rw [Kept, if_pos settable]

/-- Pairs with texts that are read as they stand are read back exactly if the values of each key are kept. -/
theorem roundTrips_iff_kept : RoundTrips calls ↔ ∀ key, Kept key (valuesOf key calls) := by
  have own : ∀ entry ∈ (afterCalls calls).entries, ∀ pair ∈ readPairs (additionalString entry.1 entry.2),
      pair.1 = entry.1 := by
    rintro ⟨key, held⟩ member pair listed
    obtain ⟨texts, read, -⟩ := read_entry plain plainTexts (Table.mem_entries_iff.mp member)
    rw [read] at listed
    obtain ⟨text, -, rfl⟩ := List.mem_map.mp listed
    rfl
  rw [RoundTrips, (parse_perm (afterCalls calls)).congr_left, perm_iff_valuesAt]
  refine forall_congr' fun key => ?_
  rw [valuesAt_entries (afterCalls calls) own, valuesAt_setPairs]
  exact read_key_iff plain plainTexts key

end Calls

/-- A query gives back exactly the pairs that were set if and only if their texts have no `&`, no `+` and
no percent escape, and the values of each key are kept. -/
theorem roundTrips_iff (plain : ∀ call ∈ calls, PlainKey call.1) :
    RoundTrips calls ↔
      (∀ pair ∈ setPairs calls, PlainText pair.2) ∧ ∀ key, Kept key (valuesOf key calls) := by
  constructor
  · intro trips
    have plainTexts := plainText_of_roundTrips plain trips
    exact ⟨plainTexts, (roundTrips_iff_kept plain plainTexts).mp trips⟩
  · rintro ⟨plainTexts, kept⟩
    exact (roundTrips_iff_kept plain plainTexts).mpr kept

/-- A time range, topics and the number zero. -/
def rangeCalls : List Call :=
  [("timestamp".toList, .scalar (.string "gte:1.5".toList)), ("topic0".toList, .array [.string ['a'], .string ['b']]),
    ("nonce".toList, .scalar (.number .zero)), ("timestamp".toList, .scalar (.string "lt:2".toList))]

theorem rangeCalls_kept :
    (∀ pair ∈ setPairs rangeCalls, PlainText pair.2) ∧ ∀ key, Kept key (valuesOf key rangeCalls) :=
  (roundTrips_iff (by simp [rangeCalls, PlainKey])).mp (by rw [RoundTrips]; decide)

/-- The number zero is overwritten by the next value. -/
def zeroFirst : List Call :=
  [("nonce".toList, .scalar (.number .zero)), ("nonce".toList, .scalar (.string ['1']))]

theorem zeroFirst_lost : getQueryParams (afterCalls zeroFirst) = "?nonce=1".toList ∧ ¬RoundTrips zeroFirst := by
  rw [RoundTrips]
  decide

end HieroRelay.Mirror.Query
