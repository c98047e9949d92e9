import HieroRelay.Mirror.QueryParams
import Mathlib.Algebra.BigOperators.Group.List.Basic

/-! What is read from the string of an object, entry by entry, and what no text of it can gain on the
way from the calls. -/

namespace HieroRelay.Mirror.Query

open HieroRelay.Js
open HieroRelay.Js.FormUrlEncoded
open HieroRelay.Lib

variable {key : Text} {value : Value} {calls : List Call}

theorem intercalate_cons_eq (separator : Char) (first : Text) (rest : List Text) :
    [separator].intercalate (first :: rest) = first ++ rest.flatMap (separator :: ·) := by
  induction rest generalizing first with
  | nil => rw [List.intercalate_singleton, List.flatMap_nil, List.append_nil]
  | cons second rest ih =>
    rw [List.intercalate_cons_cons, ih, List.flatMap_cons, List.append_assoc, List.singleton_append]
    rfl

theorem readPairs_append_flatMap (first : Text) (rest : List Text) :
    readPairs (first ++ rest.flatMap ('&' :: ·)) = (first :: rest).flatMap readPairs := by
  induction rest generalizing first with
  | nil => simp
  | cons second rest ih =>
    rw [List.flatMap_cons, List.cons_append, readPairs_append, ih, List.flatMap_cons (x := first)]

theorem readPairs_intercalate (texts : List Text) : readPairs (['&'].intercalate texts) = texts.flatMap readPairs := by
  cases texts with
  | nil => rfl
  | cons first rest => rw [intercalate_cons_eq, readPairs_append_flatMap]

/-- What is read from the string of an object. -/
theorem parse_getQueryParams (params : Params) :
    parse (getQueryParams params) =
      (objectEntries params).flatMap fun entry => readPairs (additionalString entry.1 entry.2) := by
  have later : ∀ (entries : List (Text × Value)) (paramString : Text), paramString ≠ [] →
      entries.foldl (fun paramString entry =>
          paramString ++ (if paramString = [] then '?' else '&') :: additionalString entry.1 entry.2) paramString =
        paramString ++ (entries.map fun entry => additionalString entry.1 entry.2).flatMap ('&' :: ·) := by
    intro entries
    induction entries with
    | nil => simp
    | cons entry rest ih =>
      intro paramString filled
      rw [List.foldl_cons, if_neg filled, ih _ (by simp), List.map_cons, List.flatMap_cons, List.append_assoc]
  rw [getQueryParams]
  cases objectEntries params with
  | nil => rfl
  | cons entry rest =>
    rw [List.foldl_cons, if_pos rfl, List.nil_append, later rest _ (List.cons_ne_nil _ _), List.cons_append, parse,
      readPairs_append_flatMap, List.flatMap_cons, List.flatMap_cons, List.flatMap_map]

private theorem objectEntries_perm (params : Params) : (objectEntries params).Perm params.entries :=
  ((List.perm_insertionSort _ _).append_right _).trans (List.filter_append_perm _ _)

theorem parse_perm (params : Params) : (parse (getQueryParams params)).Perm
    (params.entries.flatMap fun entry => readPairs (additionalString entry.1 entry.2)) := by
  rw [parse_getQueryParams]
  exact (objectEntries_perm params).flatMap_right _

/-- A key without the marks of a query, as every caller has it. -/
def PlainKey (key : Text) : Prop := '&' ∉ key ∧ '=' ∉ key ∧ '+' ∉ key ∧ '%' ∉ key

/-- A text that is read as it stands. -/
def PlainText (text : Text) : Prop := '&' ∉ text ∧ '+' ∉ text ∧ escapes text = 0

/-- A measure of texts that counts nothing up to the first `%` and begins anew behind a comma and `&`. -/
structure Additive (measure : Text → Nat) : Prop where
  separator : ∀ {char : Char}, char = ',' ∨ char = '&' →
    ∀ before rest, measure (before ++ char :: rest) = measure before + measure rest
  unmarked : ∀ {before : Text}, '%' ∉ before → ∀ rest, measure (before ++ rest) = measure rest
  empty : measure [] = 0

theorem additive_weight : Additive (weight false) :=
  ⟨weight_append_separator, weight_append, rfl⟩

theorem additive_escapes : Additive escapes where
  separator both before rest := by
    obtain rfl | rfl := both <;> exact escapes_append_cons (by decide) (by decide) before rest
  unmarked plain _ := escapes_append plain
  empty := rfl

theorem escapes_le_weight (text : Text) : escapes text ≤ weight false text :=
  (Nat.le_add_left _ _).trans (weight_decode_le text)

/-- What of the weight is left when the escapes are decoded. -/
def spare (text : Text) : Nat := weight false text - escapes text

theorem additive_spare : Additive spare where
  separator both before rest := by
    have front := escapes_le_weight before
    have back := escapes_le_weight rest
    rw [spare, spare, spare, additive_weight.separator both, additive_escapes.separator both]
    omega
  unmarked plain rest := by
    rw [spare, spare, additive_weight.unmarked plain, additive_escapes.unmarked plain]
  empty := rfl

namespace Additive

variable {measure : Text → Nat} (additive : Additive measure)
include additive

private theorem eq_zero {text : Text} (plain : '%' ∉ text) : measure text = 0 := by
  rw [← text.append_nil, additive.unmarked plain, additive.empty]

theorem named (plain : '%' ∉ key) (text : Text) : measure (key ++ '=' :: text) = measure text := by
  rw [List.append_cons]
  exact additive.unmarked (by simp [plain]) text

theorem intercalate {separator : Char} (both : separator = ',' ∨ separator = '&') (texts : List Text) :
    measure ([separator].intercalate texts) = (texts.map measure).sum := by
  cases texts with
  | nil => exact additive.empty
  | cons first rest =>
    rw [intercalate_cons_eq, List.map_cons, List.sum_cons]
    induction rest generalizing first with
    | nil => rw [List.flatMap_nil, List.append_nil]; rfl
    | cons second rest ih =>
      rw [List.flatMap_cons, List.cons_append, additive.separator both, ih, List.map_cons, List.sum_cons]

private theorem text_eq (given : value.given = true) : measure value.text = (value.elements.map measure).sum := by
  have single : ∀ text, measure text = ([text].map measure).sum := fun text => (Nat.add_zero _).symm
  cases value with
  | undefined => cases given
  | null => cases given
  | scalar scalar =>
    cases scalar with
    | string text =>
      cases text with
      | nil => cases given
      | cons char rest => exact single _
    | number number => exact single _
    | boolean value => exact single _
  | array elements => exact additive.intercalate (.inl rfl) _

theorem additionalString_eq (plain : '%' ∉ key) (value : Value) :
    measure (additionalString key value) = measure value.text := by
  have single : ∀ text, measure (key ++ '=' :: text) = measure text := additive.named plain
  cases value with
  | undefined => exact single _
  | null => exact single _
  | scalar value => exact single _
  | array elements =>
    have written := additive.intercalate (.inr rfl) (elements.map fun element => key ++ '=' :: element.text)
    have joined := additive.intercalate (.inl rfl) (elements.map Scalar.text)
    rw [List.map_map] at written joined
    have same := congrArg List.sum (List.map_congr_left fun element (_ : element ∈ elements) => single element.text)
    exact written.trans (same.trans joined.symm)

end Additive

/-- The marks that keep a text from being read as it stands. -/
def marks : Text := ['&', '+', '%']

theorem not_mem_nativeText {mark : Char} (listed : mark ∈ marks) {name : Text} (plain : mark ∉ name) :
    mark ∉ nativeText name :=
  have front : ∀ mark ∈ marks, mark ∉ "function ".toList := by simp [marks]
  have back : ∀ mark ∈ marks, mark ∉ "() \x7b [native code] \x7d".toList := by simp [marks]
  List.not_mem_append (List.not_mem_append (front mark listed) plain) (back mark listed)

theorem not_mem_inheritedText {mark : Char} (listed : mark ∈ marks) (plain : mark ∉ key) {text : Text}
    (inherits : inheritedText key = some text) : mark ∉ text := by
  have object : ∀ mark ∈ marks, mark ∉ "Object".toList := by simp [marks]
  have prototype : ∀ mark ∈ marks, mark ∉ "[object Object]".toList := by simp [marks]
  unfold inheritedText at inherits
  split_ifs at inherits <;> cases inherits
  · exact not_mem_nativeText listed (object mark listed)
  · exact not_mem_nativeText listed plain
  · exact prototype mark listed

namespace Additive

variable {measure : Text → Nat} (additive : Additive measure)
include additive

/-- The text that a further value is written behind is counted already. -/
theorem truthyText_le (plain : '%' ∉ key) {params : Params} {held : Text}
    (stored : truthyText key (params.get key) = some held) :
    measure held ≤ params.weightAt (fun value => measure value.text) key := by
  rw [Table.weightAt]
  cases found : params.get key with
  | none =>
    rw [found, truthyText] at stored
    exact (additive.eq_zero (not_mem_inheritedText (by decide) plain stored)).trans_le (Nat.zero_le _)
  | some value =>
    rw [found, truthyText] at stored
    split_ifs at stored
    cases stored
    exact Nat.le_refl _

/-- A call adds no more to the object than its elements count. -/
theorem total_setQueryParam_le (plain : PlainKey key) (params : Params) (value : Value) :
    (setQueryParam params key value).total (fun value => measure value.text) ≤
      params.total (fun value => measure value.text) + (value.elements.map measure).sum := by
  have noPercent := plain.2.2.2
  rw [setQueryParam]
  split_ifs with taken
  · rw [← additive.text_eq taken.2]
    have written : ∀ other : Value,
        measure other.text ≤ params.weightAt (fun value => measure value.text) key + measure value.text →
        (write params key other).total (fun value => measure value.text) ≤
          params.total (fun value => measure value.text) + measure value.text := by
      intro other bound
      rw [write]
      split
      · exact Nat.le_add_right _ _
      · have assigned := params.total_assign (fun value => measure value.text) key other
        omega
    split
    · exact written value (Nat.le_add_left _ _)
    · next held stored =>
      have before := additive.truthyText_le noPercent stored
      apply written
      have counted : measure (held ++ '&' :: (key ++ '=' :: value.text)) = measure held + measure value.text := by
        rw [additive.separator (.inr rfl), additive.named noPercent]
      rw [List.append_assoc]
      exact counted.trans_le (Nat.add_le_add_right before _)
  · exact Nat.le_add_right _ _

/-- The object has no more than the elements that were set. -/
theorem total_afterCalls_le (plain : ∀ call ∈ calls, PlainKey call.1) :
    (afterCalls calls).total (fun value => measure value.text) ≤
      ((setPairs calls).map fun pair => measure pair.2).sum := by
  have run : ∀ (calls : List Call) (params : Params), (∀ call ∈ calls, PlainKey call.1) →
      (calls.foldl (fun params call => setQueryParam params call.1 call.2) params).total
          (fun value => measure value.text) ≤
        params.total (fun value => measure value.text) + ((setPairs calls).map fun pair => measure pair.2).sum := by
    intro calls
    induction calls with
    | nil => exact fun params _ => Nat.le_add_right _ _
    | cons call rest ih =>
      intro params plain
      have step := additive.total_setQueryParam_le (plain call List.mem_cons_self) params call.2
      have later := ih (setQueryParam params call.1 call.2) fun other member =>
        plain other (List.mem_cons_of_mem _ member)
      have counted : ((setPairs (call :: rest)).map fun pair => measure pair.2).sum =
          (call.2.elements.map measure).sum + ((setPairs rest).map fun pair => measure pair.2).sum := by
        rw [setPairs, List.flatMap_cons, List.map_append, List.sum_append, List.map_map]
        rfl
      rw [List.foldl_cons, counted]
      omega
  exact (run calls Table.empty plain).trans_eq (Nat.zero_add _)

end Additive

private theorem mem_keys_setQueryParam {params : Params} {other : Text}
    (listed : other ∈ (setQueryParam params key value).entries.map Prod.fst) :
    other = key ∨ other ∈ params.entries.map Prod.fst := by
  have written : ∀ value, other ∈ (write params key value).entries.map Prod.fst →
      other = key ∨ other ∈ params.entries.map Prod.fst := by
    intro value listed
    rw [write] at listed
    split at listed
    · exact .inr listed
    · exact Table.mem_keys_assignEntry.mp listed
  rw [setQueryParam] at listed
  split at listed
  · split at listed
    · exact written _ listed
    · exact written _ listed
  · exact .inr listed

private theorem mem_keys_afterCalls (listed : key ∈ (afterCalls calls).entries.map Prod.fst) :
    ∃ call ∈ calls, call.1 = key := by
  have run : ∀ (calls : List Call) (params : Params),
      key ∈ (calls.foldl (fun params call => setQueryParam params call.1 call.2) params).entries.map Prod.fst →
      (∃ call ∈ calls, call.1 = key) ∨ key ∈ params.entries.map Prod.fst := by
    intro calls
    induction calls with
    | nil => exact fun params => .inr
    | cons call rest ih =>
      intro params listed
      obtain ⟨later, member, same⟩ | before := ih _ listed
      · exact .inl ⟨later, List.mem_cons_of_mem _ member, same⟩
      · exact (mem_keys_setQueryParam before).imp_left fun same => ⟨call, List.mem_cons_self, same.symm⟩
  exact (run calls Table.empty listed).resolve_right List.not_mem_nil

theorem plain_key_of_mem (plain : ∀ call ∈ calls, PlainKey call.1) {entry : Text × Value}
    (member : entry ∈ (afterCalls calls).entries) : PlainKey entry.1 := by
  obtain ⟨call, called, same⟩ := mem_keys_afterCalls (List.mem_map.mpr ⟨entry, member, rfl⟩)
  exact same ▸ plain call called

private theorem valuesWeight_entries_le (entries : List (Text × Value)) (plain : ∀ entry ∈ entries, PlainKey entry.1) :
    valuesWeight (entries.flatMap fun entry => readPairs (additionalString entry.1 entry.2)) ≤
      (entries.map fun entry => spare entry.2.text).sum := by
  induction entries with
  | nil => exact Nat.le_refl _
  | cons entry rest ih =>
    have noPercent := (plain entry List.mem_cons_self).2.2.2
    have read := valuesWeight_readPairs_le (additionalString entry.1 entry.2)
    have later := ih fun other member => plain other (List.mem_cons_of_mem _ member)
    have same : spare (additionalString entry.1 entry.2) = spare entry.2.text :=
      additive_spare.additionalString_eq noPercent entry.2
    rw [spare] at same
    rw [List.flatMap_cons, valuesWeight_append, List.map_cons, List.sum_cons]
    omega

/-- Texts of which nothing is lost when their escapes are decoded have no escapes. -/
theorem escapes_eq_zero_of_le (texts : List Text)
    (kept : (texts.map (weight false)).sum ≤ (texts.map spare).sum) : ∀ text ∈ texts, escapes text = 0 := by
  have parts : (texts.map (weight false)).sum = (texts.map spare).sum + (texts.map escapes).sum := by
    rw [← List.sum_map_add]
    refine congrArg List.sum (List.map_congr_left fun text _ => ?_)
    have bound := escapes_le_weight text
    rw [spare]
    omega
  have none : (texts.map escapes).sum = 0 := by omega
  intro text member
  exact List.sum_eq_zero_iff_forall_eq_nat.mp none _ (List.mem_map_of_mem member)

/-- Pairs that are read back have texts that are read as they stand. -/
theorem plainText_of_roundTrips (plain : ∀ call ∈ calls, PlainKey call.1) (trips : RoundTrips calls) :
    ∀ pair ∈ setPairs calls, PlainText pair.2 := by
  have read := (parse_perm (afterCalls calls)).symm.trans trips
  have weighed : valuesWeight (setPairs calls) ≤ ((setPairs calls).map fun pair => spare pair.2).sum := by
    calc valuesWeight (setPairs calls)
        = valuesWeight ((afterCalls calls).entries.flatMap fun entry => readPairs (additionalString entry.1 entry.2)) :=
          (read.map _).sum_nat.symm
      _ ≤ (afterCalls calls).total fun value => spare value.text :=
          valuesWeight_entries_le _ fun entry member => plain_key_of_mem plain member
      _ ≤ ((setPairs calls).map fun pair => spare pair.2).sum := additive_spare.total_afterCalls_le plain
  have unescaped : ∀ pair ∈ setPairs calls, escapes pair.2 = 0 := by
    intro pair member
    apply escapes_eq_zero_of_le ((setPairs calls).map Prod.snd)
    · rw [List.map_map, List.map_map]
      exact weighed
    · exact List.mem_map_of_mem member
  have counted : (afterCalls calls).total (fun value => escapes value.text) = 0 := by
    have bound := additive_escapes.total_afterCalls_le plain
    have none : ((setPairs calls).map fun pair => escapes pair.2).sum = 0 := by
      rw [List.sum_eq_zero_iff_forall_eq_nat]
      intro count member
      obtain ⟨pair, listed, rfl⟩ := List.mem_map.mp member
      exact unescaped pair listed
    omega
  intro pair member
  obtain ⟨entry, listed, inside⟩ := List.mem_flatMap.mp (read.symm.subset member)
  have plainEntry : escapes (additionalString entry.1 entry.2) = 0 := by
    rw [additive_escapes.additionalString_eq (plain_key_of_mem plain listed).2.2.2]
    exact List.sum_eq_zero_iff_forall_eq_nat.mp counted _ (List.mem_map.mpr ⟨entry, listed, rfl⟩)
  obtain ⟨whole, noPlus⟩ := plain_of_mem_readPairs plainEntry pair inside
  exact ⟨whole, noPlus, unescaped pair member⟩

end HieroRelay.Mirror.Query
