import HieroRelay.Entities.MirrorNodeClient
import HieroRelay.Mirror.QueryParams

/-! Parameters that are texts under ordinary names, as the lookups of entities set them: the object is
the list of its names and texts. -/

namespace HieroRelay.Mirror.Query

open HieroRelay.Entities
open HieroRelay.Lib

/-- A text that may be missing. -/
def textValue : Option String → Value
  | none => .undefined
  | some text => .scalar (.string text.toList)

/-- A name that objects do not inherit and that is no array index. -/
def OrdinaryName (name : String) : Prop :=
  name ≠ "" ∧ inheritedText name.toList = none ∧ arrayIndex name.toList = none

def entryOf (param : String × String) : Text × Value := (param.1.toList, .scalar (.string param.2.toList))

/-- The object has the entries of the list, none of them empty. -/
structure Represents (params : Params) (held : MirrorNodeClient.QueryParams) : Prop where
  entries : params.entries = held.map entryOf
  filled : ∀ param ∈ held, param.2 ≠ ""
  named : ∀ param ∈ held, OrdinaryName param.1

private theorem represents_empty : Represents Table.empty [] :=
  ⟨rfl, fun _ member => absurd member List.not_mem_nil, fun _ member => absurd member List.not_mem_nil⟩

section Entries

variable {held : MirrorNodeClient.QueryParams} {name text : String}

private theorem lookup_map_entryOf (held : MirrorNodeClient.QueryParams)
    (distinct : ((held.map entryOf).map Prod.fst).Nodup)
    (name : String) : Table.get ⟨held.map entryOf, distinct⟩ name.toList =
      (held.find? (·.1 = name)).map fun param => .scalar (.string param.2.toList) := by
  induction held with
  | nil => rfl
  | cons param rest ih =>
    have later := ih (List.nodup_cons.mp distinct).2
    have looked : Table.get ⟨(param :: rest).map entryOf, distinct⟩ name.toList =
        if name.toList = param.1.toList then some (.scalar (.string param.2.toList))
        else Table.get ⟨rest.map entryOf, (List.nodup_cons.mp distinct).2⟩ name.toList :=
      Table.lookup_cons_eq_ite _ _ _ _
    rw [looked, later, List.find?_cons]
    by_cases same : param.1 = name
    · rw [if_pos (congrArg String.toList same.symm), decide_eq_true same]
      rfl
    · rw [if_neg fun also => same (String.toList_injective also).symm, decide_eq_false same]

private theorem assignEntry_append (absent : ∀ param ∈ held, param.1 ≠ name) (text : String) :
    Table.assignEntry name.toList (.scalar (.string text.toList)) (held.map entryOf) =
      (held ++ [(name, text)]).map entryOf := by
  induction held with
  | nil => rfl
  | cons param rest ih =>
    rw [List.forall_mem_cons] at absent
    have different : param.1.toList ≠ name.toList := fun same => absent.1 (String.toList_injective same)
    rw [List.map_cons, entryOf, Table.assignEntry, if_neg different, ih absent.2]
    rfl

/-- The one entry with the name is replaced. -/
theorem assignEntry_replace (distinct : ((held.map entryOf).map Prod.fst).Nodup) (change : String → String)
    (found : (name, text) ∈ held) :
    Table.assignEntry name.toList (.scalar (.string (change text).toList)) (held.map entryOf) =
      (held.map fun param => if param.1 = name then (param.1, change param.2) else param).map entryOf := by
  induction held with
  | nil => cases found
  | cons param rest ih =>
    have apart := List.nodup_cons.mp distinct
    have alone : ∀ other ∈ rest, other.1 ≠ param.1 := by
      intro other member same
      exact apart.1 (List.mem_map.mpr ⟨entryOf other, List.mem_map_of_mem member, congrArg String.toList same⟩)
    rw [List.map_cons, List.map_cons, List.map_cons, entryOf, Table.assignEntry]
    by_cases same : param.1 = name
    · subst same
      have first : text = param.2 := by
        obtain here | later := List.mem_cons.mp found
        · exact congrArg Prod.snd here
        · exact absurd rfl (alone (param.1, text) later)
      have unchanged :
          (rest.map fun other => if other.1 = param.1 then (other.1, change other.2) else other) = rest := by
        calc (rest.map fun other => if other.1 = param.1 then (other.1, change other.2) else other)
            = rest.map id := List.map_congr_left fun other member => if_neg (alone other member)
          _ = rest := List.map_id rest
      rw [unchanged, first, if_pos rfl, if_pos rfl]
      rfl
    · have later : (name, text) ∈ rest := (List.mem_cons.mp found).resolve_left fun here =>
        same (congrArg Prod.fst here).symm
      have different : param.1.toList ≠ name.toList := fun also => same (String.toList_injective also)
      rw [if_neg different, if_neg same, ih apart.2 later]
      rfl

end Entries

/-- What is written behind a text that is held. -/
def extend (name text before : String) : String := s!"{before}&{name}={text}"

theorem toList_extend (name text before : String) :
    (extend name text before).toList = before.toList ++ '&' :: name.toList ++ '=' :: text.toList := by
  simp [extend, toString]

private theorem extend_ne_empty (name text before : String) : extend name text before ≠ "" := by
  intro empty
  have none := toList_extend name text before
  rw [empty] at none
  simp at none

private theorem given_of_text {text : String} (filled : text ≠ "") : (textValue (some text)).given = true := by
  cases chars : text.toList with
  | nil => exact absurd (String.toList_eq_nil_iff.mp chars) filled
  | cons char rest =>
    rw [textValue, chars]
    rfl

private theorem text_of_given {value : Option String} (given : (textValue value).given = true) :
    ∃ text, value = some text ∧ text ≠ "" := by
  cases value with
  | none => cases given
  | some text =>
    refine ⟨text, rfl, ?_⟩
    rintro rfl
    cases given

theorem OrdinaryName.not_prototype {name : String} (ordinary : OrdinaryName name) :
    name.toList ≠ "__proto__".toList := by
  intro same
  have inherits := ordinary.2.1
  rw [same] at inherits
  cases inherits

private theorem setQueryParam_text (held : MirrorNodeClient.QueryParams) (name : String) {text : String}
    (filled : text ≠ "") :
    MirrorNodeClient.setQueryParam held name (some text) =
      if held.any (·.1 = name) then
        held.map fun param => if param.1 = name then (param.1, extend name text param.2) else param
      else held ++ [(name, text)] := by
  rw [MirrorNodeClient.setQueryParam]
  · rfl
  · exact filled

/-- A call with a text keeps the object and the list together. -/
theorem Represents.setQueryParam {params : Params} {held : MirrorNodeClient.QueryParams}
    (represents : Represents params held) {name : String} (ordinary : OrdinaryName name) (value : Option String) :
    Represents (setQueryParam params name.toList (textValue value))
      (MirrorNodeClient.setQueryParam held name value) := by
  obtain ⟨entries, distinct⟩ := params
  obtain ⟨rfl, filled, named⟩ := represents
  by_cases given : (textValue value).given = true
  · obtain ⟨text, rfl, some⟩ := text_of_given given
    have key : name.toList ≠ [] := fun empty => ordinary.1 (String.toList_eq_nil_iff.mp empty)
    have stored := lookup_map_entryOf held distinct name
    rw [Query.setQueryParam, if_pos ⟨key, given⟩, setQueryParam_text held name some, stored]
    cases found : held.find? (·.1 = name) with
    | none =>
      have absent : ∀ param ∈ held, param.1 ≠ name := by
        simpa using List.find?_eq_none.mp found
      have never : ¬held.any (·.1 = name) = true := by
        rw [List.any_eq_true]
        rintro ⟨param, member, same⟩
        exact absent param member (of_decide_eq_true same)
      rw [Option.map_none, truthyText, ordinary.2.1, if_neg never]
      refine ⟨?_, ?_, ?_⟩
      · exact (congrArg Table.entries (if_neg ordinary.not_prototype)).trans (assignEntry_append absent text)
      · rw [List.forall_mem_append]
        exact ⟨filled, by simpa using some⟩
      · rw [List.forall_mem_append]
        exact ⟨named, by simpa using ordinary⟩
    | some param =>
      obtain ⟨other, before⟩ := param
      have member := List.mem_of_find?_eq_some found
      obtain rfl : other = name := by simpa using List.find?_some found
      have truthy : (Value.scalar (.string before.toList)).truthy = true := by
        simpa [Value.truthy, Scalar.truthy] using filled _ member
      rw [Option.map_some, truthyText, if_pos truthy, if_pos (List.any_eq_true.mpr ⟨_, member, by simp⟩)]
      refine ⟨?_, ?_, ?_⟩
      · refine (congrArg Table.entries (if_neg ordinary.not_prototype)).trans ?_
        have replaced := assignEntry_replace distinct (extend other text) member
        rw [toList_extend] at replaced
        exact replaced
      · intro param changed
        obtain ⟨param, old, rfl⟩ := List.mem_map.mp changed
        split
        · exact extend_ne_empty _ _ _
        · exact filled param old
      · intro param changed
        obtain ⟨param, old, rfl⟩ := List.mem_map.mp changed
        split
        · exact named param old
        · exact named param old
  · have skipped : MirrorNodeClient.setQueryParam held name value = held := by
      cases value with
      | none => rfl
      | some text =>
        have empty : text = "" := by
          by_contra filled
          exact given (given_of_text filled)
        rw [empty]
        rfl
    rw [skipped, Query.setQueryParam, if_neg fun taken => given taken.2]
    exact ⟨rfl, filled, named⟩

theorem Represents.getQueryParams {params : Params} {held : MirrorNodeClient.QueryParams}
    (represents : Represents params held) : getQueryParams params = (MirrorNodeClient.getQueryParams held).toList := by
  have inOrder : objectEntries params = held.map entryOf := by
    have noIndex : ∀ entry ∈ params.entries, arrayIndex entry.1 = none := by
      rw [represents.entries]
      intro entry member
      obtain ⟨param, listed, rfl⟩ := List.mem_map.mp member
      exact (represents.named param listed).2.2
    have front : (params.entries.filter fun entry => (arrayIndex entry.1).isSome) = [] := by
      rw [List.filter_eq_nil_iff]
      intro entry member
      rw [noIndex entry member]
      exact Bool.false_ne_true
    have back : (params.entries.filter fun entry => !(arrayIndex entry.1).isSome) = params.entries := by
      rw [List.filter_eq_self]
      intro entry member
      rw [noIndex entry member]
      rfl
    rw [objectEntries, front, back, represents.entries]
    rfl
  have written : ∀ (held : MirrorNodeClient.QueryParams) (text : String),
      (held.map entryOf).foldl (fun paramString entry =>
          paramString ++ (if paramString = [] then '?' else '&') :: additionalString entry.1 entry.2) text.toList =
        (held.foldl (fun text param =>
          if text = "" then s!"?{param.1}={param.2}" else s!"{text}&{param.1}={param.2}") text).toList := by
    intro held
    induction held with
    | nil => exact fun text => rfl
    | cons param rest ih =>
      intro text
      have added : additionalString (entryOf param).1 (entryOf param).2 = param.1.toList ++ '=' :: param.2.toList := rfl
      rw [List.map_cons, List.foldl_cons, List.foldl_cons, ← ih, added]
      congr 1
      by_cases empty : text = ""
      · subst empty
        simp [toString]
      · have behind : text.toList ≠ [] := fun same => empty (String.toList_eq_nil_iff.mp same)
        rw [if_neg behind, if_neg empty]
        simp [toString]
  rw [Query.getQueryParams, inOrder]
  exact written held ""

/-- The calls of the lookups give the text that the general object gives. -/
theorem getQueryParams_textCalls (calls : List (String × Option String))
    (ordinary : ∀ call ∈ calls, OrdinaryName call.1) :
    getQueryParams (afterCalls (calls.map fun call => (call.1.toList, textValue call.2))) =
      (MirrorNodeClient.getQueryParams
        (calls.foldl (fun held call => MirrorNodeClient.setQueryParam held call.1 call.2) [])).toList := by
  have run : ∀ (calls : List (String × Option String)) (params : Params) (held : MirrorNodeClient.QueryParams),
      (∀ call ∈ calls, OrdinaryName call.1) → Represents params held →
      Represents
        ((calls.map fun call => (call.1.toList, textValue call.2)).foldl
          (fun params call => Query.setQueryParam params call.1 call.2) params)
        (calls.foldl (fun held call => MirrorNodeClient.setQueryParam held call.1 call.2) held) := by
    intro calls
    induction calls with
    | nil => exact fun params held _ represents => represents
    | cons call rest ih =>
      intro params held ordinary represents
      rw [List.forall_mem_cons] at ordinary
      exact ih _ _ ordinary.2 (represents.setQueryParam ordinary.1 call.2)
  exact (run calls Table.empty [] ordinary represents_empty).getQueryParams

theorem ordinaryName_timestamp : OrdinaryName "timestamp" := ⟨by decide, by decide, by decide⟩

private theorem ordinaryName_transactions : OrdinaryName "transactions" := ⟨by decide, by decide, by decide⟩

/-- The paths of the lookups end with the query of their calls. -/
theorem lookupPaths_query (identifier : String) (timestamp : Option String) :
    MirrorNodeClient.contractPath identifier timestamp =
        "contracts/" ++ identifier ++
          String.ofList (getQueryParams (afterCalls [("timestamp".toList, textValue timestamp)])) ∧
      MirrorNodeClient.accountPath identifier timestamp =
        "accounts/" ++ identifier ++ String.ofList (getQueryParams (afterCalls
          [("timestamp".toList, textValue timestamp), ("transactions".toList, textValue (some "false"))])) := by
  have contract := getQueryParams_textCalls [("timestamp", timestamp)] (by simpa using ordinaryName_timestamp)
  have account := getQueryParams_textCalls [("timestamp", timestamp), ("transactions", some "false")]
    (by simpa using ⟨ordinaryName_timestamp, ordinaryName_transactions⟩)
  rw [List.map_cons, List.map_nil] at contract
  rw [List.map_cons, List.map_cons, List.map_nil] at account
  rw [contract, account, String.ofList_toList, String.ofList_toList]
  exact ⟨rfl, rfl⟩

end HieroRelay.Mirror.Query
