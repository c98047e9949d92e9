import HieroRelay.Js.Text
import HieroRelay.Relay.CacheDecorator

/-! The text of a cache key: the name of the method and its arguments with underscores between
them. Arguments of different kinds are written as the same text, and so are lists of them. -/

namespace HieroRelay.Relay

open HieroRelay.Js

variable (numberToString : Rat → String)

/-- Objects are written as JSON, other values as in a template; the details of a request are left out. -/
def HandlerArg.text : HandlerArg → String
  | .undefined => "undefined"
  | .nan => "NaN"
  | .infinity => "Infinity"
  | .negativeInfinity => "-Infinity"
  | .json (.str text) => text
  | .json value => stringify numberToString value
  | .requestDetails _ => ""

/-- The key as the source writes it. -/
def CacheKey.text (key : CacheKey) : String :=
  key.args.foldl (fun cacheKey value => cacheKey ++ "_" ++ value.text numberToString) key.methodName

def writeArgs (args : List HandlerArg) : List Char := args.flatMap fun arg => '_' :: (arg.text numberToString).toList

variable {numberToString}

theorem toList_text (key : CacheKey) :
    (key.text numberToString).toList = key.methodName.toList ++ writeArgs numberToString key.args := by
  have step : ∀ (args : List HandlerArg) (start : String),
      (args.foldl (fun cacheKey value => cacheKey ++ "_" ++ value.text numberToString) start).toList =
        start.toList ++ writeArgs numberToString args := by
    intro args
    induction args with
    | nil =>
      intro start
      exact (List.append_nil _).symm
    | cons arg rest ih =>
      intro start
      rw [List.foldl_cons, ih]
      simp [writeArgs]
  exact step key.args key.methodName

/-- The text is not the one of a value of another type. -/
structure OwnText (numberToString : Rat → String) (text : String) : Prop where
  noWord : text ∉ ["undefined", "NaN", "Infinity", "-Infinity", "null", "true", "false"]
  noNumber : ∀ number, numberToString number ≠ text
  noArray : ∀ items, stringify numberToString (.arr items) ≠ text
  noObject : ∀ fields, stringify numberToString (.obj fields) ≠ text

variable {methodName : String} {args others : List HandlerArg} {arg : HandlerArg}

/-- Only the string itself has its own text. -/
theorem ownText_iff {text : String} : OwnText numberToString text ↔
    ∀ arg : HandlerArg, arg.isRequestDetails = false → arg.text numberToString = text → arg = .json (.str text) := by
  constructor
  · intro own arg plain same
    have word := own.noWord
    cases arg with
    | requestDetails details => cases plain
    | json value =>
      cases value with
      | num number => exact absurd same (own.noNumber number)
      | arr items => exact absurd same (own.noArray items)
      | obj fields => exact absurd same (own.noObject fields)
      | str string => rw [← same]; rfl
      | null => simp [← same, HandlerArg.text, stringify] at word
      | bool value => cases value <;> simp [← same, HandlerArg.text, stringify] at word
    | _ => simp [← same, HandlerArg.text] at word
  · intro only
    have differs : ∀ {arg : HandlerArg}, arg.isRequestDetails = false → arg ≠ .json (.str text) →
        arg.text numberToString ≠ text := fun plain other same => other (only _ plain same)
    refine ⟨?_, ?_, ?_, ?_⟩
    · have undefined := @differs .undefined rfl (by simp)
      have nan := @differs .nan rfl (by simp)
      have infinity := @differs .infinity rfl (by simp)
      have negativeInfinity := @differs .negativeInfinity rfl (by simp)
      have null := @differs (.json .null) rfl (by simp)
      have yes := @differs (.json (.bool true)) rfl (by simp)
      have no := @differs (.json (.bool false)) rfl (by simp)
      simp only [List.mem_cons, List.not_mem_nil, or_false, not_or]
      exact ⟨undefined.symm, nan.symm, infinity.symm, negativeInfinity.symm, null.symm, yes.symm, no.symm⟩
    · exact fun number => @differs (.json (.num number)) rfl (by simp)
    · exact fun items => @differs (.json (.arr items)) rfl (by simp)
    · exact fun fields => @differs (.json (.obj fields)) rfl (by simp)

theorem sameText_iff : (generateCacheKey methodName args).text numberToString =
      (generateCacheKey methodName others).text numberToString ↔
    writeArgs numberToString (args.filter (!·.isRequestDetails)) =
      writeArgs numberToString (others.filter (!·.isRequestDetails)) := by
  rw [← String.toList_inj, toList_text, toList_text]
  exact List.append_right_inj _

/-- No argument of the list is left out of a key. -/
def Written (args : List HandlerArg) : Prop := ∀ arg ∈ args, arg.isRequestDetails = false

theorem written_filter : Written (args.filter (!·.isRequestDetails)) := by
  intro arg member
  simpa using (List.mem_filter.mp member).2

theorem filter_of_written (written : Written args) : args.filter (!·.isRequestDetails) = args := by
  rw [List.filter_eq_self]
  intro arg member
  rw [written arg member]
  rfl

/-- The string with the text of an argument. -/
def asString (numberToString : Rat → String) (arg : HandlerArg) : HandlerArg := .json (.str (arg.text numberToString))

private theorem writeArgs_append (first second : List HandlerArg) : writeArgs numberToString (first ++ second) =
    writeArgs numberToString first ++ writeArgs numberToString second := List.flatMap_append

theorem writeArgs_cons (arg : HandlerArg) (rest : List HandlerArg) : writeArgs numberToString (arg :: rest) =
    '_' :: ((arg.text numberToString).toList ++ writeArgs numberToString rest) := rfl

/-- The arguments behind the first are written as a part of it in one string. -/
theorem writeArgs_joined (arg : HandlerArg) (rest : List HandlerArg) :
    writeArgs numberToString [.json (.str (String.ofList ((arg.text numberToString).toList ++
      writeArgs numberToString rest)))] = writeArgs numberToString (arg :: rest) := by
  rw [writeArgs_cons, writeArgs_cons]
  change '_' :: ((String.ofList _).toList ++ []) = _
  rw [String.toList_ofList, List.append_nil]

variable (numberToString) in
/-- A string is written as two arguments, where it has an underscore. -/
theorem writeArgs_split (first second : List Char) :
    writeArgs numberToString [.json (.str (String.ofList first)), .json (.str (String.ofList second))] =
      writeArgs numberToString [.json (.str (String.ofList (first ++ '_' :: second)))] := by
  rw [writeArgs_cons, writeArgs_cons, writeArgs_cons]
  simp [HandlerArg.text, writeArgs]

theorem count_writeArgs_cons (arg : HandlerArg) (rest : List HandlerArg) :
    (writeArgs numberToString (arg :: rest)).count '_' =
      (arg.text numberToString).toList.count '_' + (writeArgs numberToString rest).count '_' + 1 := by
  rw [writeArgs_cons, List.count_cons_self, List.count_append]

variable (numberToString) in
theorem length_le_count (args : List HandlerArg) : args.length ≤ (writeArgs numberToString args).count '_' := by
  induction args with
  | nil => exact Nat.zero_le _
  | cons arg rest ih =>
    rw [count_writeArgs_cons, List.length_cons]
    omega

/-- There are as many underscores as arguments exactly if none is inside an argument. -/
theorem count_writeArgs_iff : (writeArgs numberToString args).count '_' = args.length ↔
    ∀ arg ∈ args, '_' ∉ (arg.text numberToString).toList := by
  induction args with
  | nil => exact iff_of_true rfl (List.forall_mem_nil _)
  | cons arg rest ih =>
    have least := length_le_count numberToString rest
    rw [List.forall_mem_cons, ← ih, ← List.count_eq_zero, count_writeArgs_cons, List.length_cons]
    omega

theorem takeWhile_writeArgs {text : List Char} (plain : '_' ∉ text) (rest : List HandlerArg) :
    (text ++ writeArgs numberToString rest).takeWhile (· != '_') = text := by
  rw [List.takeWhile_append_of_pos]
  · have stops : (writeArgs numberToString rest).takeWhile (· != '_') = [] := by cases rest <;> rfl
    rw [stops, List.append_nil]
  · intro char member
    exact bne_iff_ne.mpr (ne_of_mem_of_not_mem member plain)

/-- Arguments without underscores are told apart by them. -/
theorem texts_of_writeArgs {first second : List HandlerArg}
    (plain : ∀ arg ∈ first, '_' ∉ (arg.text numberToString).toList)
    (plainToo : ∀ arg ∈ second, '_' ∉ (arg.text numberToString).toList)
    (same : writeArgs numberToString first = writeArgs numberToString second) :
    first.map (HandlerArg.text numberToString) = second.map (HandlerArg.text numberToString) := by
  induction first generalizing second with
  | nil =>
    cases second with
    | nil => rfl
    | cons arg rest => cases same
  | cons arg rest ih =>
    cases second with
    | nil => cases same
    | cons other others =>
      rw [List.forall_mem_cons] at plain plainToo
      rw [writeArgs_cons, writeArgs_cons] at same
      have tail := (List.cons.inj same).2
      have head := congrArg (List.takeWhile (· != '_')) tail
      rw [takeWhile_writeArgs plain.1, takeWhile_writeArgs plainToo.1] at head
      rw [head] at tail
      rw [List.map_cons, List.map_cons, String.toList_inj.mp head,
        ih plain.2 plainToo.2 (List.append_cancel_left tail)]

/-- One argument, which is a string, and whose text is no other argument nor two of them. -/
def Alone (numberToString : Rat → String) (args : List HandlerArg) : Prop :=
  args = [] ∨ ∃ text, args = [.json (.str text)] ∧ '_' ∉ text.toList ∧ OwnText numberToString text

private theorem alone_iff (written : Written args) :
    (∀ others, Written others → writeArgs numberToString args = writeArgs numberToString others → args = others) ↔
      Alone numberToString args := by
  constructor
  · intro unique
    match args with
    | [] => exact .inl rfl
    | first :: second :: rest =>
      have shorter := congrArg List.length
        (unique [_] (List.forall_mem_singleton.mpr rfl) (writeArgs_joined first (second :: rest)).symm)
      cases Nat.succ.inj shorter
    | [arg] =>
      have own : arg = asString numberToString arg :=
        List.singleton_inj.mp (unique [asString numberToString arg] (List.forall_mem_singleton.mpr rfl) rfl)
      refine .inr ⟨arg.text numberToString, by rw [← asString, ← own], ?_, ownText_iff.mpr ?_⟩
      · intro underscore
        obtain ⟨first, second, split⟩ := List.append_of_mem underscore
        have two := writeArgs_split numberToString first second
        rw [← split, String.ofList_toList, ← asString, ← own] at two
        have longer := unique _ (by simp [Written, HandlerArg.isRequestDetails]) two.symm
        cases longer
      · intro other plain same
        have equal := unique [other] (List.forall_mem_singleton.mpr plain) (by simp [writeArgs, same])
        rw [← asString, ← own]
        exact (List.singleton_inj.mp equal).symm
  · rintro (rfl | ⟨text, rfl, plain, own⟩) others writtenToo same
    · cases others with
      | nil => rfl
      | cons arg rest => cases same
    · cases others with
      | nil => cases same
      | cons arg rest =>
        have count := count_writeArgs_iff.mpr (List.forall_mem_singleton.mpr plain :
          ∀ arg ∈ [HandlerArg.json (.str text)], '_' ∉ (arg.text numberToString).toList)
        have least := length_le_count numberToString rest
        rw [same, count_writeArgs_cons, List.length_singleton] at count
        obtain rfl : rest = [] := List.length_eq_zero_iff.mp (by omega)
        have texts : text.toList = (arg.text numberToString).toList :=
          List.append_cancel_right (List.cons.inj same).2
        rw [ownText_iff.mp own arg (writtenToo arg List.mem_cons_self) (String.toList_inj.mp texts).symm]

/-- Strings whose texts are no other arguments, and of several of them none with an underscore. -/
def Apart (numberToString : Rat → String) (args : List HandlerArg) : Prop :=
  (∀ arg ∈ args, ∃ text, arg = .json (.str text) ∧ OwnText numberToString text) ∧
    (args.length = 1 ∨ ∀ arg ∈ args, '_' ∉ (arg.text numberToString).toList)

/-- An underscore inside one of two neighbours takes the place of the one between them. -/
theorem exists_moved {first second : HandlerArg}
    (underscore : '_' ∈ (first.text numberToString).toList ∨ '_' ∈ (second.text numberToString).toList) :
    ∃ left right : String, writeArgs numberToString [first, second] =
      writeArgs numberToString [.json (.str left), .json (.str right)] ∧
        (first.text numberToString ≠ left ∨ second.text numberToString ≠ right) := by
  rcases underscore with inFirst | inSecond
  · obtain ⟨before, after, split⟩ := List.append_of_mem inFirst
    refine ⟨String.ofList before, String.ofList (after ++ '_' :: (second.text numberToString).toList), ?_, .inl ?_⟩
    · rw [writeArgs_split, writeArgs_cons, split]
      simp [HandlerArg.text, writeArgs]
    · intro same
      have lengths := congrArg (List.length ∘ String.toList) same
      simp [split] at lengths
  · obtain ⟨before, after, split⟩ := List.append_of_mem inSecond
    refine ⟨String.ofList ((first.text numberToString).toList ++ '_' :: before), String.ofList after, ?_, .inr ?_⟩
    · rw [writeArgs_split, writeArgs_cons, writeArgs_cons, split]
      simp [HandlerArg.text, writeArgs]
    · intro same
      have lengths := congrArg (List.length ∘ String.toList) same
      simp [split] at lengths
      omega

/-- An argument which is not alone has a neighbour. -/
theorem exists_neighbour (member : arg ∈ args) (several : args.length ≠ 1) :
    ∃ before first second after, args = before ++ first :: second :: after ∧ (arg = first ∨ arg = second) := by
  obtain ⟨before, after, rfl⟩ := List.append_of_mem member
  cases after with
  | cons next rest => exact ⟨before, arg, next, rest, rfl, .inl rfl⟩
  | nil =>
    rcases List.eq_nil_or_concat before with rfl | ⟨start, last, rfl⟩
    · exact absurd rfl several
    · exact ⟨start, last, arg, [], by simp, .inr rfl⟩

private theorem writeArgs_replace {before middle middle' after : List HandlerArg}
    (same : writeArgs numberToString middle = writeArgs numberToString middle') :
    writeArgs numberToString (before ++ middle ++ after) = writeArgs numberToString (before ++ middle' ++ after) := by
  simp only [writeArgs_append, same]

theorem apart_iff (written : Written args) :
    (∀ others, Written others → others.length = args.length →
      writeArgs numberToString args = writeArgs numberToString others → args = others) ↔ Apart numberToString args := by
  constructor
  · intro unique
    refine ⟨?_, or_iff_not_imp_left.mpr ?_⟩
    · intro arg member
      obtain ⟨before, after, rfl⟩ := List.append_of_mem member
      have only : ∀ other : HandlerArg, other.isRequestDetails = false →
          other.text numberToString = arg.text numberToString → arg = other := by
        intro other plain same
        have equal := unique (before ++ other :: after) (by grind [Written]) (by simp)
          (by simp [writeArgs, same])
        exact (List.cons.inj (List.append_cancel_left equal)).1
      refine ⟨arg.text numberToString, only (asString numberToString arg) rfl rfl, ownText_iff.mpr ?_⟩
      intro other plain same
      rw [← asString, ← only (asString numberToString arg) rfl rfl, only other plain same]
    · intro several arg member underscore
      obtain ⟨before, first, second, after, rfl, place⟩ := exists_neighbour member several
      obtain ⟨left, right, same, differs⟩ := @exists_moved numberToString first second
        (by rcases place with rfl | rfl <;> simp [underscore])
      have equal := unique (before ++ [.json (.str left), .json (.str right)] ++ after)
        (by grind [Written, HandlerArg.isRequestDetails]) (by simp)
        (by simpa using @writeArgs_replace _ before _ _ after same)
      rw [List.append_assoc] at equal
      obtain ⟨rfl, rest⟩ := List.cons.inj (List.append_cancel_left equal)
      obtain ⟨rfl, -⟩ := List.cons.inj rest
      rcases differs with differs | differs <;> exact differs rfl
  · rintro ⟨strings, plain⟩ others writtenToo lengths same
    have texts : args.map (HandlerArg.text numberToString) = others.map (HandlerArg.text numberToString) := by
      rcases plain with single | plain
      · obtain ⟨arg, rfl⟩ := List.length_eq_one_iff.mp single
        obtain ⟨other, rfl⟩ := List.length_eq_one_iff.mp lengths
        have tail := List.append_cancel_right (List.cons.inj same).2
        rw [List.map_singleton, List.map_singleton, String.toList_inj.mp tail]
      · refine texts_of_writeArgs plain (count_writeArgs_iff.mp ?_) same
        rw [← same, lengths, count_writeArgs_iff.mpr plain]
    apply List.ext_getElem lengths.symm
    intro index inArgs inOthers
    obtain ⟨text, string, own⟩ := strings _ (List.getElem_mem inArgs)
    have sameText : args[index].text numberToString = others[index].text numberToString := by
      have at_ := congrArg (·[index]?) texts
      simpa [inArgs, inOthers] using at_
    rw [string] at sameText ⊢
    exact (ownText_iff.mp own _ (writtenToo _ (List.getElem_mem inOthers)) sameText.symm).symm

/-- Besides the details of the request there is at most one argument, a string without underscores
and with a text of its own, exactly if no other arguments have the same key. Among as many arguments
it is enough that they are such strings, and a single one may have underscores. -/
theorem cacheKey_unique_iff (numberToString : Rat → String) (methodName : String) (args : List HandlerArg) :
    ((∀ others, (generateCacheKey methodName args).text numberToString =
        (generateCacheKey methodName others).text numberToString →
          args.filter (!·.isRequestDetails) = others.filter (!·.isRequestDetails)) ↔
      Alone numberToString (args.filter (!·.isRequestDetails))) ∧
    ((∀ others, (others.filter (!·.isRequestDetails)).length = (args.filter (!·.isRequestDetails)).length →
        (generateCacheKey methodName args).text numberToString =
          (generateCacheKey methodName others).text numberToString →
            args.filter (!·.isRequestDetails) = others.filter (!·.isRequestDetails)) ↔
      Apart numberToString (args.filter (!·.isRequestDetails))) := by
  constructor
  · rw [← alone_iff written_filter]
    constructor
    · intro unique others written same
      have kept := filter_of_written written
      rw [← kept]
      exact unique others (sameText_iff.mpr (by rwa [kept]))
    · exact fun unique others same => unique _ written_filter (sameText_iff.mp same)
  · rw [← apart_iff written_filter]
    constructor
    · intro unique others written lengths same
      have kept := filter_of_written written
      rw [← kept]
      exact unique others (by rwa [kept]) (sameText_iff.mpr (by rwa [kept]))
    · exact fun unique others lengths same => unique _ written_filter lengths (sameText_iff.mp same)

/-- A string and a boolean with the same text. -/
theorem getBlockByHash_sameKey : ¬ ∀ args others : List HandlerArg,
    (generateCacheKey "getBlockByHash" args).text toString =
      (generateCacheKey "getBlockByHash" others).text toString →
        args.filter (!·.isRequestDetails) = others.filter (!·.isRequestDetails) := by
  intro unique
  have equal := unique [.json (.str "0xab"), .json (.bool true)] [.json (.str "0xab"), .json (.str "true")] rfl
  cases (List.cons.inj (List.cons.inj equal).2).1

end HieroRelay.Relay
