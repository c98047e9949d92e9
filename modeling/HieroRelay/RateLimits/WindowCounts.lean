import HieroRelay.Lib.Windows
import HieroRelay.RateLimits.LruRateLimitStore

/-! The store in memory counts the requests of each method in the window of the IP address,
as long as no window begins anew with an inherited name or a limit of zero. -/

namespace HieroRelay.RateLimits

open HieroRelay.Lib

/-- The record of a method, a new one where there is none. -/
def DatabaseEntry.infoOf (entry : DatabaseEntry) (method : String) (total : Nat) : MethodDatabase :=
  (entry.methodInfo.get method).getD { methodName := method, remaining := total, total }

namespace Realm

variable {realm before middle after : Realm} {ip method : String} {entry : DatabaseEntry} {info : MethodDatabase}

/-- The entry of one address was written, and nothing else. -/
structure Writes (ip : String) (entry : DatabaseEntry) (before after : Realm) : Prop where
  builtins : after.builtins = before.builtins
  duration : after.store.duration = before.store.duration
  database : ∀ other, after.store.database.get other =
    if other = ip then some entry else before.store.database.get other

theorem writes_setEntry (realm : Realm) (ip : String) (entry : DatabaseEntry) :
    Writes ip entry realm (realm.setEntry ip entry) where
  builtins := rfl
  duration := rfl
  database other := Table.get_assign realm.store.database ip other entry

theorem Writes.trans {first : DatabaseEntry} (one : Writes ip first before middle)
    (two : Writes ip entry middle after) :
    Writes ip entry before after where
  builtins := two.builtins.trans one.builtins
  duration := two.duration.trans one.duration
  database other := by
    rw [two.database other, one.database other]
    split_ifs <;> rfl

theorem Writes.entryOf (writes : Writes ip entry before after) : after.entryOf ip = entry := by
  rw [Realm.entryOf, writes.database, if_pos rfl, Option.getD_some]

private theorem writes_self (held : realm.store.database.get ip = some entry) : Writes ip entry realm realm where
  builtins := rfl
  duration := rfl
  database other := by
    split_ifs with same
    · exact same ▸ held
    · rfl

theorem find_own (held : (realm.entryOf ip).methodInfo.get method = some info) :
    realm.find ip method = some (.own info) := by
  rw [find, held]

theorem find_inherited (absent : (realm.entryOf ip).methodInfo.get method = none)
    (inherited : method ∈ inheritedNames) :
    realm.find ip method = some (.builtin method) := by
  rw [find, absent]
  exact if_pos inherited

private theorem find_absent (untouched : realm.builtins = pristine)
    (absent : (realm.entryOf ip).methodInfo.get method = none)
    (ordinary : method ∉ inheritedNames) : realm.find ip method = none := by
  rw [find, absent]
  simp [ordinary, prototype, untouched, pristine]

theorem setField_own (writes : Writes ip entry before realm) (held : entry.methodInfo.get method = some info)
    (field : CounterField) (value : Nat) :
    ∃ after, realm.setField ip method field value = .ok after ∧
      Writes ip { entry with methodInfo := entry.methodInfo.assign method (info.set value field) } before after := by
  have found : (realm.entryOf ip).methodInfo.get method = some info := writes.entryOf ▸ held
  rw [setField, find_own found]
  refine ⟨_, rfl, ?_⟩
  rw [writes.entryOf]
  exact writes.trans (writes_setEntry _ _ _)

theorem decreaseRemaining_own (writes : Writes ip entry before realm) (held : entry.methodInfo.get method = some info) :
    ∃ after, realm.decreaseRemaining ip method = .ok after ∧
      Writes ip { entry with
        methodInfo := entry.methodInfo.assign method (info.set (info.remaining - 1) .remaining) } before after := by
  have found : (realm.entryOf ip).methodInfo.get method = some info := writes.entryOf ▸ held
  have remaining : (if isPositive ((realm.find ip method).bind realm.remainingOf) then
      ((realm.find ip method).bind realm.remainingOf).getD 0 - 1 else 0) = info.remaining - 1 := by
    rw [find_own found]
    simp only [Option.bind_some, remainingOf, isPositive, Option.any_some, Option.getD_some, decide_eq_true_eq]
    split_ifs with positive
    · rfl
    · omega
  rw [decreaseRemaining, remaining]
  exact setField_own writes held _ _

theorem writes_restart (writes : Writes ip entry before realm) (now : Nat) :
    Writes ip {
      reset := now + before.store.duration
      methodInfo := entry.methodInfo.mapValues fun info => { info with remaining := info.total } } before
      (realm.restart ip now) := by
  rw [restart, writes.entryOf, writes.duration]
  exact writes.trans (writes_setEntry _ _ _)

/-- The entry of an address, a new one where there is none. -/
def openedEntry (realm : Realm) (ip : String) (now : Nat) : DatabaseEntry :=
  (realm.store.database.get ip).getD { reset := now + realm.store.duration, methodInfo := .empty }

theorem writes_withIp (realm : Realm) (ip : String) (now : Nat) :
    Writes ip (realm.openedEntry ip now) realm (realm.withIp ip now) := by
  unfold withIp checkIpExist openedEntry
  cases held : realm.store.database.get ip with
  | none => exact writes_setEntry realm ip _
  | some entry => exact writes_self held

theorem writes_precheck_known {now limit : Nat}
    (known : ((realm.openedEntry ip now).methodInfo.get method).isSome = true ∨
    method ∈ inheritedNames) : Writes ip (realm.openedEntry ip now) realm (realm.precheck ip method limit now) := by
  have writes := writes_withIp realm ip now
  have exist : (realm.withIp ip now).checkMethodExist ip method = true := by
    unfold checkMethodExist find
    rw [writes.entryOf]
    cases held : (realm.openedEntry ip now).methodInfo.get method with
    | some info => rfl
    | none =>
        rcases known with found | inherited
        · rw [held] at found
          cases found
        · simp [inherited]
  rw [precheck, withMethod, if_pos exist]
  exact writes

/-- The check before an ordinary method has its record in the entry. -/
theorem writes_precheck (ip : String) (untouched : realm.builtins = pristine) (ordinary : method ∉ inheritedNames)
    (limit now : Nat) :
    ∃ entry, Writes ip entry realm (realm.precheck ip method limit now) ∧
      entry.reset = (realm.openedEntry ip now).reset ∧
      ∀ other, entry.methodInfo.get other = if other = method then
        some ((realm.openedEntry ip now).infoOf method limit) else (realm.openedEntry ip now).methodInfo.get other := by
  have writes := writes_withIp realm ip now
  cases held : (realm.openedEntry ip now).methodInfo.get method with
  | some info =>
      refine ⟨_, writes_precheck_known (.inl (by rw [held]; rfl)), rfl, ?_⟩
      intro other
      rw [DatabaseEntry.infoOf, held]
      split_ifs with same
      · rw [same, held, Option.getD_some]
      · rfl
  | none =>
      have absent : (realm.withIp ip now).checkMethodExist ip method = false := by
        rw [checkMethodExist, find_absent (writes.builtins.trans untouched) (writes.entryOf ▸ held) ordinary]
        rfl
      rw [precheck, withMethod, absent]
      refine ⟨_, writes.trans (writes_setEntry _ ip _), ?_, ?_⟩
      · rw [writes.entryOf]
      · intro other
        rw [writes.entryOf, Table.get_assign, DatabaseEntry.infoOf, held, Option.getD_none]

variable {now : Nat}

/-- A request in the window of its address. -/
theorem incrementAndCheck_stays (limit : Nat) (untouched : realm.builtins = pristine)
    (ordinary : method ∉ inheritedNames) (stays : ¬ (realm.openedEntry ip now).reset < now) :
    ∃ after entry, realm.incrementAndCheck { ip, method } limit now =
        .ok (decide (((realm.openedEntry ip now).infoOf method limit).remaining = 0), after) ∧
      Writes ip entry realm after ∧ entry.reset = (realm.openedEntry ip now).reset ∧
      ∀ other, entry.methodInfo.get other = if other = method then
        some { (realm.openedEntry ip now).infoOf method limit with
          remaining := ((realm.openedEntry ip now).infoOf method limit).remaining - 1 }
        else (realm.openedEntry ip now).methodInfo.get other := by
  obtain ⟨entry, writes, sameReset, infos⟩ := writes_precheck ip untouched ordinary limit now
  have held : ((realm.precheck ip method limit now).entryOf ip).methodInfo.get method =
      some ((realm.openedEntry ip now).infoOf method limit) := by
    rw [writes.entryOf, infos, if_pos rfl]
  have unreset : (realm.precheck ip method limit now).shouldReset ip now = false := by
    rw [shouldReset, writes.entryOf, sameReset]
    exact decide_eq_false stays
  have positive : (realm.precheck ip method limit now).checkRemaining ip method =
      decide (0 < ((realm.openedEntry ip now).infoOf method limit).remaining) := by
    rw [checkRemaining, find_own held]
    rfl
  simp only [incrementAndCheck, unreset, Bool.not_false, if_true, positive, decide_eq_true_eq]
  by_cases left : 0 < ((realm.openedEntry ip now).infoOf method limit).remaining
  · obtain ⟨after, decreased, again⟩ := decreaseRemaining_own writes ((infos method).trans (if_pos rfl))
    rw [if_pos left, decreased, decide_eq_false (Nat.ne_of_gt left)]
    refine ⟨after, _, rfl, again, sameReset, ?_⟩
    intro other
    rw [Table.get_assign, infos]
    split_ifs <;> rfl
  · have exhausted : ((realm.openedEntry ip now).infoOf method limit).remaining = 0 := Nat.eq_zero_of_not_pos left
    rw [if_neg left, decide_eq_true exhausted]
    refine ⟨_, entry, rfl, writes, sameReset, ?_⟩
    intro other
    have same : ((realm.openedEntry ip now).infoOf method limit).remaining - 1 =
        ((realm.openedEntry ip now).infoOf method limit).remaining := by omega
    rw [infos, same]

/-- A request after the window of its address. -/
theorem incrementAndCheck_resets (limit : Nat) (untouched : realm.builtins = pristine)
    (ordinary : method ∉ inheritedNames) (ended : (realm.openedEntry ip now).reset < now) :
    ∃ after entry, realm.incrementAndCheck { ip, method } limit now = .ok (false, after) ∧
      Writes ip entry realm after ∧ entry.reset = now + realm.store.duration ∧
      ∀ other, entry.methodInfo.get other = if other = method then
        some { methodName := ((realm.openedEntry ip now).infoOf method limit).methodName
               remaining := limit - 1
               total := limit }
        else ((realm.openedEntry ip now).methodInfo.get other).map fun info => { info with remaining := info.total } := by
  obtain ⟨entry, writes, sameReset, infos⟩ := writes_precheck ip untouched ordinary limit now
  have resets : (realm.precheck ip method limit now).shouldReset ip now = true := by
    rw [shouldReset, writes.entryOf, sameReset]
    exact decide_eq_true ended
  have held : (entry.methodInfo.mapValues fun info => { info with remaining := info.total }).get method =
      some { (realm.openedEntry ip now).infoOf method limit with
        remaining := ((realm.openedEntry ip now).infoOf method limit).total } := by
    rw [Table.get_mapValues, infos, if_pos rfl, Option.map_some]
  obtain ⟨refilled, setRemaining, first⟩ := setField_own (writes_restart writes now) held .remaining limit
  obtain ⟨limited, setTotal, second⟩ := setField_own first ((Table.get_assign ..).trans (if_pos rfl)) .total limit
  obtain ⟨after, decreased, last⟩ := decreaseRemaining_own second ((Table.get_assign ..).trans (if_pos rfl))
  have answered : realm.incrementAndCheck { ip, method } limit now = .ok (false, after) := by
    have refills : (realm.precheck ip method limit now).reset ip method limit now = .ok limited := by
      rw [reset, setRemaining]
      exact setTotal
    simp only [incrementAndCheck, resets, Bool.not_true, Bool.false_eq_true, if_false, refills]
    exact congrArg (fun outcome => outcome >>= fun realm => pure (false, realm)) decreased
  refine ⟨after, _, answered, last, rfl, ?_⟩
  intro other
  rw [Table.get_assign, Table.get_assign, Table.get_assign, Table.get_mapValues, infos]
  split_ifs <;> rfl

/-- An inherited name is never allowed within a window. -/
theorem incrementAndCheck_inherited (limit : Nat) (untouched : realm.builtins = pristine)
    (inherited : method ∈ inheritedNames) (absent : (realm.openedEntry ip now).methodInfo.get method = none)
    (stays : ¬ (realm.openedEntry ip now).reset < now) :
    ∃ after, realm.incrementAndCheck { ip, method } limit now = .ok (true, after) ∧
      Writes ip (realm.openedEntry ip now) realm after := by
  have writes : Writes ip (realm.openedEntry ip now) realm (realm.precheck ip method limit now) :=
    writes_precheck_known (.inr inherited)
  have unreset : (realm.precheck ip method limit now).shouldReset ip now = false := by
    rw [shouldReset, writes.entryOf]
    exact decide_eq_false stays
  have found := find_inherited (writes.entryOf ▸ absent) inherited
  have exhausted : (realm.precheck ip method limit now).checkRemaining ip method = false := by
    rw [checkRemaining, found, Option.bind_some, remainingOf, prototype, writes.builtins.trans untouched]
    rfl
  refine ⟨_, ?_, writes⟩
  simp only [incrementAndCheck, unreset, Bool.not_false, if_true, exhausted, Bool.false_eq_true, if_false]

/-- A built-in object was given a property. -/
def setBuiltin (realm : Realm) (name : String) (field : CounterField) (value : Nat) : Realm :=
  { realm with builtins := Function.update realm.builtins name ((realm.builtins name).set value field) }

theorem setField_inherited (realm : Realm) (absent : (realm.entryOf ip).methodInfo.get method = none)
    (inherited : method ∈ inheritedNames) (field : CounterField) (value : Nat) :
    realm.setField ip method field value = .ok (realm.setBuiltin method field value) := by
  rw [setField, find_inherited absent inherited]
  rfl

/-- An inherited name that begins a window anew writes to the object that it finds. -/
theorem incrementAndCheck_pollutes (limit : Nat) (inherited : method ∈ inheritedNames)
    (absent : (realm.openedEntry ip now).methodInfo.get method = none)
    (ended : (realm.openedEntry ip now).reset < now) :
    ∃ after, realm.incrementAndCheck { ip, method } limit now = .ok (false, after) ∧
      (after.builtins method).total = some limit := by
  have writes : Writes ip (realm.openedEntry ip now) realm (realm.precheck ip method limit now) :=
    writes_precheck_known (.inr inherited)
  have resets : (realm.precheck ip method limit now).shouldReset ip now = true := by
    rw [shouldReset, writes.entryOf]
    exact decide_eq_true ended
  have restarted : (((realm.precheck ip method limit now).restart ip now).entryOf ip).methodInfo.get method = none := by
    rw [(writes_restart writes now).entryOf, Table.get_mapValues, absent, Option.map_none]
  have refills : (realm.precheck ip method limit now).reset ip method limit now =
      .ok ((((realm.precheck ip method limit now).restart ip now).setBuiltin method .remaining limit).setBuiltin method
        .total limit) := by
    rw [reset, setField_inherited _ restarted inherited]
    exact setField_inherited (((realm.precheck ip method limit now).restart ip now).setBuiltin method
      .remaining limit) restarted inherited .total limit
  have decreased := fun value => setField_inherited
    ((((realm.precheck ip method limit now).restart ip now).setBuiltin method .remaining limit).setBuiltin
      method .total limit) restarted inherited .remaining value
  simp only [incrementAndCheck, resets, Bool.not_true, Bool.false_eq_true, if_false, refills]
  refine ⟨_, congrArg (fun outcome => outcome >>= fun realm => pure (false, realm)) (decreased _), ?_⟩
  simp [setBuiltin, Counters.set]

end Realm

/-- The requests of an IP address share its windows. -/
def ipWindows (duration : Nat) (ip : String) : Windows RateRequest where
  duration
  time request := request.now
  belongs request := request.key.ip = ip

def ofMethod (method : String) (_ : List RateRequest) (request : RateRequest) : Bool := request.key.method = method

section Counts

variable (duration : Nat) (limits : String → Nat)

/-- How many requests for the method of a request came before it in the window of its address. -/
def usedBefore (earlier : List RateRequest) (request : RateRequest) : Nat :=
  (ipWindows duration request.key.ip).countIn (ofMethod request.key.method)
    ((ipWindows duration request.key.ip).startOf earlier request) earlier

/-- The request does not begin a window anew with an inherited name or a limit of zero. -/
def Harmless (earlier : List RateRequest) (request : RateRequest) : Prop :=
  (ipWindows duration request.key.ip).reopens earlier request = true →
    request.key.method ∉ inheritedNames ∧ 0 < limits request.key.method

/-- The record of a method that was used so often; an inherited name has none. -/
def InfoFits (used : Nat) (method : String) : Option MethodDatabase → Prop
  | none => method ∉ inheritedNames → used = 0
  | some info => method ∉ inheritedNames ∧ info.total = limits method ∧ info.remaining = limits method - used

structure EntryFits (events : List RateRequest) (ip : String) (start : Nat) (entry : DatabaseEntry) : Prop where
  reset : entry.reset = start + duration
  infos : ∀ method, InfoFits limits ((ipWindows duration ip).countIn (ofMethod method) start events) method
    (entry.methodInfo.get method)

/-- The store holds the counts of the current windows. -/
structure Counted (events : List RateRequest) (realm : Realm) : Prop where
  builtins : realm.builtins = pristine
  lasts : realm.store.duration = duration
  unseen : ∀ ip, (ipWindows duration ip).current events = none → realm.store.database.get ip = none
  seen : ∀ ip start, (ipWindows duration ip).current events = some start →
    ∃ entry, realm.store.database.get ip = some entry ∧ EntryFits duration limits events ip start entry

variable {duration limits} {earlier : List RateRequest} {request : RateRequest} {realm after : Realm}
  {entry : DatabaseEntry}

theorem belongs_self (duration : Nat) (request : RateRequest) :
    (ipWindows duration request.key.ip).belongs request = true := decide_eq_true rfl

theorem counted_new : Counted duration limits [] { store := .new duration, builtins := pristine } where
  builtins := rfl
  lasts := rfl
  unseen _ _ := rfl
  seen := nofun

/-- A request writes the entry of its address. -/
theorem Counted.write (counted : Counted duration limits earlier realm)
    (writes : Realm.Writes request.key.ip entry realm after)
    (fits : EntryFits duration limits (request :: earlier) request.key.ip
      ((ipWindows duration request.key.ip).startOf earlier request) entry) :
    Counted duration limits (request :: earlier) after where
  builtins := writes.builtins.trans counted.builtins
  lasts := writes.duration.trans counted.lasts
  unseen := by
    intro ip none
    by_cases same : ip = request.key.ip
    · rw [same, Windows.current_cons_of_belongs (belongs_self duration request)] at none
      cases none
    · have foreign : (ipWindows duration ip).belongs request = false := decide_eq_false (Ne.symm same)
      rw [Windows.current_cons_of_not_belongs foreign] at none
      rw [writes.database, if_neg same]
      exact counted.unseen ip none
  seen := by
    intro ip start current
    by_cases same : ip = request.key.ip
    · subst same
      rw [Windows.current_cons_of_belongs (belongs_self duration request)] at current
      obtain rfl := Option.some.inj current
      refine ⟨entry, ?_, fits⟩
      rw [writes.database, if_pos rfl]
    · have foreign : (ipWindows duration ip).belongs request = false := decide_eq_false (Ne.symm same)
      rw [Windows.current_cons_of_not_belongs foreign] at current
      obtain ⟨held, found, heldFits⟩ := counted.seen ip start current
      refine ⟨held, ?_, heldFits.reset, ?_⟩
      · rw [writes.database, if_neg same]
        exact found
      · intro method
        rw [Windows.countIn_cons_of_not (.inl foreign)]
        exact heldFits.infos method

/-- Within a window the entry fits the window of the request. -/
theorem Counted.opened (counted : Counted duration limits earlier realm)
    (stays : (ipWindows duration request.key.ip).reopens earlier request = false) :
    EntryFits duration limits earlier request.key.ip ((ipWindows duration request.key.ip).startOf earlier request)
      (realm.openedEntry request.key.ip request.now) ∧
    ¬ (realm.openedEntry request.key.ip request.now).reset < request.now := by
  cases current : (ipWindows duration request.key.ip).current earlier with
  | none =>
      have absent := counted.unseen request.key.ip current
      rw [Realm.openedEntry, absent, Option.getD_none, counted.lasts]
      refine ⟨⟨?_, ?_⟩, ?_⟩
      · rw [Windows.startOf_of_none current]
        rfl
      · intro method _
        exact Windows.countIn_eq_zero_of_opens (.inl current)
      · exact Nat.not_lt_of_le (Nat.le_add_right _ _)
  | some start =>
      obtain ⟨entry, found, fits⟩ := counted.seen request.key.ip start current
      rw [Realm.openedEntry, found, Option.getD_some, Windows.startOf_of_stays current stays]
      refine ⟨fits, ?_⟩
      rw [fits.reset]
      rw [Windows.reopens, current, Option.any_some] at stays
      exact of_decide_eq_false stays

theorem Counted.ended (counted : Counted duration limits earlier realm)
    (reopens : (ipWindows duration request.key.ip).reopens earlier request = true) :
    (realm.openedEntry request.key.ip request.now).reset < request.now ∧
    ∀ method info, (realm.openedEntry request.key.ip request.now).methodInfo.get method = some info →
      method ∉ inheritedNames ∧ info.total = limits method := by
  obtain ⟨start, current, ended⟩ := (Option.any_eq_true _ _).mp reopens
  obtain ⟨entry, found, fits⟩ := counted.seen request.key.ip start current
  rw [Realm.openedEntry, found, Option.getD_some]
  constructor
  · rw [fits.reset]
    exact of_decide_eq_true ended
  · intro method info held
    have fitting := fits.infos method
    rw [held] at fitting
    exact ⟨fitting.1, fitting.2.1⟩

/-- The counts of the other methods stay as they are. -/
theorem countIn_other {method : String} (other : method ≠ request.key.method) (start : Nat) :
    (ipWindows duration request.key.ip).countIn (ofMethod method) start (request :: earlier) =
      (ipWindows duration request.key.ip).countIn (ofMethod method) start earlier :=
  Windows.countIn_cons_of_not (.inr (decide_eq_false (Ne.symm other)))

theorem countIn_same (earlier : List RateRequest) (request : RateRequest) :
    (ipWindows duration request.key.ip).countIn (ofMethod request.key.method)
        ((ipWindows duration request.key.ip).startOf earlier request) (request :: earlier) =
      usedBefore duration earlier request + 1 :=
  Windows.countIn_cons_of_chosen (belongs_self duration request) (decide_eq_true rfl)

/-- The answer to a request that the count allows or refuses, after which it is counted too. -/
def Answered (duration : Nat) (limits : String → Nat) (earlier : List RateRequest) (request : RateRequest)
    (realm : Realm) : Prop :=
  ∃ after, realm.incrementAndCheck request.key (limits request.key.method) request.now =
      .ok (!decide (request.key.method ∉ inheritedNames ∧
        usedBefore duration earlier request < limits request.key.method), after) ∧
    Counted duration limits (request :: earlier) after

/-- A method with an inherited name is refused and leaves the counts as they are. -/
theorem Counted.answered_inherited (counted : Counted duration limits earlier realm)
    (stands : (ipWindows duration request.key.ip).reopens earlier request = false)
    (inherited : request.key.method ∈ inheritedNames) : Answered duration limits earlier request realm := by
  obtain ⟨fits, stays⟩ := counted.opened stands
  have fitting := fits.infos request.key.method
  have absent : (realm.openedEntry request.key.ip request.now).methodInfo.get request.key.method = none := by
    cases held : (realm.openedEntry request.key.ip request.now).methodInfo.get request.key.method with
    | none => rfl
    | some info =>
        rw [held] at fitting
        exact absurd inherited fitting.1
  obtain ⟨after, answered, writes⟩ :=
    Realm.incrementAndCheck_inherited (limits request.key.method) counted.builtins inherited absent stays
  refine ⟨after, ?_, counted.write writes ⟨fits.reset, ?_⟩⟩
  · rw [answered, decide_eq_false (fun both => both.1 inherited)]
    rfl
  · intro method
    by_cases same : method = request.key.method
    · rw [same, absent]
      exact fun ordinary => absurd inherited ordinary
    · rw [countIn_other same]
      exact fits.infos method

/-- Within the window, the count of the method goes up. -/
theorem Counted.answered_ordinary (counted : Counted duration limits earlier realm)
    (stands : (ipWindows duration request.key.ip).reopens earlier request = false)
    (inherited : request.key.method ∉ inheritedNames) : Answered duration limits earlier request realm := by
  obtain ⟨fits, stays⟩ := counted.opened stands
  have fitting := fits.infos request.key.method
  have info : ((realm.openedEntry request.key.ip request.now).infoOf request.key.method
      (limits request.key.method)).total = limits request.key.method ∧
    ((realm.openedEntry request.key.ip request.now).infoOf request.key.method
      (limits request.key.method)).remaining =
        limits request.key.method - usedBefore duration earlier request := by
    unfold DatabaseEntry.infoOf
    cases held : (realm.openedEntry request.key.ip request.now).methodInfo.get request.key.method with
    | none =>
        rw [held] at fitting
        have unused : usedBefore duration earlier request = 0 := fitting inherited
        rw [unused]
        exact ⟨rfl, rfl⟩
    | some info =>
        rw [held] at fitting
        exact fitting.2
  obtain ⟨after, entry, answered, writes, sameReset, infos⟩ :=
    Realm.incrementAndCheck_stays (limits request.key.method) counted.builtins inherited stays
  refine ⟨after, ?_, counted.write writes ⟨sameReset.trans fits.reset, ?_⟩⟩
  · rw [answered, info.2]
    congr 2
    simp only [inherited, not_false_eq_true, true_and]
    rw [← decide_not]
    exact decide_eq_decide.mpr (by omega)
  · intro method
    rw [infos]
    split_ifs with same
    · rw [same, countIn_same]
      refine ⟨inherited, info.1, ?_⟩
      show _ - 1 = _
      rw [info.2, Nat.sub_sub]
    · rw [countIn_other same]
      exact fits.infos method

/-- A new window begins with the count of its first request. -/
theorem Counted.answered_reopens (counted : Counted duration limits earlier realm)
    (harmless : Harmless duration limits earlier request)
    (reopens : (ipWindows duration request.key.ip).reopens earlier request = true) :
    Answered duration limits earlier request realm := by
  obtain ⟨ordinary, positive⟩ := harmless reopens
  obtain ⟨ended, known⟩ := counted.ended reopens
  have unused : ∀ method, (ipWindows duration request.key.ip).countIn (ofMethod method)
      ((ipWindows duration request.key.ip).startOf earlier request) earlier = 0 :=
    fun method => Windows.countIn_eq_zero_of_opens (.inr reopens)
  obtain ⟨after, entry, answered, writes, reset, infos⟩ :=
    Realm.incrementAndCheck_resets (limits request.key.method) counted.builtins ordinary ended
  refine ⟨after, ?_, counted.write writes ⟨?_, ?_⟩⟩
  · have allowed : usedBefore duration earlier request < limits request.key.method := by
      rw [usedBefore, unused]
      exact positive
    rw [answered, decide_eq_true ⟨ordinary, allowed⟩]
    rfl
  · rw [reset, counted.lasts, Windows.startOf_of_reopens reopens]
    rfl
  · intro method
    rw [infos]
    split_ifs with same
    · rw [same, countIn_same, usedBefore, unused]
      exact ⟨ordinary, rfl, rfl⟩
    · rw [countIn_other same, unused]
      cases held : (realm.openedEntry request.key.ip request.now).methodInfo.get method with
      | none => exact fun _ => rfl
      | some info =>
          obtain ⟨ordinaryToo, total⟩ := known method info held
          exact ⟨ordinaryToo, total, total⟩

/-- The answer after a history that is counted. -/
theorem Counted.answer (counted : Counted duration limits earlier realm)
    (harmless : Harmless duration limits earlier request) : Answered duration limits earlier request realm := by
  cases reopens : (ipWindows duration request.key.ip).reopens earlier request with
  | false =>
    by_cases inherited : request.key.method ∈ inheritedNames
    · exact counted.answered_inherited reopens inherited
    · exact counted.answered_ordinary reopens inherited
  | true => exact counted.answered_reopens harmless reopens

end Counts

end HieroRelay.RateLimits
