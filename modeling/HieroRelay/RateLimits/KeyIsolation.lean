import HieroRelay.RateLimits.WindowCounts

/-! The store in memory keeps the methods and addresses apart, and leaves all other objects
alone, exactly as long as no window begins anew with an inherited name or a limit of zero. -/

namespace HieroRelay.RateLimits

open HieroRelay.Lib

variable (duration : Nat) (limits : String → Nat)

def admits (earlier : List RateRequest) (request : RateRequest) : Bool :=
  lruExceeded duration limits earlier request = some false

/-- How many requests of an address for a method were admitted in a window. -/
def admittedIn (ip method : String) (start : Nat) (events : List RateRequest) : Nat :=
  (ipWindows duration ip).countIn
    (fun earlier request => ofMethod method earlier request && admits duration limits earlier request) start events

/-- The requests of the address alone. -/
def ofAddress (ip : String) (events : List RateRequest) : List RateRequest :=
  events.filter fun request => request.key.ip = ip

/-- What is asked of a request after a history. -/
structure IsolatedStep (earlier : List RateRequest) (request : RateRequest) : Prop where
  bounded : ∀ ip method start, admittedIn duration limits ip method start (request :: earlier) ≤ limits method
  independent : lruExceeded duration limits earlier request =
    lruExceeded duration limits (ofAddress request.key.ip earlier) request
  outside : (lruAfter duration limits (request :: earlier)).builtins = (lruAfter duration limits earlier).builtins

def Isolated : List RateRequest → Prop
  | [] => True
  | request :: earlier => Isolated earlier ∧ IsolatedStep duration limits earlier request

def HarmlessHistory : List RateRequest → Prop
  | [] => True
  | request :: earlier => HarmlessHistory earlier ∧ Harmless duration limits earlier request

variable {duration limits} {earlier events : List RateRequest} {request : RateRequest}

theorem counted_lruAfter (harmless : HarmlessHistory duration limits events) :
    Counted duration limits events (lruAfter duration limits events) := by
  induction events with
  | nil => exact counted_new
  | cons request earlier ih =>
      obtain ⟨before, step⟩ := harmless
      obtain ⟨after, answered, counted⟩ := (ih before).answer step
      rw [lruAfter, answered]
      exact counted

/-- An ordinary request is rejected when the requests before it have used up the limit. -/
theorem lruExceeded_eq (before : HarmlessHistory duration limits earlier)
    (harmless : Harmless duration limits earlier request) :
    lruExceeded duration limits earlier request = some (!decide (request.key.method ∉ inheritedNames ∧
      usedBefore duration earlier request < limits request.key.method)) := by
  obtain ⟨after, answered, _⟩ := (counted_lruAfter before).answer harmless
  rw [lruExceeded, answered]

theorem admits_iff (before : HarmlessHistory duration limits earlier)
    (harmless : Harmless duration limits earlier request) :
    admits duration limits earlier request = true ↔
      request.key.method ∉ inheritedNames ∧ usedBefore duration earlier request < limits request.key.method := by
  rw [admits, decide_eq_true_eq, lruExceeded_eq before harmless]
  simp

theorem HarmlessHistory.suffix (harmless : HarmlessHistory duration limits events)
    (inside : request :: earlier <:+ events) :
    HarmlessHistory duration limits earlier ∧ Harmless duration limits earlier request := by
  induction events with
  | nil => cases List.suffix_nil.mp inside
  | cons event before ih =>
      rcases List.suffix_cons_iff.mp inside with same | later
      · obtain ⟨rfl, rfl⟩ := List.cons.inj same
        exact harmless
      · exact ih harmless.1 later

/-- As many requests for a method are admitted in a window as come, up to the limit. -/
theorem admittedIn_eq (harmless : HarmlessHistory duration limits events) {method : String}
    (ordinary : method ∉ inheritedNames) (ip : String) (start : Nat) :
    admittedIn duration limits ip method start events =
      min ((ipWindows duration ip).countIn (ofMethod method) start events) (limits method) := by
  apply Windows.countIn_allowed
  intro earlier request inside own isMethod
  obtain ⟨before, step⟩ := harmless.suffix inside
  rw [admits_iff before step, usedBefore, of_decide_eq_true own, of_decide_eq_true isMethod]
  simp [ordinary]

theorem admittedIn_le (harmless : HarmlessHistory duration limits events) (ip method : String) (start : Nat) :
    admittedIn duration limits ip method start events ≤ limits method := by
  by_cases inherited : method ∈ inheritedNames
  · have counted := Windows.countIn_allowed (ipWindows duration ip) (ofMethod method) (admits duration limits)
      start 0 events (by
        intro earlier request inside _ isMethod
        obtain ⟨before, step⟩ := harmless.suffix inside
        rw [admits_iff before step, of_decide_eq_true isMethod]
        simp [inherited])
    rw [admittedIn, counted]
    omega
  · rw [admittedIn_eq harmless inherited]
    exact Nat.min_le_right _ _

theorem belongs_ofAddress (ip : String) (request : RateRequest) (own : (ipWindows duration ip).belongs request = true) :
    (decide (request.key.ip = ip)) = true := own

theorem HarmlessHistory.ofAddress (harmless : HarmlessHistory duration limits events) (ip : String) :
    HarmlessHistory duration limits (ofAddress ip events) := by
  induction events with
  | nil => trivial
  | cons request earlier ih =>
      obtain ⟨before, step⟩ := harmless
      by_cases own : request.key.ip = ip
      · subst own
        rw [RateLimits.ofAddress, List.filter_cons_of_pos (by simp)]
        refine ⟨ih before, ?_⟩
        intro reopens
        rw [Windows.reopens_filter (belongs_ofAddress request.key.ip)] at reopens
        exact step reopens
      · rw [RateLimits.ofAddress, List.filter_cons_of_neg (by simpa using own)]
        exact ih before

private theorem usedBefore_ofAddress (earlier : List RateRequest) (request : RateRequest) :
    usedBefore duration (ofAddress request.key.ip earlier) request = usedBefore duration earlier request := by
  unfold usedBefore ofAddress
  rw [Windows.startOf_filter (belongs_ofAddress request.key.ip)]
  exact Windows.countIn_filter (belongs_ofAddress request.key.ip) _ _ _

private theorem lruExceeded_ofAddress (before : HarmlessHistory duration limits earlier)
    (harmless : Harmless duration limits earlier request) :
    lruExceeded duration limits earlier request =
      lruExceeded duration limits (ofAddress request.key.ip earlier) request := by
  have harmlessAlone : Harmless duration limits (ofAddress request.key.ip earlier) request := by
    intro reopens
    rw [ofAddress, Windows.reopens_filter (belongs_ofAddress request.key.ip)] at reopens
    exact harmless reopens
  rw [lruExceeded_eq before harmless, lruExceeded_eq (before.ofAddress _) harmlessAlone, usedBefore_ofAddress]

private theorem isolatedStep_of_harmless (before : HarmlessHistory duration limits earlier)
    (harmless : Harmless duration limits earlier request) : IsolatedStep duration limits earlier request where
  bounded := admittedIn_le ⟨before, harmless⟩
  independent := lruExceeded_ofAddress before harmless
  outside := by
    have after : HarmlessHistory duration limits (request :: earlier) := ⟨before, harmless⟩
    rw [(counted_lruAfter after).builtins, (counted_lruAfter before).builtins]

/-- A limit of zero is exceeded by the request that begins a window anew. -/
theorem admits_of_reopens (before : HarmlessHistory duration limits earlier)
    (reopens : (ipWindows duration request.key.ip).reopens earlier request = true)
    (ordinary : request.key.method ∉ inheritedNames) : admits duration limits earlier request = true := by
  have counted := counted_lruAfter before
  obtain ⟨after, _, answered, _⟩ := Realm.incrementAndCheck_resets (limits request.key.method) counted.builtins
    ordinary (counted.ended reopens).1
  rw [admits, lruExceeded, answered]
  rfl

/-- An inherited name that begins a window anew changes the object that it finds. -/
theorem total_of_reopens (before : HarmlessHistory duration limits earlier)
    (reopens : (ipWindows duration request.key.ip).reopens earlier request = true)
    (inherited : request.key.method ∈ inheritedNames) :
    ((lruAfter duration limits (request :: earlier)).builtins request.key.method).total =
      some (limits request.key.method) := by
  have counted := counted_lruAfter before
  obtain ⟨ended, known⟩ := counted.ended reopens
  obtain ⟨after, answered, polluted⟩ := Realm.incrementAndCheck_pollutes (limits request.key.method) inherited
    (by
      cases held : ((lruAfter duration limits earlier).openedEntry request.key.ip request.now).methodInfo.get
          request.key.method with
      | none => rfl
      | some info => exact absurd inherited (known _ info held).1) ended
  rw [lruAfter, answered]
  exact polluted

/-- The store isolates its keys along a history exactly if no window began anew with an
inherited name or a limit of zero. -/
theorem isolated_iff_harmless (duration : Nat) (limits : String → Nat) (events : List RateRequest) :
    Isolated duration limits events ↔ HarmlessHistory duration limits events := by
  induction events with
  | nil => exact Iff.rfl
  | cons request earlier ih =>
      constructor
      · rintro ⟨isolated, step⟩
        have before := ih.mp isolated
        refine ⟨before, ?_⟩
        intro reopens
        have ordinary : request.key.method ∉ inheritedNames := by
          intro inherited
          have polluted := total_of_reopens before reopens inherited
          rw [step.outside, (counted_lruAfter before).builtins] at polluted
          cases polluted
        refine ⟨ordinary, ?_⟩
        have bounded := step.bounded request.key.ip request.key.method
          ((ipWindows duration request.key.ip).startOf earlier request)
        have admitted : (ofMethod request.key.method earlier request && admits duration limits earlier request) = true :=
          Bool.and_eq_true_iff.mpr ⟨decide_eq_true rfl, admits_of_reopens before reopens ordinary⟩
        rw [admittedIn, Windows.countIn_cons_of_chosen (belongs_self duration request) admitted] at bounded
        exact Nat.lt_of_lt_of_le (Nat.succ_pos _) bounded
      · rintro ⟨before, harmless⟩
        exact ⟨ih.mpr before, isolatedStep_of_harmless before harmless⟩

/-- After its window an address asks for the method `__proto__`. -/
def prototypeRequested : List RateRequest :=
  [{ key := { ip := "10.0.0.1", method := "__proto__" }, now := 2000 },
    { key := { ip := "10.0.0.1", method := "eth_chainId" }, now := 0 }]

/-- The prototype of all objects has a limit of its own then, and a request of another
address fails for it. -/
theorem isolated_prototypeRequested_fails :
    ((lruAfter 1000 (fun _ => 5) prototypeRequested).builtins "__proto__" = { remaining := some 4, total := some 5 } ∧
      lruExceeded 1000 (fun _ => 5) prototypeRequested
        { key := { ip := "10.0.0.2", method := "remaining" }, now := 2000 } = none) ∧
      ¬ Isolated 1000 (fun _ => 5) prototypeRequested := by
  refine ⟨⟨by decide, by decide⟩, ?_⟩
  rintro ⟨_, step⟩
  have changed : ((lruAfter 1000 (fun _ => 5) prototypeRequested).builtins "__proto__").total ≠
      ((lruAfter 1000 (fun _ => 5) prototypeRequested.tail).builtins "__proto__").total := by decide
  exact changed (congrArg Counters.total (congrFun step.outside "__proto__"))

end HieroRelay.RateLimits
