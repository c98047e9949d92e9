import HieroRelay.Lib.Windows

/-! Fixed windows against spans of time: a bound for each window bounds every span by the number of
windows that it can touch. -/

namespace HieroRelay.Lib.Windows

variable {Event : Type} (windows : Windows Event)

/-- The start of the window of each event. -/
def starts : List Event → List Nat
  | [] => []
  | event :: earlier =>
      if windows.belongs event then windows.startOf earlier event :: starts earlier else starts earlier

/-- How many chosen events come at a time or after it, in windows that start before another time. -/
def countFrom (chosen : List Event → Event → Bool) (first before : Nat) : List Event → Nat
  | [] => 0
  | event :: earlier =>
      (if windows.belongs event ∧ chosen earlier event ∧ first ≤ windows.time event ∧
          windows.startOf earlier event < before then 1 else 0) + countFrom chosen first before earlier

/-- How many chosen events come in a span of time. -/
def countBetween (chosen : List Event → Event → Bool) (first last : Nat) : List Event → Nat
  | [] => 0
  | event :: earlier =>
      (if windows.belongs event ∧ chosen earlier event ∧ first ≤ windows.time event ∧ windows.time event ≤ last then 1
        else 0) + countBetween chosen first last earlier

/-- The events come in the order of their times, the latest one first. -/
def Ordered (events : List Event) : Prop :=
  events.Pairwise fun later earlier => windows.time earlier ≤ windows.time later

variable {windows} {event : Event} {earlier events : List Event} {start first before bound : Nat}
  {chosen : List Event → Event → Bool}

theorem time_le_startOf_add (windows : Windows Event) (event : Event) (earlier : List Event) :
    windows.time event ≤ windows.startOf earlier event + windows.duration := by
  unfold startOf after
  split
  · exact Nat.le_add_right _ _
  · split_ifs with ended
    · exact Nat.le_add_right _ _
    · exact Nat.not_lt.mp ended

/-- The current window was opened by an event. -/
theorem exists_of_current (current : windows.current events = some start) :
    ∃ event ∈ events, windows.time event = start := by
  induction events generalizing start with
  | nil => cases current
  | cons event earlier ih =>
    cases own : windows.belongs event with
    | false =>
      rw [current_cons_of_not_belongs own] at current
      obtain ⟨opening, member, time⟩ := ih current
      exact ⟨opening, List.mem_cons_of_mem event member, time⟩
    | true =>
      rw [current_cons_of_belongs own] at current
      obtain rfl := Option.some.inj current
      cases known : windows.current earlier with
      | none => exact ⟨event, List.mem_cons_self, (startOf_of_none known).symm⟩
      | some previous =>
        cases reopened : windows.reopens earlier event with
        | true => exact ⟨event, List.mem_cons_self, (startOf_of_reopens reopened).symm⟩
        | false =>
          obtain ⟨opening, member, time⟩ := ih known
          exact ⟨opening, List.mem_cons_of_mem event member, time.trans (startOf_of_stays known reopened).symm⟩

/-- In order, no window starts after its events. -/
theorem startOf_le_time (ordered : windows.Ordered (event :: earlier)) :
    windows.startOf earlier event ≤ windows.time event := by
  cases known : windows.current earlier with
  | none => exact Nat.le_of_eq (startOf_of_none known)
  | some previous =>
    cases reopened : windows.reopens earlier event with
    | true => exact Nat.le_of_eq (startOf_of_reopens reopened)
    | false =>
      obtain ⟨opening, member, time⟩ := exists_of_current known
      rw [startOf_of_stays known reopened, ← time]
      exact (List.pairwise_cons.mp ordered).1 opening member

theorem starts_cons_of_belongs (own : windows.belongs event = true) :
    windows.starts (event :: earlier) = windows.startOf earlier event :: windows.starts earlier := if_pos own

theorem starts_cons_of_not_belongs (other : windows.belongs event = false) :
    windows.starts (event :: earlier) = windows.starts earlier := if_neg (Bool.not_eq_true _ ▸ other)

/-- The current window is the last one, and those before it were over when it opened. -/
theorem starts_current (member : start ∈ windows.starts events) :
    ∃ current, windows.current events = some current ∧
      (start = current ∨ start + windows.duration < current) := by
  induction events generalizing start with
  | nil => cases member
  | cons event earlier ih =>
    cases own : windows.belongs event with
    | false =>
      rw [starts_cons_of_not_belongs own] at member
      rw [current_cons_of_not_belongs own]
      exact ih member
    | true =>
      rw [starts_cons_of_belongs own] at member
      rw [current_cons_of_belongs own]
      refine ⟨_, rfl, ?_⟩
      rcases List.mem_cons.mp member with same | inside
      · exact .inl same
      · obtain ⟨current, known, place⟩ := ih inside
        cases reopened : windows.reopens earlier event with
        | false =>
          rw [startOf_of_stays known reopened]
          exact place
        | true =>
          have later := lt_startOf_of_reopens known reopened
          have ended : current + windows.duration < windows.startOf earlier event := by
            rw [startOf_of_reopens reopened]
            rw [reopens, known, Option.any_some, decide_eq_true_eq] at reopened
            exact reopened
          rcases place with rfl | before
          · exact .inr ended
          · exact .inr (by omega)

/-- A window starts after the end of the one before. -/
theorem starts_apart {other : Nat} (member : start ∈ windows.starts events) (later : other ∈ windows.starts events)
    (before : start < other) : start + windows.duration < other := by
  induction events generalizing start other with
  | nil => cases member
  | cons event earlier ih =>
    cases own : windows.belongs event with
    | false =>
      rw [starts_cons_of_not_belongs own] at member later
      exact ih member later before
    | true =>
      obtain ⟨current, known, place⟩ := starts_current later
      obtain ⟨same, alsoKnown, otherPlace⟩ := starts_current member
      obtain rfl := Option.some.inj (known.symm.trans alsoKnown)
      rw [starts_cons_of_belongs own] at member later
      rw [current_cons_of_belongs own] at known
      obtain rfl := Option.some.inj known
      rcases List.mem_cons.mp later with rfl | laterInside
      · rcases otherPlace with rfl | apart
        · exact absurd before (Nat.lt_irrefl _)
        · exact apart
      · rcases List.mem_cons.mp member with rfl | inside
        · rcases place with rfl | apart
          · exact absurd before (Nat.lt_irrefl _)
          · omega
        · exact ih inside laterInside before

theorem countFrom_zero (events : List Event) : windows.countFrom chosen first 0 events = 0 := by
  induction events with
  | nil => rfl
  | cons event earlier ih =>
    rw [countFrom, ih, if_neg]
    intro counted
    exact absurd counted.2.2.2 (Nat.not_lt_zero _)

/-- A time at which no window starts makes no difference. -/
theorem countFrom_succ_of_not_mem (absent : before ∉ windows.starts events) :
    windows.countFrom chosen first (before + 1) events = windows.countFrom chosen first before events := by
  induction events with
  | nil => rfl
  | cons event earlier ih =>
    cases own : windows.belongs event with
    | false =>
      rw [starts_cons_of_not_belongs own] at absent
      simp only [countFrom, own, Bool.false_eq_true, false_and, if_false, ih absent]
    | true =>
      rw [starts_cons_of_belongs own, List.mem_cons, not_or] at absent
      have same : windows.startOf earlier event < before + 1 ↔ windows.startOf earlier event < before := by
        have different := absent.1
        omega
      simp only [countFrom, own, same, ih absent.2]

/-- The window that starts at a time, and those that ended before it. -/
theorem countFrom_succ_le (chosen : List Event → Event → Bool) (first : Nat)
    (apart : ∀ other ∈ windows.starts events, other < before → other + windows.duration < before) :
    windows.countFrom chosen first (before + 1) events ≤
      windows.countIn chosen before events + windows.countFrom chosen first (before - windows.duration) events := by
  induction events with
  | nil => exact Nat.zero_le _
  | cons event earlier ih =>
    cases own : windows.belongs event with
    | false =>
      rw [starts_cons_of_not_belongs own] at apart
      have rest := ih apart
      simp only [countFrom, countIn, own, Bool.false_eq_true, false_and, if_false]
      omega
    | true =>
      rw [starts_cons_of_belongs own] at apart
      have rest := ih fun other member => apart other (List.mem_cons_of_mem _ member)
      have ended := apart _ List.mem_cons_self
      simp only [countFrom, countIn, own, true_and]
      by_cases counted : chosen earlier event = true ∧ first ≤ windows.time event ∧
          windows.startOf earlier event < before + 1
      · rcases Nat.lt_or_eq_of_le (Nat.le_of_lt_succ counted.2.2) with less | same
        · have passed : windows.startOf earlier event < before - windows.duration := by
            have apart := ended less
            omega
          rw [if_pos counted, if_pos (And.intro counted.1 (And.intro counted.2.1 passed))]
          omega
        · rw [if_pos counted, if_pos (And.intro counted.1 same)]
          omega
      · rw [if_neg counted]
        omega

/-- Windows that were over before a time have no events from then on. -/
theorem countFrom_eq_zero (events : List Event) (early : before ≤ first) :
    windows.countFrom chosen first (before - windows.duration) events = 0 := by
  induction events with
  | nil => rfl
  | cons event earlier ih =>
    rw [countFrom, ih, if_neg]
    intro counted
    have inside := time_le_startOf_add windows event earlier
    have late := counted.2.2.1
    have opened := counted.2.2.2
    omega

/-- A span of some durations touches at most one window more than that. -/
theorem countFrom_le (bounded : ∀ start, windows.countIn chosen start events ≤ bound) (spans : Nat)
    (close : before ≤ first + spans * windows.duration + 1) :
    windows.countFrom chosen first before events ≤ (spans + 1) * bound := by
  induction spans generalizing before with
  | zero =>
    induction before with
    | zero => rw [countFrom_zero]; exact Nat.zero_le _
    | succ before ih =>
      by_cases opens : before ∈ windows.starts events
      · have peeled := countFrom_succ_le chosen first fun other member => starts_apart member opens
        have rest : windows.countFrom chosen first (before - windows.duration) events = 0 :=
          countFrom_eq_zero events (by omega)
        have window := bounded before
        omega
      · rw [countFrom_succ_of_not_mem opens]
        exact ih (by omega)
  | succ spans ihSpans =>
    rw [Nat.succ_mul] at close ⊢
    induction before with
    | zero => rw [countFrom_zero]; exact Nat.zero_le _
    | succ before ih =>
      by_cases opens : before ∈ windows.starts events
      · have peeled := countFrom_succ_le chosen first fun other member => starts_apart member opens
        have sooner : before - windows.duration ≤ first + spans * windows.duration + 1 := by omega
        have rest := ihSpans sooner
        have window := bounded before
        omega
      · rw [countFrom_succ_of_not_mem opens]
        exact ih (by omega)

private theorem countBetween_le_countFrom {last : Nat} (ordered : windows.Ordered events) :
    windows.countBetween chosen first last events ≤ windows.countFrom chosen first (last + 1) events := by
  induction events with
  | nil => exact Nat.le_refl 0
  | cons event earlier ih =>
    have rest := ih (List.pairwise_cons.mp ordered).2
    have opened := startOf_le_time ordered
    rw [countBetween, countFrom]
    by_cases counted : windows.belongs event ∧ chosen earlier event ∧ first ≤ windows.time event ∧
        windows.time event ≤ last
    · rw [if_pos counted, if_pos ⟨counted.1, counted.2.1, counted.2.2.1, by omega⟩]
      omega
    · rw [if_neg counted]
      omega

/-- Where no window has more chosen events than a bound, no span of time has more than the bound for
each of its durations and once more. -/
theorem countBetween_le (ordered : windows.Ordered events)
    (bounded : ∀ start, windows.countIn chosen start events ≤ bound) (first spans : Nat) :
    windows.countBetween chosen first (first + spans * windows.duration) events ≤ (spans + 1) * bound :=
  (countBetween_le_countFrom ordered).trans (countFrom_le bounded spans (Nat.le_refl _))

/-- The events before one in its window come within the duration before it. -/
theorem countIn_le_countBetween (chosen : List Event → Event → Bool) (ordered : windows.Ordered (event :: earlier)) :
    windows.countIn chosen (windows.startOf earlier event) earlier ≤
      windows.countBetween chosen (windows.time event - windows.duration) (windows.time event) earlier := by
  have opened := time_le_startOf_add windows event earlier
  generalize windows.startOf earlier event = start at opened
  induction earlier with
  | nil => exact Nat.le_refl 0
  | cons previous before ih =>
    obtain ⟨late, rest⟩ := List.pairwise_cons.mp ordered
    have inside := startOf_le_time rest
    have counts := ih (List.pairwise_cons.mpr
      ⟨fun other member => late other (List.mem_cons_of_mem _ member), (List.pairwise_cons.mp rest).2⟩)
    have ordered := late previous List.mem_cons_self
    rw [countIn, countBetween]
    by_cases counted : windows.belongs previous ∧ chosen before previous ∧ windows.startOf before previous = start
    · rw [if_pos counted, if_pos ⟨counted.1, counted.2.1, by have same := counted.2.2; omega, ordered⟩]
      omega
    · rw [if_neg counted]
      omega

/-- Where an event is allowed only as long as fewer than a limit were counted before it in its window,
no window has more allowed events than the limit. -/
theorem countIn_le_of_allowed (counted : List Event → Event → Bool) {allows : List Event → Event → Bool} {limit : Nat}
    (counts : ∀ earlier event, allows earlier event = true → counted earlier event = true)
    (bounded : ∀ earlier event, event :: earlier <:+ events → windows.belongs event = true →
      allows earlier event = true → windows.countIn counted (windows.startOf earlier event) earlier < limit)
    (start : Nat) : windows.countIn allows start events ≤ min (windows.countIn counted start events) limit := by
  induction events with
  | nil => exact Nat.zero_le _
  | cons event earlier ih =>
    have rest := ih fun before other inside => bounded before other (inside.trans (List.suffix_cons event earlier))
    by_cases allowed : windows.belongs event = true ∧ allows earlier event = true ∧
        windows.startOf earlier event = start
    · obtain ⟨own, allowed, rfl⟩ := allowed
      rw [countIn_cons_of_chosen own allowed, countIn_cons_of_chosen own (counts earlier event allowed)]
      have below := bounded earlier event List.suffix_rfl own allowed
      omega
    · rw [countIn, if_neg allowed, countIn]
      omega

end HieroRelay.Lib.Windows
